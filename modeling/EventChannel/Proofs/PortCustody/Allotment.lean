import EventChannel.Operation.Run
import EventChannel.Proofs.Keeping.Scan

namespace EventChannel

/-- Whether a request is to have a port allotted or taken back. -/
def Request.movesPort : Request → Bool
  | .hypercall (.close _) | .hypercall (.allocUnbound _ _) | .hypercall (.bindIpi _) => true
  | .hypercall (.send _) | .setParam _ _ | .connect _ | .disconnect _ | .queueDeferred
  | .flushDeferred | .handle _ _ _ => false

/-- Whether an operation may have a port allotted or taken back. -/
def Operation.movesPort : Operation → Bool
  | .channels .init | .channels .resume | .channels (.close _) | .channels (.allocUnbound _)
  | .channels (.allocIpi _) => true
  | _ => false

namespace Platform

variable {σ : Type}

/-- The platform with other answers to the requests for which ports are allotted or taken back. -/
def allotting (P : Platform σ) (f : Hypercall → Guest σ (Except Errno UInt32)) : Platform σ where
  perform
    | .hypercall (.send port) => P.perform (.hypercall (.send port))
    | .hypercall (.close number) => f (.close number)
    | .hypercall (.allocUnbound dom remote) => f (.allocUnbound dom remote)
    | .hypercall (.bindIpi vcpu) => f (.bindIpi vcpu)
    | .setParam param value => P.perform (.setParam param value)
    | .connect line => P.perform (.connect line)
    | .disconnect line => P.perform (.disconnect line)
    | .queueDeferred => P.perform .queueDeferred
    | .flushDeferred => P.perform .flushDeferred
    | .handle context handler port => P.perform (.handle context handler port)
  observe := P.observe

theorem perform_allotting {P : Platform σ} {f : Hypercall → Guest σ (Except Errno UInt32)}
    {r : Request} (h : r.movesPort = false) : (P.allotting f).perform r = P.perform r := by
  cases r with
  | hypercall op =>
    cases op with
    | send port => rfl
    | _ => cases h
  | _ => rfl

/-- Platforms that answer all other requests alike differ by such answers only. -/
theorem eq_allotting {P Q : Platform σ} (hperform : ∀ r, r.movesPort = false → Q.perform r = P.perform r)
    (hobserve : Q.observe = P.observe) :
    Q = P.allotting fun op => Q.perform (.hypercall op) := by
  cases Q with
  | mk perform observe =>
    obtain rfl : observe = P.observe := hobserve
    rw [allotting]
    congr 1
    funext r
    cases r with
    | hypercall op =>
      cases op with
      | send port => exact hperform _ rfl
      | _ => rfl
    | _ => exact hperform _ rfl

end Platform

namespace Guest

variable {σ : Type} (P : Platform σ) (f : Hypercall → Guest σ (Except Errno UInt32))

theorem cancelEach_allotting (ports : List Port) :
    cancelEach (P.allotting f) ports = cancelEach P ports := by
  induction ports with
  | nil => rfl
  | cons port ports ih =>
    rw [cancelEach, cancelEach, ih]
    rfl

theorem cancelAll_allotting : cancelAll (P.allotting f) = cancelAll P := cancelEach_allotting P f _

theorem broadcastTo_allotting (ports : List Port) :
    broadcastTo (P.allotting f) ports = broadcastTo P ports := by
  induction ports with
  | nil => rfl
  | cons port ports ih =>
    rw [broadcastTo, broadcastTo, ih]
    rfl

theorem broadcast_allotting : broadcast (P.allotting f) = broadcast P := broadcastTo_allotting P f _

theorem resetSlots_allotting (ports : List Port) :
    resetSlots (P.allotting f) ports = resetSlots P ports := by
  induction ports with
  | nil => rfl
  | cons port ports ih =>
    rw [resetSlots, resetSlots, ih]
    rfl

theorem resetTable_allotting : resetTable (P.allotting f) = resetTable P := resetSlots_allotting P f _

theorem emptyQueue_allotting : emptyQueue (P.allotting f) = emptyQueue P := by
  unfold emptyQueue
  rw [cancelAll_allotting]
  rfl

theorem service_allotting (port : Port) (kind : Kind) :
    service (P.allotting f) port kind = service P port kind := by
  cases kind with
  | suspend =>
    rw [service, service, broadcast_allotting]
    rfl
  | _ => rfl

theorem consume_allotting (word bit : Fin 64) :
    consume (P.allotting f) word bit = consume P word bit := by
  unfold consume deliver
  simp only [service_allotting]
  rfl

theorem scanWord_allotting (word : Fin 64) (serviced : Word) (outcome : PassOutcome) :
    scanWord (P.allotting f) word serviced outcome = scanWord P word serviced outcome := by
  induction hn : serviced.room using Nat.strongRecOn generalizing serviced outcome with
  | _ n ih =>
    rw [scanWord, scanWord]
    apply bind_congr
    intro ready
    dsimp only
    split
    next => rfl
    next =>
      split
      next hlt =>
        have hroom := Word.room_insert_lt_of_trailingZeros hlt
        rw [consume_allotting]
        simp only [ih _ (hn ▸ hroom) _ _ rfl]
      next => rfl

theorem scanWords_allotting (words : List (Fin 64)) (outcome : PassOutcome) :
    scanWords (P.allotting f) words outcome = scanWords P words outcome := by
  induction words generalizing outcome with
  | nil => rfl
  | cons word words ih => simp only [scanWords, scanWord_allotting, ih]

theorem scannerPass_allotting : scannerPass (P.allotting f) = scannerPass P := by
  unfold scannerPass
  simp only [scanSelector_eq, scanWords_allotting]
  rfl

theorem runItems_allotting (word : Fin 16) (bits : List (Fin 64)) (ran : Nat) :
    runItems (P.allotting f) word bits ran = runItems P word bits ran := by
  induction bits generalizing ran with
  | nil => rfl
  | cons bit bits ih =>
    simp only [runItems, ih]
    rfl

theorem runWord_allotting (word : Fin 16) : runWord (P.allotting f) word = runWord P word := by
  unfold runWord
  simp only [runFlagged_eq, runItems_allotting]

theorem runWordAt_allotting (word : Nat) : runWordAt (P.allotting f) word = runWordAt P word := by
  unfold runWordAt
  simp only [runWord_allotting]

theorem runWords_allotting (words : List (Fin 16)) (ran : Nat) :
    runWords (P.allotting f) words ran = runWords P words ran := by
  induction words generalizing ran with
  | nil => rfl
  | cons word words ih =>
    simp only [runWords, runWord_allotting, ih]
    rfl

theorem shutdown_allotting : shutdown (P.allotting f) = shutdown P := by
  unfold shutdown
  rw [emptyQueue_allotting]
  rfl

end Guest

open Guest

variable {σ : Type} {P : Platform σ} {f : Hypercall → Guest σ (Except Errno UInt32)}

theorem TableOperation.run_allotting (op : TableOperation) : op.run (P.allotting f) = op.run P := by
  cases op with
  | reset => rw [run, run, resetTable_allotting]
  | cancelAll => rw [run, run, cancelAll_allotting]
  | broadcast => rw [run, run, broadcast_allotting]
  | runWordAt word => rw [run, run, runWordAt_allotting]
  | _ => rfl

/-- An operation that has no port allotted or taken back does not depend on how that is done. -/
theorem Operation.run_allotting {op : Operation} (h : op.movesPort = false) :
    op.run (P.allotting f) = op.run P := by
  cases op with
  | page op => rfl
  | vcpu v op => rfl
  | table op => exact op.run_allotting
  | channels op =>
    cases op with
    | init | resume | close | allocUnbound | allocIpi => cases h
    | suspend =>
      unfold run ChannelOperation.run Guest.suspend
      rw [emptyQueue_allotting]
      rfl
    | shutdown =>
      unfold run ChannelOperation.run
      rw [shutdown_allotting]
    | scannerPass =>
      unfold run ChannelOperation.run
      rw [scannerPass_allotting]
    | deferredPass =>
      unfold run ChannelOperation.run deferredPass
      rw [runWords_allotting]
    | _ => rfl

end EventChannel
