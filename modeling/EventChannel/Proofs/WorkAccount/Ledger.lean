import EventChannel.Proofs.History
import EventChannel.Proofs.Keeping.Binding

namespace EventChannel

open Guest

namespace History

/-- Whether the work of a port was queued and has since been neither claimed nor cancelled, nor the
port been reset. -/
def isWaiting (port : Port) : History → Bool
  | [] => false
  | .saw _ (.workQueued p _) _ :: before => p = port || isWaiting port before
  | .saw _ (.workClaimed p) _ :: before | .saw _ (.workCancelled p _) _ :: before
  | .saw _ (.slotReset p) _ :: before => p ≠ port && isWaiting port before
  | _ :: before => isWaiting port before

/-- How many deferred handlers each operation under way has started itself, the innermost operation
first. -/
def started : History → List Nat
  | [] => []
  | .began .. :: before => 0 :: started before
  | .ended .. :: before => (started before).tail
  | .called _ (.handle .deferred _ _) _ :: before => (started before).modifyHead (· + 1)
  | _ :: before => started before

end History

/-- Whether an operation is a run of deferred work, of all words or of one. -/
def Operation.runsDeferred : Operation → Bool
  | channels .deferredPass | table (.runWordAt _) => true
  | _ => false

/-- The deferred handler that a call starts. -/
def Request.deferred? : Request → Option (HandlerName × Port)
  | .handle .deferred handler port => some (handler, port)
  | _ => none

theorem Request.deferred?_eq_none (r : Request) (h : r.startsHandler = false) :
    r.deferred? = none := by
  unfold deferred?
  split
  · cases h
  · rfl

namespace Entry

/-- Whether the work of a port is newly queued at an entry. -/
def queuesWork (port : Port) : Entry → Bool
  | saw _ (.workQueued p _) _ => p = port
  | _ => false

/-- Whether a deferred run claims the work of a port at an entry. -/
def claimsWork (port : Port) : Entry → Bool
  | saw _ (.workClaimed p) _ => p = port
  | _ => false

/-- Whether work of a port that was queued is cancelled at an entry. -/
def cancelsWork (port : Port) : Entry → Bool
  | saw _ (.workCancelled p found) _ => found && p = port
  | _ => false

/-- Whether an entry tells of a change to queued work. -/
def changesWork : Entry → Bool
  | saw _ (.workQueued ..) _ | saw _ (.workClaimed _) _ | saw _ (.workCancelled ..) _
  | saw _ (.slotReset _) _ => true
  | _ => false

/-- The deferred handler that is started at an entry. -/
def startedDeferred? : Entry → Option (HandlerName × Port)
  | called _ (.handle .deferred handler port) _ => some (handler, port)
  | _ => none

theorem startedDeferred?_called (depth : Nat) (r : Request) (state : Channels) :
    (called depth r state).startedDeferred? = r.deferred? := by
  cases r with
  | handle context => cases context <;> rfl
  | _ => rfl

/-- The handler that a claim of work finds under the published kind, if that is deferred. -/
def claimedHandler? : Entry → Option (HandlerName × Port)
  | saw _ (.workClaimed port) state =>
    if (state.table.kind port).isDeferred then
      (state.table.handler? port (state.table.kind port)).map (·, port)
    else none
  | _ => none

/-- Work changes as the history has it: it is queued while it is not waiting, claimed while it is,
and cancelled with the right finding; a reset comes after a cancellation. -/
def FollowsWork : Entry → History → Prop
  | saw _ (.workQueued port _) _, before => before.isWaiting port = false
  | saw _ (.workClaimed port) _, before => before.isWaiting port = true
  | saw _ (.workCancelled port found) _, before => before.isWaiting port = found
  | saw _ (.slotReset port) _, before => before.isWaiting port = false
  | _, _ => True

/-- A run of deferred work returns how many handlers it has started itself. -/
def ReturnsStarted : Entry → History → Prop
  | ended _ op result _, before =>
    op.runsDeferred = true → ∃ n, result = .ok (.number n) ∧ before.started.head? = some n
  | _, _ => True

end Entry

/-- The queued items are those that wait by the history. -/
def WorkTold (t : ActionTable) (history : History) : Prop :=
  ∀ port, t.isQueued port = history.isWaiting port

/-- What is known of every entry about deferred work. -/
structure Entry.TellsWork (entry : Entry) (before : History) : Prop where
  told : WorkTold entry.state.table (entry :: before)
  follows : entry.FollowsWork before
  startsClaimed : entry.startedDeferred? = before.head?.bind Entry.claimedHandler?
  returns : entry.ReturnsStarted before

namespace History

theorem isWaiting_cons {entry : Entry} (h : entry.changesWork = false) (port : Port)
    (before : History) : isWaiting port (entry :: before) = before.isWaiting port := by
  unfold Entry.changesWork at h
  split at h
  · cases h
  · cases h
  · cases h
  · cases h
  next hqueued hclaimed hcancelled hreset =>
    rw [isWaiting]
    · exact hqueued
    · exact hclaimed
    · exact hcancelled
    · exact hreset

end History

/-- What an entry adds to the account of a port's work is what it changes about the waiting. -/
theorem Entry.FollowsWork.balance {entry : Entry} {before : History}
    (h : entry.FollowsWork before) (port : Port) :
    (entry.queuesWork port).toNat + (before.isWaiting port).toNat =
      (entry.claimsWork port).toNat + (entry.cancelsWork port).toNat +
        (History.isWaiting port (entry :: before)).toNat := by
  cases hentry : entry.changesWork with
  | false =>
    rw [History.isWaiting_cons hentry]
    cases entry with
    | saw _ event _ =>
      cases event with
      | workQueued | workClaimed | workCancelled | slotReset => cases hentry
      | _ => rfl
    | _ => rfl
  | true =>
    cases entry with
    | saw _ event _ =>
      cases event with
      | workQueued p _ | workClaimed p | workCancelled p _ | slotReset p =>
        simp only [FollowsWork] at h
        simp only [queuesWork, claimsWork, cancelsWork, History.isWaiting]
        by_cases he : p = port
        · subst he
          simp [h]
        · simp [he]
      | _ => cases hentry
    | _ => cases hentry

/-- Every queueing of a port's work has been used up by one claim or one cancellation, or the work
waits still. -/
theorem History.countP_queuesWork {history : History} (h : history.Always Entry.FollowsWork)
    (port : Port) : history.countP (Entry.queuesWork port) =
      history.countP (Entry.claimsWork port) + history.countP (Entry.cancelsWork port) +
        (history.isWaiting port).toNat := by
  induction h with
  | nil => rfl
  | @cons entry before latest _ ih =>
    have hstep := latest.balance port
    rw [countP_cons, countP_cons, countP_cons]
    omega

end EventChannel
