import EventChannel.Guest.Deferred
import EventChannel.Guest.Scan
import EventChannel.Proofs.Keeping.Binding
import EventChannel.Proofs.SharedPage
import EventChannel.Proofs.Word

namespace EventChannel.Guest

variable {σ : Type} {P : Platform σ} {lost J : System σ → Prop} {port : Port}

/-- Work is queued only while interrupts are not masked, and a run for it requested last. -/
theorem leads_postpone {queued post : System σ → Prop}
    (hdropped : Leads lost J (note P (.deferredWorkDropped port)) fun _ => post)
    (henqueue : Leads lost (fun s => J s ∧ s.channels.interruptsMasked = false) (enqueue P port)
      fun _ => queued)
    (hcall : Leads lost queued (call P .queueDeferred) fun _ => post)
    (hwaiting : ∀ s, queued s → post s) : Leads lost J (postpone P port) fun _ => post := by
  apply Leads.interruptsMasked.bind
  intro masked
  cases masked with
  | true => exact hdropped.of_pre fun _ hs => hs.1
  | false =>
    apply henqueue.bind
    intro fresh
    cases fresh with
    | true => exact hcall
    | false => exact .pure hwaiting

theorem keeps_postpone_of_open (h : Stable P lost J)
    (hrequest : Keeps lost J (call P .queueDeferred))
    (henqueue : Leads lost (fun s => J s ∧ s.channels.interruptsMasked = false) (enqueue P port)
      fun _ => J) : Keeps lost J (postpone P port) :=
  leads_postpone (h.note _ rfl) henqueue hrequest fun _ => id

theorem keeps_postpone (h : Stable P lost J) (hrequest : Keeps lost J (call P .queueDeferred))
    (henqueue : Keeps lost J (enqueue P port)) : Keeps lost J (postpone P port) :=
  keeps_postpone_of_open h hrequest (Leads.of_pre henqueue fun _ hs => hs.1)

theorem leads_service_normal {pre : System σ → Prop}
    (hstart : ∀ handler,
      Leads lost (fun s => pre s ∧ s.channels.table.handler? port .normal = some handler)
        (call P (.handle .inline handler port)) fun _ => J)
    (hnone : Leads lost (fun s => pre s ∧ s.channels.table.handler? port .normal = none)
      (note P (.noHandlerBound port)) fun _ => J) :
    Leads lost pre (service P port .normal) fun _ => J := by
  apply Leads.table.bind
  intro t
  dsimp only
  split
  next handler hhandler =>
    apply ((hstart handler).of_pre _).bind fun _ => .pure fun _ => id
    intro s hs
    obtain ⟨hs, rfl⟩ := hs
    exact ⟨hs, hhandler⟩
  next hhandler =>
    apply (hnone.of_pre _).bind fun _ => .pure fun _ => id
    intro s hs
    obtain ⟨hs, rfl⟩ := hs
    exact ⟨hs, hhandler⟩

theorem keeps_service_normal (h : Stable P lost J)
    (hstart : ∀ handler, Keeps lost J (call P (.handle .inline handler port))) :
    Keeps lost J (service P port .normal) :=
  leads_service_normal (fun handler => Leads.of_pre (hstart handler) fun _ hs => hs.1)
    (Leads.of_pre (h.note _ rfl) fun _ hs => hs.1)

/-- A broadcast may suspend an assertion until it is told. -/
theorem leads_service_suspend {pre told asking : System σ → Prop}
    (hbroadcast : Leads lost pre (broadcast P) fun _ => told)
    (hseen : ∀ marked, Leads lost told (note P (.suspendBroadcast port marked)) fun _ => asking)
    (hrequest : Leads lost asking (call P .queueDeferred) fun _ => J)
    (hidle : ∀ s, asking s → J s) : Leads lost pre (service P port .suspend) fun _ => J := by
  apply hbroadcast.bind
  rintro ⟨marked, queued⟩
  apply (hseen marked).bind
  intro _
  exact Leads.guarded (fun _ => hrequest) (fun _ => hidle) fun _ => .pure fun _ => id

theorem keeps_service_of_kinds (h : Stable P lost J) {kind : Kind}
    (hnormal : kind = .normal → Keeps lost J (service P port .normal))
    (hmark : Keeps lost J (onTable fun t => t.setOutstanding port))
    (hpostpone : Keeps lost J (postpone P port))
    (hsuspend : Keeps lost J (service P port .suspend)) : Keeps lost J (service P port kind) := by
  cases kind with
  | empty => exact (h.note _ rfl).bind fun _ => .pure _
  | normal => exact hnormal rfl
  | deferredProcedure => exact hpostpone.bind fun _ => .pure _
  | deferredHardwareIrq => exact hmark.discard.bind fun _ => hpostpone.bind fun _ => .pure _
  | suspend => exact hsuspend

theorem keeps_service (h : Stable P lost J) (hrequest : Keeps lost J (call P .queueDeferred))
    {kind : Kind} (hnormal : kind = .normal → Keeps lost J (service P port .normal))
    (hmark : ∀ port, Keeps lost J (onTable fun t => t.setOutstanding port))
    (henqueue : ∀ port, Keeps lost J (enqueue P port)) : Keeps lost J (service P port kind) := by
  have hbroadcast : Keeps lost J (broadcast P) :=
    keeps_broadcast fun port => keeps_renew (hmark port) (henqueue port)
  exact keeps_service_of_kinds h hnormal (hmark port) (keeps_postpone h hrequest (henqueue port))
    (leads_service_suspend hbroadcast (fun _ => h.note _ rfl) hrequest fun _ => id)

theorem keeps_deliver (hcount : Keeps lost J (onTable fun t => t.countDelivery port))
    (hseen : ∀ kind n, Keeps lost J (note P (.delivering port kind n)))
    (hservice : ∀ kind, Keeps lost J (service P port kind)) : Keeps lost J (deliver P port) := by
  apply hcount.bind
  intro deliveries
  apply Keeps.table.bind
  intro t
  exact (hseen _ _).bind fun _ => hservice _

/-- A delivery keeps what its entries and the services keep, whichever of them the kind calls for. -/
theorem keeps_deliver_of_starts (h : Stable P lost J)
    (hrequest : Keeps lost J (call P .queueDeferred))
    (hstart : ∀ handler, Keeps lost J (call P (.handle .inline handler port)))
    (hcount : Keeps lost J (onTable fun t => t.countDelivery port))
    (hseen : ∀ kind n, Keeps lost J (note P (.delivering port kind n)))
    (hmark : ∀ port, Keeps lost J (onTable fun t => t.setOutstanding port))
    (henqueue : ∀ port, Keeps lost J (enqueue P port)) : Keeps lost J (deliver P port) := by
  apply keeps_deliver hcount hseen
  intro kind
  exact keeps_service h hrequest (fun _ => keeps_service_normal h hstart) hmark henqueue

theorem keeps_consume (h : Stable P lost J) {word bit : Fin 64}
    (hclear : Keeps lost J (onPage (PageM.clearAt word bit)))
    (hseen : Keeps lost J (emit P (.consumed word bit)))
    (hdeliver : ∀ port, Keeps lost J (deliver P port)) :
    Keeps lost J (consume P word bit) := by
  apply hclear.discard.bind
  intro _
  apply hseen.bind
  intro _
  split
  · exact hdeliver _
  · exact (h.note _ rfl).bind fun _ => .pure _

theorem leads_ready {pre : System σ → Prop} {word : Fin 64} :
    Leads lost pre (onPage (PageM.ready word)) fun r s =>
      pre s ∧ s.channels.page.ready word = r := by
  apply Leads.onPage
  intro c o hs
  rw [PageM.ready_run]
  exact ⟨hs, rfl⟩

theorem scanWord_eq (word : Fin 64) (serviced : Word) (outcome : PassOutcome) :
    scanWord P word serviced outcome = (do
      let ready := (← onPage (PageM.ready word)).without serviced
      match ready.lowest? with
      | none => return outcome
      | some bit =>
        let one ← consume P word bit
        scanWord P word (serviced.insert bit) (outcome ∪ one)) := by
  rw [scanWord]
  congr 1
  funext ready
  dsimp only
  split
  next hempty => rw [Word.eq_empty_iff.1 hempty]
  next hsome =>
    have hlt := Word.trailingZeros_lt hsome
    rw [dif_pos hlt, Word.lowest?_eq hlt]

/-- Services words in turn. -/
def scanWords (P : Platform σ) : List (Fin 64) → PassOutcome → Guest σ PassOutcome
  | [], outcome => return outcome
  | word :: words, outcome => do
    let outcome ← scanWord P word .empty outcome
    scanWords P words outcome

/-- Taking the lowest bit of a selector away again and again visits its words in turn. -/
theorem scanSelector_eq (selector : Word) (outcome : PassOutcome) :
    scanSelector P selector outcome = scanWords P selector.toList outcome := by
  induction selector using Word.dropLowest_induction generalizing outcome with
  | empty => rw [scanSelector, if_pos rfl, Word.toList_empty, scanWords]
  | drop selector rest hlt hsome hrest hlist ih =>
    rw [scanSelector, if_neg hsome, hlist, scanWords]
    split
    next hnone => cases hnone.symm.trans hrest
    next rest' hrest' =>
      obtain rfl : rest' = rest := Option.some.inj (hrest'.symm.trans hrest)
      rw [Fault.checkIndex_bind hlt]
      simp only [ih]

/-- The bits serviced so far are the measure of the loop and, with the outcome so far, the index of
its invariant; at its end whatever is still ready has been serviced. -/
theorem leads_scanWord_of_outcome {K : Word → PassOutcome → System σ → Prop} {word : Fin 64}
    (hconsume : ∀ serviced outcome bit, serviced.test bit = false →
      Leads lost (fun s => K serviced outcome s ∧ (s.channels.page.ready word).test bit = true)
        (consume P word bit) fun one => K (serviced.insert bit) (outcome ∪ one))
    (serviced : Word) (outcome : PassOutcome) :
    Leads lost (K serviced outcome) (scanWord P word serviced outcome) fun outcome s =>
      ∃ done, K done outcome s ∧ ∀ bit, (s.channels.page.ready word).test bit = true →
        done.test bit = true := by
  induction hn : serviced.room using Nat.strongRecOn generalizing serviced outcome with
  | _ n ih =>
    rw [scanWord_eq]
    apply leads_ready.bind
    intro ready
    dsimp only
    split
    next hnone =>
      apply Leads.pure
      intro s hs
      obtain ⟨hs, rfl⟩ := hs
      refine ⟨serviced, hs, fun bit hbit => ?_⟩
      have hrest := Word.lowest?_eq_none_iff.1 hnone bit
      rw [Word.test_without, hbit] at hrest
      simpa only [Bool.true_and, Bool.not_eq_false'] using hrest
    next bit hbit =>
      have htest := Word.test_of_lowest? hbit
      simp only [Word.test_without, Bool.and_eq_true, Bool.not_eq_true'] at htest
      have hroom : (serviced.insert bit).room < serviced.room := Word.room_insert_lt htest.2
      have hone := hconsume serviced outcome bit htest.2
      apply (hone.of_pre ?_).bind
      · intro one
        exact ih _ (hn ▸ hroom) _ _ rfl
      · intro s hs
        obtain ⟨hs, rfl⟩ := hs
        exact ⟨hs, htest.1⟩

theorem leads_scanWord {K : Word → System σ → Prop} {word : Fin 64}
    (hconsume : ∀ serviced bit, serviced.test bit = false →
      Leads lost (fun s => K serviced s ∧ (s.channels.page.ready word).test bit = true)
        (consume P word bit) fun _ => K (serviced.insert bit))
    (serviced : Word) (outcome : PassOutcome) :
    Leads lost (K serviced) (scanWord P word serviced outcome) fun _ s =>
      ∃ done, K done s ∧ ∀ bit, (s.channels.page.ready word).test bit = true →
        done.test bit = true :=
  leads_scanWord_of_outcome (K := fun serviced _ => K serviced)
    (fun serviced _ => hconsume serviced) serviced outcome

theorem leads_scanWords_of_outcome {K : List (Fin 64) → PassOutcome → System σ → Prop}
    (hword : ∀ word words outcome, Leads lost (K (word :: words) outcome)
      (scanWord P word .empty outcome) (K words))
    (words : List (Fin 64)) (outcome : PassOutcome) :
    Leads lost (K words outcome) (scanWords P words outcome) (K []) := by
  induction words generalizing outcome with
  | nil => exact .pure fun _ => id
  | cons word words ih => exact (hword word words outcome).bind fun outcome => ih outcome

theorem leads_scanWords {K : List (Fin 64) → System σ → Prop}
    (hword : ∀ word words outcome, Leads lost (K (word :: words))
      (scanWord P word .empty outcome) fun _ => K words)
    (words : List (Fin 64)) (outcome : PassOutcome) :
    Leads lost (K words) (scanWords P words outcome) fun _ => K [] :=
  leads_scanWords_of_outcome (K := fun words _ => K words) hword words outcome

theorem keeps_scanWords
    (hconsume : ∀ word bit, Leads lost
      (fun s => J s ∧ (s.channels.page.ready word).test bit = true) (consume P word bit) fun _ => J)
    (words : List (Fin 64)) (outcome : PassOutcome) :
    Keeps lost J (scanWords P words outcome) := by
  apply leads_scanWords (K := fun _ => J)
  intro word words outcome
  have hword := leads_scanWord (K := fun _ => J) (fun _ bit _ => hconsume word bit) .empty outcome
  exact hword.of_post fun _ s ⟨_, hs, _⟩ => hs

/-- The processor that a pass drains may be known to be a sound one. -/
theorem keeps_scannerPass_of_sound (h : Stable P lost J) (sound : Nat → Prop)
    (hsound : ∀ s, J s → sound s.channels.config.upcallVcpu)
    (hclear : ∀ vcpu, sound vcpu →
      Keeps lost J (onPage (PageM.updateVcpu vcpu VcpuSlot.clearUpcall)))
    (hdrain : ∀ vcpu, sound vcpu → Keeps lost J (onPage (PageM.drainSelector vcpu)))
    (hconsume : ∀ word bit, Leads lost
      (fun s => J s ∧ (s.channels.page.ready word).test bit = true) (consume P word bit) fun _ => J) :
    Keeps lost J (scannerPass P) := by
  apply Keeps.interruptsMasked.bind
  intro masked
  split
  · exact (h.note _ rfl).bind fun _ => .pure _
  · apply (leads_upcallVcpu hsound).bind
    intro config
    apply Leads.assume
    intro hvcpu
    apply (hclear _ hvcpu).bind
    intro _
    apply (hdrain _ hvcpu).bind
    intro selector
    rw [scanSelector_eq]
    exact keeps_scanWords hconsume _ _

theorem keeps_scannerPass (h : Stable P lost J)
    (hclear : ∀ vcpu, Keeps lost J (onPage (PageM.updateVcpu vcpu VcpuSlot.clearUpcall)))
    (hdrain : ∀ vcpu, Keeps lost J (onPage (PageM.drainSelector vcpu)))
    (hconsume : ∀ word bit, Leads lost
      (fun s => J s ∧ (s.channels.page.ready word).test bit = true) (consume P word bit) fun _ => J) :
    Keeps lost J (scannerPass P) :=
  keeps_scannerPass_of_sound h (fun _ => True) (fun _ _ => trivial) (fun vcpu _ => hclear vcpu)
    (fun vcpu _ => hdrain vcpu) hconsume

/-- A pass that interrupts let begin takes back the upcall and the selector of its processor, and scans
the words that were flagged. -/
theorem held_scannerPass_of_scanWords {K : σ → Prop} {c : Channels} {v : Fin 32}
    {post : PassOutcome → System σ → Prop} (hmasked : c.interruptsMasked = false)
    (hvcpu : c.config.upcallVcpu = v)
    (hscan : Leads lost
      (Held K { c with page := (c.page.modifyVcpu v .clearUpcall).modifyVcpu v .clearSelector })
      (scanWords P (c.page.vcpu v).selector.toList .empty) post) :
    Leads lost (Held K c) (scannerPass P) post := by
  apply (held_unmasked hmasked).bind_of_eq
  rw [if_neg Bool.false_ne_true]
  apply held_config.bind_of_eq
  rw [hvcpu]
  apply (held_onPage (PageM.updateVcpu_run _ v _)).bind
  intro _
  apply (held_onPage_eq (PageM.drainSelector_run _ v)).bind_of_eq
  rw [SharedPage.vcpu_modifyVcpu_self, scanSelector_eq]
  exact hscan

/-- A claimed item starts a handler exactly if the lookup under the published kind, which has to be
deferred, finds one. -/
theorem leads_runItem_of_claim {pre claimed seen : System σ → Prop} {post : Bool → System σ → Prop}
    (hclaim : Leads lost pre (onTable fun t => t.claim port) fun found s =>
      if found then claimed s else post false s)
    (hseen : Leads lost claimed (emit P (.workClaimed port)) fun _ => seen)
    (hstart : ∀ handler, Leads lost
      (fun s => seen s ∧ (s.channels.table.kind port).isDeferred = true ∧
        s.channels.table.handler? port (s.channels.table.kind port) = some handler)
      (call P (.handle .deferred handler port)) fun _ => post true)
    (hstale : ∀ n, n.isRemark = true → Leads lost
      (fun s => seen s ∧ ((s.channels.table.kind port).isDeferred = true →
        s.channels.table.handler? port (s.channels.table.kind port) = none))
      (note P n) fun _ => post false) :
    Leads lost pre (runItem P port) post := by
  apply hclaim.bind
  intro found
  cases found with
  | false => exact .pure fun _ => id
  | true =>
    apply hseen.bind
    intro _
    apply Leads.table.bind
    intro t
    dsimp only
    split
    next hdeferred =>
      apply Leads.table.bind
      intro t'
      split
      next handler hhandler =>
        apply Leads.bind ((hstart handler).of_pre _) fun _ => .pure fun _ => id
        intro s hs
        obtain ⟨⟨hs, rfl⟩, rfl⟩ := hs
        exact ⟨hs, hdeferred, hhandler⟩
      next hhandler =>
        apply Leads.bind ((hstale _ rfl).of_pre _) fun _ => .pure fun _ => id
        intro s hs
        obtain ⟨⟨hs, rfl⟩, rfl⟩ := hs
        exact ⟨hs, fun _ => hhandler⟩
    next hdeferred =>
      apply Leads.bind ((hstale _ rfl).of_pre _) fun _ => .pure fun _ => id
      intro s hs
      obtain ⟨hs, rfl⟩ := hs
      exact ⟨hs, fun he => absurd he hdeferred⟩

theorem leads_runItem_of_found {pre : System σ → Prop} (h : Stable P lost J)
    (hclaim : Leads lost pre (onTable fun t => t.claim port) fun _ => J)
    (hseen : Keeps lost J (emit P (.workClaimed port)))
    (hstart : ∀ handler, Leads lost
      (fun s => J s ∧ (s.channels.table.kind port).isDeferred = true ∧
        s.channels.table.handler? port (s.channels.table.kind port) = some handler)
      (call P (.handle .deferred handler port)) fun _ => J) :
    Leads lost pre (runItem P port) fun _ => J := by
  have hclaimed : Leads lost pre (onTable fun t => t.claim port) fun found s =>
      if found then J s else J s := by
    apply hclaim.of_post
    intro found s hs
    split <;> exact hs
  exact leads_runItem_of_claim hclaimed hseen hstart fun n hn =>
    Leads.of_pre (h.note n hn) fun _ hs => hs.1

theorem leads_runItem {pre : System σ → Prop} (h : Stable P lost J)
    (hclaim : Leads lost pre (onTable fun t => t.claim port) fun _ => J)
    (hseen : Keeps lost J (emit P (.workClaimed port)))
    (hstart : ∀ handler, Keeps lost J (call P (.handle .deferred handler port))) :
    Leads lost pre (runItem P port) fun _ => J :=
  leads_runItem_of_found h hclaim hseen fun handler =>
    Leads.of_pre (hstart handler) fun _ hs => hs.1

/-- Runs the work items of bits in turn. -/
def runItems (P : Platform σ) (word : Fin 16) : List (Fin 64) → Nat → Guest σ Nat
  | [], ran => return ran
  | bit :: bits, ran => do
    let one ← runBit P word bit
    runItems P word bits (if one then ran + 1 else ran)

/-- Taking the lowest bit of a word away again and again visits its bits in turn. -/
theorem runFlagged_eq (word : Fin 16) (flagged : Word) (ran : Nat) :
    runFlagged P word flagged ran = runItems P word flagged.toList ran := by
  induction flagged using Word.dropLowest_induction generalizing ran with
  | empty => rw [runFlagged, if_pos rfl, Word.toList_empty, runItems]
  | drop flagged rest hlt hsome hrest hlist ih =>
    rw [runFlagged, if_neg hsome, hlist, runItems]
    split
    next hnone => cases hnone.symm.trans hrest
    next rest' hrest' =>
      obtain rfl : rest' = rest := Option.some.inj (hrest'.symm.trans hrest)
      simp only [ih]

/-- Each flagged bit is the work item of a port, which is run before the others. -/
theorem exists_runItems_cons (word : Fin 16) (bit : Fin 64) :
    ∃ port : Port, port.word = word ∧ port.bit = bit ∧ ∀ bits ran,
      runItems P word (bit :: bits) ran = (do
        let one ← runItem P port
        runItems P word bits (if one then ran + 1 else ran)) := by
  obtain ⟨port, hport, hword, hbit⟩ := Port.at?_castLE word bit
  refine ⟨port, hword, hbit, fun bits ran => ?_⟩
  have hfound : Port.ofBit? (.ofNat word) (.ofNat bit) = some port := hport
  have hrun : runBit P word bit = runItem P port := by
    rw [runBit, hfound]
  rw [runItems, hrun]

theorem keeps_runItems {word : Fin 16}
    (hitem : ∀ port, port.word = word → Keeps lost J (runItem P port)) (bits : List (Fin 64))
    (ran : Nat) : Keeps lost J (runItems P word bits ran) := by
  induction bits generalizing ran with
  | nil => exact .pure _
  | cons bit bits ih =>
    obtain ⟨port, hport, -, hcons⟩ := exists_runItems_cons (P := P) word bit
    rw [hcons]
    exact (hitem port hport).bind fun one => ih _

/-- To take a word may be what makes an assertion hold for its items. -/
theorem leads_runWord {pre : System σ → Prop} {word : Fin 16}
    (htake : Leads lost pre (onTable fun t => t.takeWord word) fun _ => J)
    (hitem : ∀ port, port.word = word → Keeps lost J (runItem P port)) :
    Leads lost pre (runWord P word) fun _ => J := by
  apply htake.bind
  intro flagged
  rw [runFlagged_eq]
  exact keeps_runItems hitem _ _

theorem keeps_runWord (htake : ∀ word, Keeps lost J (onTable fun t => t.takeWord word))
    (hitem : ∀ port, Keeps lost J (runItem P port)) (word : Fin 16) :
    Keeps lost J (runWord P word) :=
  leads_runWord (htake word) fun port _ => hitem port

theorem leads_runWordAt {pre : System σ → Prop} {post : Nat → System σ → Prop}
    (hword : ∀ word, Leads lost pre (runWord P word) post) (hlost : ∀ s, pre s → lost s)
    (word : Nat) : Leads lost pre (runWordAt P word) post := by
  have hcheck : Keeps lost pre (Fault.checkIndex 16 word : Guest σ (Fin 16)) := by
    constructor
    intro s hs
    by_cases hw : word < 16
    · rw [Fault.checkIndex_of_lt hw]
      exact hs
    · rw [Fault.checkIndex_of_le (Nat.le_of_not_lt hw)]
      exact hlost s hs
  exact Leads.bind hcheck fun word => hword word

theorem keeps_runWordAt (hword : ∀ word, Keeps lost J (runWord P word))
    (hlost : ∀ s, J s → lost s) (word : Nat) : Keeps lost J (runWordAt P word) :=
  leads_runWordAt hword hlost word

/-- A word is taken only while interrupts are not masked. -/
theorem keeps_runWords_of_open (h : Stable P lost J)
    (hword : ∀ word, Leads lost (fun s => J s ∧ s.channels.interruptsMasked = false)
      (runWord P word) fun _ => J)
    (words : List (Fin 16)) (ran : Nat) : Keeps lost J (runWords P words ran) := by
  induction words generalizing ran with
  | nil => exact .pure _
  | cons word words ih =>
    apply Leads.interruptsMasked.bind
    intro masked
    cases masked with
    | true => exact (Leads.of_pre (h.note _ rfl) fun _ hs => hs.1).bind fun _ => .pure fun _ => id
    | false => exact (hword word).bind fun _ => ih _

theorem keeps_deferredPass_of_open (h : Stable P lost J)
    (hword : ∀ word, Leads lost (fun s => J s ∧ s.channels.interruptsMasked = false)
      (runWord P word) fun _ => J) : Keeps lost J (deferredPass P) :=
  keeps_runWords_of_open h hword _ _

theorem keeps_deferredPass (h : Stable P lost J) (hword : ∀ word, Keeps lost J (runWord P word)) :
    Keeps lost J (deferredPass P) :=
  keeps_deferredPass_of_open h fun word => Leads.of_pre (hword word) fun _ hs => hs.1

end EventChannel.Guest
