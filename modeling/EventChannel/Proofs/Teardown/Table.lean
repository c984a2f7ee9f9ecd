import EventChannel.Proofs.Keeping.Operation
import EventChannel.Proofs.Teardown.Invariant

namespace EventChannel

open Guest

/-- Whatever was queued before the event channels are brought down, nothing is afterwards. -/
theorem Operation.leads_bringDown {σ : Type} {P : Platform σ} {lost pre J : System σ → Prop}
    (h : Stable P lost J) (hquiesce : Leads lost pre quiesce fun _ => J)
    (hcancel : ∀ port, Keeps lost J (cancel P port)) (hport : Keeps lost J (setSuspendPort none))
    {op : Operation} (hop : op.bringsDown = true) :
    Leads lost pre (op.run P) fun _ s => J s ∧ QueuedAmong [] s := by
  have hnote : KeepsRemarks P lost fun s => J s ∧ QueuedAmong [] s :=
    fun n hn => Keeps.and (h.note n hn) queuedAmong_emit
  have hempty : Leads lost J (emptyQueue P) fun _ s => J s ∧ QueuedAmong [] s :=
    leads_emptyQueue h (keeps_cancelAll hcancel) (leads_cancelAll hcancel)
      (Keeps.and hport ⟨fun _ => id⟩) hnote
  cases op with
  | page | vcpu | table => cases hop
  | channels op =>
    cases op with
    | suspend => exact (leads_suspend hquiesce hempty hnote).bind fun _ => .pure fun _ => id
    | shutdown => exact (leads_shutdown h hquiesce hempty hnote).bind fun _ => .pure fun _ => id
    | _ => cases hop

namespace Closed

variable {c : Client} {depth : Nat} {α : Type} {port : Port} {n : Nat} {settled drained : Prop}

theorem keeps_emit (e : Event) :
    Keeps ClosedUntil (Closed n True drained) (emit (c.platform depth) e) :=
  Client.leads_emit fun _ _ hs => hs.cons (fun _ => trivial) rfl hs.bringUps rfl rfl nofun

theorem keepsRemarks : KeepsRemarks (c.platform depth) ClosedUntil (Closed n True drained) :=
  fun n _ => keeps_emit (.noticed n)

section Writes

variable {state state' : Channels} {history : History}

/-- Work may be taken off the queue. -/
theorem shrink (h : Closed n settled drained ⟨state, history⟩)
    (hmasked : state'.interruptsMasked = state.interruptsMasked)
    (hqueued : ∀ q, state'.table.isQueued q = true → state.table.isQueued q = true) :
    Closed n settled drained ⟨state', history⟩ where
  bringUps := h.bringUps
  always := h.always
  masked hsettled hclosing := hmasked.trans (h.masked hsettled hclosing)
  idle hdrained := (h.idle hdrained).imp_right fun hnone q hq => hnone q (hqueued q hq)

theorem keeps_modifyChannels {f : Channels → Channels}
    (hmasked : ∀ state, (f state).interruptsMasked = state.interruptsMasked)
    (htable : ∀ state, (f state).table = state.table) :
    Keeps ClosedUntil (Closed n settled drained) (modifyChannels f) :=
  ⟨fun s hs => hs.shrink (hmasked s.channels) fun _ hq => htable s.channels ▸ hq⟩

theorem keeps_onTable {f : ActionTable → α × ActionTable}
    (h : ∀ t q, (f t).2.isQueued q = true → t.isQueued q = true) :
    Keeps ClosedUntil (Closed n settled drained) (onTable f) :=
  Leads.onTable fun state _ hs => hs.shrink rfl (h state.table)

theorem keeps_modifySlot {f : ActionTable → Slot → Slot} (h : ∀ t s, (f t s).work = s.work) :
    Keeps ClosedUntil (Closed n settled drained) (modifyTable fun t => t.modifySlot port (f t)) :=
  Leads.modifyTable fun state _ hs => hs.shrink rfl fun q hq =>
    (state.table.isQueued_modifySlot port q (h state.table)).symm.trans hq

theorem keeps_onPage (m : PageM α) :
    Keeps ClosedUntil (Closed n settled drained) (onPage m) := by
  apply Leads.onPage
  intro state history hs
  split
  · exact hs.shrink rfl fun _ => id
  · exact hs.always

theorem keeps_modifyPage (f : SharedPage → SharedPage) :
    Keeps ClosedUntil (Closed n settled drained) (modifyPage f) :=
  keeps_modifyChannels (fun _ => rfl) fun _ => rfl

theorem pageIndifferent :
    PageIndifferent (c.platform depth) ClosedUntil (Closed n True drained) where
  page := keeps_onPage
  modifyPage := keeps_modifyPage
  raised _ _ := keeps_emit _
  discarded _ _ := keeps_emit _
  pendingDropped _ := keeps_emit _

theorem leads_quiesce : Leads ClosedUntil (Closed n settled drained) quiesce
    fun _ => Closed n True drained := by
  have hmask : Leads ClosedUntil (Closed n settled drained) (setInterruptsMasked true)
      fun _ => Closed n True drained :=
    ⟨fun _ hs => ⟨hs.bringUps, hs.always, fun _ _ => rfl, hs.idle⟩⟩
  exact hmask.bind fun _ => keeps_modifyPage _

theorem leads_openInterrupts : Leads ClosedUntil (Closed n settled drained)
    (setInterruptsMasked false) fun _ => Closed n False drained :=
  ⟨fun _ hs => ⟨hs.bringUps, hs.always, False.elim, hs.idle⟩⟩

theorem keeps_setSuspendPort (port : Option Port) :
    Keeps ClosedUntil (Closed n settled drained) (setSuspendPort port) :=
  keeps_modifyChannels (fun _ => rfl) fun _ => rfl

end Writes

theorem keeps_cancel (port : Port) :
    Keeps ClosedUntil (Closed n True drained) (cancel (c.platform depth) port) := by
  apply Guest.keeps_cancel _ fun _ => keeps_emit _
  apply keeps_onTable
  intro t q hq
  rw [ActionTable.isQueued_cancel] at hq
  split at hq
  · cases hq
  · exact hq

theorem keeps_setOutstanding (port : Port) :
    Keeps ClosedUntil (Closed n True drained) (onTable fun t => t.setOutstanding port) :=
  keeps_onTable fun _ _ => id

theorem slotIndifferent :
    SlotIndifferent (c.platform depth) ClosedUntil (Closed n True drained) where
  modifySlot := keeps_modifySlot
  cancel := keeps_cancel
  setOutstanding := keeps_setOutstanding
  acknowledge _ := keeps_onTable fun _ _ => id
  note := keepsRemarks
  actionDropped _ _ _ := keeps_emit _
  published _ _ := keeps_emit _
  slotReset _ := keeps_emit _
  readerTaken _ := keeps_emit _
  readerReleased _ := keeps_emit _

/-- Where nothing has to be idle, anything may be queued. -/
theorem keeps_enqueue (port : Port) :
    Keeps ClosedUntil (Closed n True False) (enqueue (c.platform depth) port) := by
  have hwork : Keeps ClosedUntil (Closed n True False) (onTable fun t => t.enqueue port) :=
    Leads.onTable fun _ _ hs => ⟨hs.bringUps, hs.always, hs.masked, False.elim⟩
  exact Guest.keeps_enqueue hwork fun _ => keeps_emit _

theorem leads_enqueue_of_open (port : Port) : Leads ClosedUntil
    (fun s => Closed n True True s ∧ s.channels.interruptsMasked = false)
    (enqueue (c.platform depth) port) fun _ => Closed n True True := by
  have hwork : Leads ClosedUntil
      (fun s => Closed n True True s ∧ s.channels.interruptsMasked = false)
      (onTable fun t => t.enqueue port) fun _ => Closed n True True := by
    apply Leads.onTable
    intro state history hs
    obtain ⟨hs, hopen⟩ := hs
    exact ⟨hs.bringUps, hs.always, hs.masked, fun _ => .inl (hs.isExcused_of_open hopen)⟩
  exact Guest.leads_enqueue hwork fun _ => keeps_emit _

/-- A broadcast may leave anything queued, but it is told of. -/
theorem leads_broadcast : Leads ClosedUntil (Closed n True True) (broadcast (c.platform depth))
    fun _ => Closed n True False := by
  have hkeeps : Keeps ClosedUntil (Closed n True False) (broadcast (c.platform depth)) :=
    keeps_broadcast fun port => keeps_renew (keeps_setOutstanding port) (keeps_enqueue port)
  exact Leads.of_pre hkeeps fun _ hs => hs.weaken id False.elim

theorem leads_tellBroadcast (port : Port) (marked : Nat) :
    Leads ClosedUntil (Closed n True False)
      (note (c.platform depth) (.suspendBroadcast port marked)) fun _ => Closed n True True :=
  Client.leads_emit fun _ _ hs =>
    hs.log (fun _ => trivial) rfl hs.bringUps rfl nofun fun _ => .inl fun _ => rfl

/-- Work that a deferred run finds was queued by a broadcast. -/
theorem leads_claim (port : Port) : Leads ClosedUntil (Closed n True True)
    (onTable fun t => t.claim port) fun found s =>
      Closed n True True s ∧ (found = true → s.outside.IsExcused) := by
  apply Leads.onTable
  intro state history hs
  refine ⟨hs.shrink rfl fun q hq => ?_, fun hfound => ?_⟩
  · change (state.table.claim port).2.isQueued q = true at hq
    rw [ActionTable.isQueued_claim] at hq
    split at hq
    · cases hq
    · exact hq
  · apply (hs.idle trivial).resolve_right
    intro hnone
    exact absurd (hnone port hfound) List.not_mem_nil

end Closed

end EventChannel
