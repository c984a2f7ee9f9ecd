import EventChannel.Proofs.DeferredWork.Invariant

namespace EventChannel

open Guest

/-- Every queued port is accounted for now, and no work was stranded so far. -/
structure Attended (frames : List Frame) (s : System History) : Prop where
  attending : Attending frames s.channels s.outside
  always : s.outside.Always Entry.StrandsNothing

def AttendedUntil (s : System History) : Prop := s.outside.Always Entry.StrandsNothing

namespace Attended

variable {c : Client} {depth : Nat} {frames frames' : List Frame} {α : Type}

theorem leads_record {entry : Channels → Entry} (hstate : ∀ state, (entry state).state = state)
    (h : ∀ state history, Attending frames state history →
      Attending frames' state (entry state :: history)) :
    Leads AttendedUntil (Attended frames) (record entry) fun _ => Attended frames' := by
  apply Leads.record
  intro state history hs
  have hentry := h state history hs.attending
  exact ⟨hentry, .cons (hentry.strandsNothing (hstate state)) hs.always⟩

theorem keeps_emit (e : Event) :
    Keeps AttendedUntil (Attended frames) (emit (c.platform depth) e) := by
  apply Client.leads_emit
  intro state history hs
  have hentry : Attending frames state (.saw depth e state :: history) :=
    hs.attending.cons (fun _ => rfl) id
  exact ⟨hentry, .cons (hentry.strandsNothing rfl) hs.always⟩

theorem keepsRemarks : KeepsRemarks (c.platform depth) AttendedUntil (Attended frames) :=
  fun n _ => keeps_emit (.noticed n)

section Writes

/-- The table may change as long as whatever is still queued is flagged as before. -/
theorem setTable {state : Channels} {history : History} {t : ActionTable}
    (hs : Attended frames ⟨state, history⟩)
    (hqueued : ∀ q, t.isQueued q = true → state.table.isQueued q = true)
    (hflagged : ∀ q, t.isQueued q = true → t.isFlagged q = state.table.isFlagged q) :
    Attended frames ⟨{ state with table := t }, history⟩ := by
  refine ⟨hs.attending.shrink rfl hqueued fun q hq hflag => .inl ?_, hs.always⟩
  exact (hflagged q hq).trans hflag

theorem keeps_modifyTable {f : ActionTable → ActionTable}
    (hqueued : ∀ t q, (f t).isQueued q = true → t.isQueued q = true)
    (hflagged : ∀ t q, (f t).isQueued q = true → (f t).isFlagged q = t.isFlagged q) :
    Keeps AttendedUntil (Attended frames) (modifyTable f) :=
  Leads.modifyTable fun _ _ hs => hs.setTable (hqueued _) (hflagged _)

theorem keeps_onTable {f : ActionTable → α × ActionTable}
    (hqueued : ∀ t q, (f t).2.isQueued q = true → t.isQueued q = true)
    (hflagged : ∀ t q, (f t).2.isQueued q = true → (f t).2.isFlagged q = t.isFlagged q) :
    Keeps AttendedUntil (Attended frames) (onTable f) :=
  Leads.onTable fun _ _ hs => hs.setTable (hqueued _) (hflagged _)

theorem keeps_modifySlot {port : Port} {f : ActionTable → Slot → Slot}
    (h : ∀ t s, (f t s).work = s.work) :
    Keeps AttendedUntil (Attended frames) (modifyTable fun t => t.modifySlot port (f t)) := by
  apply keeps_modifyTable
  · intro t q hq
    exact (t.isQueued_modifySlot port q (h t)).symm.trans hq
  · exact fun _ _ _ => rfl

theorem keeps_onPage (m : PageM α) : Keeps AttendedUntil (Attended frames) (onPage m) := by
  apply Leads.onPage
  intro state history hs
  split
  · exact ⟨hs.attending.shrink rfl (fun _ => id) fun _ _ => .inl, hs.always⟩
  · exact hs.always

theorem keeps_modifyChannels {f : Channels → Channels}
    (htable : ∀ state, (f state).table = state.table)
    (hmasked : ∀ state, (f state).interruptsMasked = state.interruptsMasked) :
    Keeps AttendedUntil (Attended frames) (modifyChannels f) := by
  constructor
  rintro ⟨state, history⟩ hs
  refine ⟨hs.attending.shrink (hmasked state) (fun port hq => ?_) fun port _ hflag => .inl ?_,
    hs.always⟩
  · exact htable state ▸ hq
  · exact (htable state).symm ▸ hflag

theorem keeps_modifyPage (f : SharedPage → SharedPage) :
    Keeps AttendedUntil (Attended frames) (modifyPage f) :=
  keeps_modifyChannels (fun _ => rfl) fun _ => rfl

theorem keeps_maskInterrupts :
    Keeps AttendedUntil (Attended frames) (setInterruptsMasked true) := by
  constructor
  rintro ⟨state, history⟩ hs
  have hattending := hs.attending
  refine ⟨⟨hattending.tracked, nofun, fun hmem => ⟨rfl, (hattending.calm hmem).2⟩,
    hattending.running, hattending.lifecycles⟩, hs.always⟩

end Writes

theorem keeps_cancel (port : Port) :
    Keeps AttendedUntil (Attended frames) (cancel (c.platform depth) port) := by
  apply Guest.keeps_cancel _ fun _ => keeps_emit _
  apply keeps_onTable
  · intro t q hq
    rw [ActionTable.isQueued_cancel] at hq
    split at hq
    · cases hq
    · exact hq
  · intro t q hq
    rw [ActionTable.isQueued_cancel] at hq
    rw [ActionTable.isFlagged_cancel]
    split at hq
    · cases hq
    next hne => exact if_neg hne

theorem keeps_setOutstanding (port : Port) :
    Keeps AttendedUntil (Attended frames) (onTable fun t => t.setOutstanding port) :=
  keeps_onTable (fun _ _ => id) fun _ _ _ => rfl

theorem slotIndifferent :
    SlotIndifferent (c.platform depth) AttendedUntil (Attended frames) where
  modifySlot := keeps_modifySlot
  cancel := keeps_cancel
  setOutstanding := keeps_setOutstanding
  acknowledge _ := keeps_onTable (fun _ _ => id) fun _ _ _ => rfl
  note := keepsRemarks
  actionDropped _ _ _ := keeps_emit _
  published _ _ := keeps_emit _
  slotReset _ := keeps_emit _
  readerTaken _ := keeps_emit _
  readerReleased _ := keeps_emit _

theorem pageIndifferent :
    PageIndifferent (c.platform depth) AttendedUntil (Attended frames) where
  page := keeps_onPage
  modifyPage := keeps_modifyPage
  raised _ _ := keeps_emit _
  discarded _ _ := keeps_emit _
  pendingDropped _ := keeps_emit _

/-- What is not queued yet is flagged, and a request is due for it. -/
theorem leads_enqueue {due : Bool} (hcalm : .lifecycle true ∉ frames) (port : Port) :
    Leads AttendedUntil (Attended (.ordinary due :: frames)) (enqueue (c.platform depth) port)
      fun fresh => Attended (.ordinary (due || fresh) :: frames) := by
  have hwork : Leads AttendedUntil (Attended (.ordinary due :: frames))
      (onTable fun t => t.enqueue port) fun fresh =>
      Attended (.ordinary (due || fresh) :: frames) := by
    apply Leads.onTable
    intro state history hs
    rw [ActionTable.enqueue_fst]
    cases hqueued : state.table.isQueued port with
    | true =>
      rw [Bool.not_true, Bool.or_false]
      exact ⟨hs.attending.enqueue_of_queued hqueued, hs.always⟩
    | false =>
      rw [Bool.not_false, Bool.or_true]
      exact ⟨hs.attending.enqueue hcalm hqueued, hs.always⟩
  apply hwork.bind
  intro fresh
  cases fresh with
  | false => exact .pure fun _ => id
  | true =>
    exact Leads.bind Keeps.table fun _ => Leads.bind (keeps_emit _) fun _ => .pure fun _ => id

end Attended

end EventChannel
