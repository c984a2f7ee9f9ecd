import EventChannel.Proofs.Teardown.Table
import EventChannel.Proofs.WorkOrigin.Invariant

namespace EventChannel.Traced

open Guest

variable {c : Client} {depth : Nat} {α : Type} {port : Port} {kind now former : Kind}
  {suits : Port → Kind → Kind → Prop}

theorem keeps_emit {e : Event}
    (hquiet : ∀ state q, (Entry.saw depth e state).publishes? q = none)
    (hmarks : ∀ state q, (Entry.saw depth e state).marks? q ≠ some true)
    (htraces : ∀ state before, (Entry.saw depth e state).TracesWork before) :
    Keeps TracedUntil (Traced suits) (emit (c.platform depth) e) :=
  Client.leads_emit fun state _ hs =>
    hs.cons (hquiet state) (hmarks state) (htraces state _)

theorem keeps_note (n : Notice) : Keeps TracedUntil (Traced suits) (note (c.platform depth) n) :=
  keeps_emit (fun _ _ => rfl) (fun _ _ => nofun) fun _ _ => trivial

theorem keepsRemarks : KeepsRemarks (c.platform depth) TracedUntil (Traced suits) :=
  fun n _ => keeps_note n

theorem keeps_modifySlot {f : ActionTable → Slot → Slot} (h : ∀ t s, (f t s).kind = s.kind) :
    Keeps TracedUntil (Traced suits) (modifyTable fun t => t.modifySlot port (f t)) := by
  apply Leads.modifyTable
  intro state _ hs
  refine hs.setTable (fun q hq => ?_) fun _ _ => id
  rw [ActionTable.kind, state.table.field_modifySlot port q (h state.table)]
  exact hq

theorem keeps_onTable {f : ActionTable → α × ActionTable}
    (hkind : ∀ t q, (f t).2.kind q = t.kind q)
    (hmarked : ∀ t q, t.isOutstanding q = true → (f t).2.isOutstanding q = true) :
    Keeps TracedUntil (Traced suits) (onTable f) := by
  apply Leads.onTable
  intro state _ hs
  refine hs.setTable (fun q hq => ?_) fun q _ => hmarked state.table q
  rw [hkind state.table q]
  exact hq

theorem keeps_setOutstanding (port : Port) :
    Keeps TracedUntil (Traced suits) (onTable fun t => t.setOutstanding port) := by
  refine keeps_onTable (fun _ _ => rfl) fun t q hq => ?_
  rw [ActionTable.isOutstanding_setOutstanding, hq, ite_self]

theorem keeps_modifyChannels {f : Channels → Channels}
    (h : ∀ state, (f state).table = state.table) :
    Keeps TracedUntil (Traced suits) (modifyChannels f) := by
  constructor
  rintro ⟨state, history⟩ hs
  have hpublished : ∀ q, suits q ((f state).table.kind q) (history.kind q) :=
    (h state).symm ▸ hs.published
  have hmarked : ∀ q, history.isMarked q = true → (f state).table.isOutstanding q = true :=
    (h state).symm ▸ hs.marked
  exact ⟨hpublished, hmarked, hs.always⟩

theorem keeps_onPage (m : PageM α) : Keeps TracedUntil (Traced suits) (onPage m) := by
  apply Leads.onPage
  intro state history hs
  split
  · exact ⟨hs.published, hs.marked, hs.always⟩
  · exact hs.always

theorem pageIndifferent : PageIndifferent (c.platform depth) TracedUntil (Traced suits) where
  page := keeps_onPage
  modifyPage _ := keeps_modifyChannels fun _ => rfl
  raised _ _ := keeps_emit (fun _ _ => rfl) (fun _ _ => nofun) fun _ _ => trivial
  discarded _ _ := keeps_emit (fun _ _ => rfl) (fun _ _ => nofun) fun _ _ => trivial
  pendingDropped _ := keeps_emit (fun _ _ => rfl) (fun _ _ => nofun) fun _ _ => trivial

section Kinds

/-- The first change of a kind leaves the last published one to be restored. -/
theorem leads_vacate {t : ActionTable} : Leads TracedUntil
    (fun s => Traced Told s ∧ s.channels.table = t) (modifyTable fun t => t.setKind port kind)
    fun _ => Traced (Untold port kind (t.kind port)) := by
  apply Leads.modifyTable
  rintro state history ⟨hs, rfl⟩
  refine hs.setTable (fun q hq => ?_) fun _ _ => id
  rw [ActionTable.kind_setKind]
  unfold Untold
  split
  next he => exact ⟨rfl, he ▸ hq.symm⟩
  next => exact hq

theorem leads_setKind : Leads TracedUntil (Traced (Untold port now former))
    (modifyTable fun t => t.setKind port kind) fun _ => Traced (Untold port kind former) := by
  apply Leads.modifyTable
  intro state history hs
  refine hs.setTable (fun q hq => ?_) fun _ _ => id
  rw [ActionTable.kind_setKind]
  unfold Untold at hq ⊢
  split at hq
  next he =>
    rw [if_pos he, if_pos he]
    exact ⟨rfl, hq.2⟩
  next hne =>
    rw [if_neg hne, if_neg hne]
    exact hq

theorem leads_restoreKind : Leads TracedUntil (Traced (Untold port .empty former))
    (restoreKind port former) fun _ => Traced Told := by
  apply Leads.modifyTable
  intro state history hs
  have hempty : state.table.kind port = .empty := by
    have hport := hs.published port
    rw [Untold, if_pos rfl] at hport
    exact hport.1
  simp only [hempty, if_true]
  refine hs.setTable (fun q hq => ?_) fun _ _ => id
  rw [ActionTable.kind_setKind]
  unfold Untold at hq
  unfold Told
  split at hq
  next he => rw [if_pos he, hq.2]
  next hne => rw [if_neg hne, hq]

theorem leads_tellKind {e : Event}
    (hport : ∀ state, (Entry.saw depth e state).publishes? port = some now)
    (hother : ∀ state q, port ≠ q → (Entry.saw depth e state).publishes? q = none)
    (hmarks : ∀ state q, (Entry.saw depth e state).marks? q ≠ some true)
    (htraces : ∀ state before, (Entry.saw depth e state).TracesWork before) :
    Leads TracedUntil (Traced (Untold port now former)) (emit (c.platform depth) e) fun _ =>
      Traced Told :=
  Client.leads_emit fun state _ hs =>
    hs.told_of_untold (hport state) (hother state) (hmarks state) (htraces state _)

theorem keeps_publish (port : Port) (action : Action) :
    Keeps TracedUntil (Traced Told) (publish (c.platform depth) port action) := by
  have htell {former : Kind} : Leads TracedUntil (Traced (Untold port action.kind former))
      (emit (c.platform depth) (.published port action)) fun _ => Traced Told :=
    leads_tellKind (fun _ => if_pos rfl) (fun _ _ hne => if_neg hne) (fun _ _ => nofun)
      fun _ _ => trivial
  exact leads_publish_of_replaceAction (fun former => Traced (Untold port .empty former))
    (fun _ => leads_vacate) (fun _ => keeps_note _)
    (fun _ => leads_replaceAction (keeps_note _) (keeps_modifySlot fun _ _ => rfl))
    (fun _ _ => leads_restoreKind) (fun _ _ => leads_setKind) fun _ => htell

theorem keeps_dropAction (port : Port) :
    Keeps TracedUntil (Traced Told) (dropAction (c.platform depth) port) :=
  Guest.keeps_dropAction keepsRemarks (keeps_modifySlot fun _ _ => rfl) fun _ _ => keeps_note _

/-- No mark is due to a port whose work has been cancelled. -/
theorem leads_cancel (port : Port) : Leads TracedUntil (Traced suits)
    (cancel (c.platform depth) port) fun _ s => Traced suits s ∧ s.outside.isMarked port = false := by
  have hwork : Keeps TracedUntil (Traced suits) (onTable fun t => t.cancel port) := by
    refine keeps_onTable (fun t q => ?_) fun t q hq => hq
    rw [ActionTable.kind, ActionTable.slot_cancel]
    exact t.field_modifySlot port q fun _ => rfl
  have hseen (found : Bool) : Leads TracedUntil (Traced suits)
      (emit (c.platform depth) (.workCancelled port found)) fun _ s =>
      Traced suits s ∧ s.outside.isMarked port = false := by
    apply Client.leads_emit
    intro state before hs
    refine ⟨hs.cons (fun _ => rfl) (fun _ => Entry.unmarks_ne) trivial, ?_⟩
    change History.isMarked port (_ :: before) = false
    rw [History.isMarked_cons, Entry.marks?, if_pos rfl, Option.getD_some]
  exact Leads.bind hwork fun found => (hseen found).bind fun _ => .pure fun _ => id

theorem keeps_cancel (port : Port) :
    Keeps TracedUntil (Traced suits) (cancel (c.platform depth) port) :=
  (leads_cancel port).of_post fun _ _ hs => hs.1

/-- A port to which no mark is due may be acknowledged. -/
theorem keeps_acknowledge (port : Port) : Keeps TracedUntil
    (fun s => Traced suits s ∧ s.outside.isMarked port = false) (acknowledge port) := by
  apply Leads.onTable
  rintro state history ⟨hs, hport⟩
  refine ⟨hs.setTable (fun _ => id) fun q hq hout => ?_, hport⟩
  rw [ActionTable.isOutstanding_acknowledge]
  split
  next he =>
    rw [← he, hport] at hq
    cases hq
  next => exact hout

/-- A reset unpublishes the port and cancels its work before it removes its mark. -/
theorem keeps_resetSlot (port : Port) :
    Keeps TracedUntil (Traced Told) (resetSlot (c.platform depth) port) := by
  have hvacate : Leads TracedUntil (Traced Told) (modifyTable fun t => t.setKind port .empty)
      fun _ s => ∃ former, Traced (Untold port .empty former) s := by
    constructor
    intro s hs
    exact ⟨_, leads_vacate.of_ok (s := s) ⟨hs, rfl⟩ rfl⟩
  have hcancel : Leads TracedUntil (fun s => ∃ former, Traced (Untold port .empty former) s)
      (cancel (c.platform depth) port) fun _ s =>
      ∃ former, Traced (Untold port .empty former) s ∧ s.outside.isMarked port = false :=
    .exists fun _ => leads_cancel port
  have hcount : Keeps TracedUntil
      (fun s => ∃ former, Traced (Untold port .empty former) s ∧ s.outside.isMarked port = false)
      (modifyTable fun t => t.setDeliveries port 0) :=
    .exists fun _ => Keeps.and (keeps_modifySlot fun _ _ => rfl) (Leads.modifyTable fun _ _ => id)
  have hseen : Leads TracedUntil
      (fun s => ∃ former, Traced (Untold port .empty former) s ∧ s.outside.isMarked port = false)
      (emit (c.platform depth) (.slotReset port)) fun _ => Traced Told := by
    apply Leads.of_exists
    intro former
    have htell : Leads TracedUntil (Traced (Untold port .empty former))
        (emit (c.platform depth) (.slotReset port)) fun _ => Traced Told :=
      leads_tellKind (fun _ => if_pos rfl) (fun _ _ hne => if_neg hne) (fun _ _ => nofun)
        fun _ _ => trivial
    exact htell.of_pre fun _ hs => hs.1
  exact leads_resetSlot hvacate hcancel hcount (.exists fun _ => keeps_acknowledge port) hseen
    keepsRemarks (keeps_modifySlot fun _ _ => rfl)

end Kinds

section Work

/-- A scanner pass is serving an event of a port that it found under a kind. -/
def Serving (port : Port) (kind : Kind) (s : System History) : Prop :=
  Traced Told s ∧ s.outside.serving? = some (port, kind)

/-- A port is published under a kind, and outstanding if that is a legacy interrupt. -/
structure Poised (port : Port) (kind : Kind) (s : System History) : Prop where
  found : s.channels.table.kind port = kind
  marked : kind = .deferredHardwareIrq → s.channels.table.isOutstanding port = true

variable {p : Port} {served : Kind}

theorem leads_setOutstanding (port : Port) : Leads TracedUntil
    (fun s => Serving p served s ∧ s.channels.table.kind port = kind)
    (onTable fun t => t.setOutstanding port) fun _ s => Serving p served s ∧ Poised port kind s := by
  have hserving : Keeps TracedUntil (Serving p served) (onTable fun t => t.setOutstanding port) :=
    Keeps.and (keeps_setOutstanding port) (Leads.onTable fun _ _ => id)
  apply Leads.and (Leads.of_pre hserving fun _ hs => hs.1)
  apply Leads.onTable
  rintro state _ ⟨-, hkind⟩
  exact ⟨hkind, fun _ => (state.table.isOutstanding_setOutstanding port port).trans (if_pos rfl)⟩

/-- Work that a scanner pass calls for is traced as it is queued. -/
theorem Serving.queue {state : Channels} {before : History}
    (hs : Serving p served ⟨state, before⟩) (hpoised : Poised port kind ⟨state, before⟩)
    (hcalled : before.CallsFor state port kind) :
    Serving p served ⟨state, .saw depth (.workQueued port kind) state :: before⟩ := by
  obtain ⟨hs, hserving⟩ := hs
  have hmarks (q : Port) (hq : (Entry.saw depth (.workQueued port kind) state).marks? q =
      some true) : state.table.isOutstanding q = true := by
    change (if port = q then some (decide (kind = .deferredHardwareIrq)) else none) = _ at hq
    split at hq
    next he => exact he ▸ hpoised.marked (of_decide_eq_true (Option.some.inj hq))
    · cases hq
  have hpublished : before.kind port = kind := (hs.published port).symm.trans hpoised.found
  exact ⟨hs.log (fun _ => id) hmarks ⟨hcalled, hpublished, hpoised.found, hpoised.marked⟩, hserving⟩

theorem keeps_enqueue (port : Port) : Keeps TracedUntil
    (fun s => Serving p served s ∧ Poised port kind s ∧ s.outside.CallsFor s.channels port kind)
    (enqueue (c.platform depth) port) := by
  have hwork : Keeps TracedUntil
      (fun s => Serving p served s ∧ Poised port kind s ∧ s.outside.CallsFor s.channels port kind)
      (onTable fun t => t.enqueue port) := by
    apply Leads.onTable
    rintro state history ⟨⟨hs, hserving⟩, hpoised, hcalled⟩
    have hkind (q : Port) : (state.table.enqueue port).2.kind q = state.table.kind q := by
      rw [ActionTable.kind, ActionTable.slot_enqueue]
      exact state.table.field_modifySlot port q fun _ => rfl
    have hmarked (q : Port) := state.table.isOutstanding_enqueue port q
    refine ⟨⟨hs.setTable (fun q hq => ?_) fun q _ hq => (hmarked q).trans hq, hserving⟩,
      ⟨(hkind port).trans hpoised.found, fun hirq => (hmarked port).trans (hpoised.marked hirq)⟩,
      hcalled⟩
    rw [hkind q]
    exact hq
  apply hwork.bind
  intro fresh
  cases fresh with
  | false => exact .pure _
  | true =>
    apply Leads.table.bind
    intro t
    have hseen : Leads TracedUntil
        (fun s => (Serving p served s ∧ Poised port kind s ∧
          s.outside.CallsFor s.channels port kind) ∧ s.channels.table = t)
        (emit (c.platform depth) (.workQueued port (t.kind port))) fun _ s =>
        Serving p served s ∧ Poised port kind s ∧ s.outside.CallsFor s.channels port kind := by
      apply Client.leads_emit
      rintro state before ⟨⟨hs, hpoised, hcalled⟩, rfl⟩
      rw [hpoised.found]
      exact ⟨hs.queue hpoised hcalled, ⟨hpoised.found, hpoised.marked⟩, hcalled⟩
    exact hseen.bind fun _ => .pure fun _ => id

/-- A broadcast calls for every port that it finds published as a legacy interrupt. -/
theorem keeps_broadcast :
    Keeps TracedUntil (Serving p .suspend) (broadcast (c.platform depth)) := by
  apply keeps_broadcastTo_of_irq
  intro port
  apply (leads_setOutstanding port).discard.bind
  intro _
  apply Leads.weaken (keeps_enqueue port)
  · intro s hs
    exact ⟨hs.1, hs.2, .inr ⟨rfl, p, hs.1.2⟩⟩
  · exact fun _ s hs => hs.1

end Work

end EventChannel.Traced
