import EventChannel.Proofs.Keeping.Operation
import EventChannel.Proofs.ReaderIsolation.Invariant

namespace EventChannel

open Guest

/-- The readings are as given, every port retains what its readers found, and readers were isolated
so far. -/
structure Reading (readings : Port → List Action) (s : System History) : Prop where
  retains : ∀ port, s.channels.table.Retains port (readings port)
  known : ∀ port, s.outside.readings port = readings port
  always : s.outside.Always Entry.Isolates

/-- Readers are isolated, whatever they read. -/
def Isolated (s : System History) : Prop := ∃ readings, Reading readings s

namespace Reading

variable {c : Client} {depth : Nat} {α : Type} {port : Port} {action : Action}
  {readings : Port → List Action}

theorem isolated {s : System History} (h : Reading readings s) : Isolated s := ⟨readings, h⟩

theorem cons {entry : Entry} {state : Channels} {before : History}
    (h : Reading readings ⟨state, before⟩) (hstate : entry.state = state)
    (hreader : entry.movesReader = false) (hheeds : entry.Heeds before) :
    Reading readings ⟨state, entry :: before⟩ := by
  have hknown (port : Port) : History.readings port (entry :: before) = readings port :=
    (History.readings_cons hreader port before).trans (h.known port)
  refine ⟨h.retains, hknown, .cons ⟨fun port => ?_, hheeds⟩ h.always⟩
  rw [hknown, hstate]
  exact h.retains port

theorem keeps_emit {e : Event} (hreader : ∀ state, (Entry.saw depth e state).movesReader = false) :
    Keeps Isolated (Reading readings) (emit (c.platform depth) e) :=
  Client.leads_emit fun state _ hs => hs.cons rfl (hreader state) trivial

theorem keeps_record {entry : Channels → Entry} (hstate : ∀ state, (entry state).state = state)
    (hreader : ∀ state, (entry state).movesReader = false)
    (hheeds : ∀ state before, (entry state).Heeds before) :
    Keeps Isolated (Reading readings) (record entry) :=
  Leads.record fun state _ hs => hs.cons (hstate state) (hreader state) (hheeds state _)

theorem keeps_note (n : Notice) : Keeps Isolated (Reading readings) (note (c.platform depth) n) :=
  keeps_emit fun _ => rfl

theorem keeps_modifyTable {f : ActionTable → ActionTable}
    (h : ∀ t q, ((f t).slot q).readers = (t.slot q).readers ∧
      ((f t).slot q).action = (t.slot q).action) :
    Keeps Isolated (Reading readings) (modifyTable f) :=
  Leads.modifyTable fun _ _ hs =>
    ⟨fun q => (hs.retains q).of_slot (h _ q).1 (h _ q).2, hs.known, hs.always⟩

theorem keeps_onTable {f : ActionTable → α × ActionTable}
    (h : ∀ t q, ((f t).2.slot q).readers = (t.slot q).readers ∧
      ((f t).2.slot q).action = (t.slot q).action) :
    Keeps Isolated (Reading readings) (onTable f) :=
  Leads.onTable fun _ _ hs =>
    ⟨fun q => (hs.retains q).of_slot (h _ q).1 (h _ q).2, hs.known, hs.always⟩

theorem keeps_modifySlot {f : ActionTable → Slot → Slot}
    (h : ∀ t s, (f t s).readers = s.readers ∧ (f t s).action = s.action) :
    Keeps Isolated (Reading readings) (modifyTable fun t => t.modifySlot port (f t)) :=
  keeps_modifyTable fun t q =>
    ⟨t.field_modifySlot port q fun s => (h t s).1, t.field_modifySlot port q fun s => (h t s).2⟩

theorem keeps_countDelivery : Keeps Isolated (Reading readings) (onTable fun t => t.countDelivery port) :=
  keeps_onTable fun t _ =>
    ⟨t.field_modifySlot _ _ fun _ => rfl, t.field_modifySlot _ _ fun _ => rfl⟩

theorem keeps_onPage (m : PageM α) : Keeps Isolated (Reading readings) (onPage m) := by
  apply Leads.onPage
  intro state o hs
  split
  · exact ⟨hs.retains, hs.known, hs.always⟩
  · exact ⟨readings, hs.retains, hs.known, hs.always⟩

theorem keeps_modifyPage (f : SharedPage → SharedPage) :
    Keeps Isolated (Reading readings) (modifyPage f) :=
  Leads.modifyPage fun _ _ hs => ⟨hs.retains, hs.known, hs.always⟩

theorem pageIndifferent : PageIndifferent (c.platform depth) Isolated (Reading readings) where
  page := keeps_onPage
  modifyPage := keeps_modifyPage
  raised _ _ := keeps_emit fun _ => rfl
  discarded _ _ := keeps_emit fun _ => rfl
  pendingDropped _ := keeps_emit fun _ => rfl

theorem keeps_enqueue (port : Port) :
    Keeps Isolated (Reading readings) (enqueue (c.platform depth) port) := by
  apply Guest.keeps_enqueue _ fun _ => keeps_emit fun _ => rfl
  apply keeps_onTable
  intro t q
  rw [ActionTable.slot_enqueue]
  exact ⟨t.field_modifySlot _ _ fun _ => rfl, t.field_modifySlot _ _ fun _ => rfl⟩

theorem keeps_cancel (port : Port) :
    Keeps Isolated (Reading readings) (cancel (c.platform depth) port) := by
  apply Guest.keeps_cancel _ fun _ => keeps_emit fun _ => rfl
  apply keeps_onTable
  intro t q
  rw [ActionTable.slot_cancel]
  exact ⟨t.field_modifySlot _ _ fun _ => rfl, t.field_modifySlot _ _ fun _ => rfl⟩

/-- An action without readers may be written. -/
theorem leads_setAction (hfree : readings port = []) :
    Keeps Isolated (Reading readings) (modifyTable fun t => t.setAction port action) := by
  apply Leads.modifyTable
  intro state o hs
  refine ⟨fun q => ?_, hs.known, hs.always⟩
  have hreaders : ((state.table.setAction port action).slot q).readers =
      (state.table.slot q).readers := state.table.field_modifySlot port q fun _ => rfl
  by_cases hq : port = q
  · subst hq
    have hnone := (hs.retains port).eq_nil_iff.1 hfree
    rw [hfree]
    exact .of_no_readers (hreaders.trans hnone)
  · apply (hs.retains q).of_slot hreaders
    rw [ActionTable.action_setAction, if_neg hq]

/-- The action is written just if it has no readers. -/
theorem leads_replaceAction : Leads Isolated (Reading readings)
    (replaceAction (c.platform depth) port action) fun replaced s =>
      Reading readings s ∧ replaced.map (fun _ => ()) = port.written (readings port) := by
  apply Leads.table.bind
  intro t
  have hreaders : ∀ s : System History, Reading readings s ∧ s.channels.table = t →
      Reading readings s ∧ (readings port = [] ↔ (t.slot port).readers = 0) := by
    intro s hs
    obtain ⟨hs, rfl⟩ := hs
    exact ⟨hs, (hs.retains port).eq_nil_iff⟩
  refine Leads.of_pre (Leads.assume fun hfree => ?_) hreaders
  dsimp only
  split
  next h =>
    apply Leads.bind (leads_setAction (hfree.2 h))
    intro _
    exact .pure fun _ hs => ⟨hs, (if_pos (hfree.2 h)).symm⟩
  next h =>
    apply Leads.bind (keeps_note _)
    intro _
    exact .pure fun _ hs => ⟨hs, (if_neg fun he => h (hfree.1 he)).symm⟩

theorem leads_publish : Leads Isolated (Reading readings)
    (publish (c.platform depth) port action) fun result s =>
      Reading readings s ∧ result = port.written (readings port) := by
  have hkind (kind : Kind) :
      Keeps Isolated (Reading readings) (modifyTable fun t => t.setKind port kind) :=
    keeps_modifySlot fun _ _ => ⟨rfl, rfl⟩
  have hpublished : Keeps Isolated (fun s => Reading readings s ∧ .ok () = port.written (readings port))
      (modifyTable fun t => t.setKind port action.kind) := (hkind action.kind).and_fact
  exact leads_publish_of_replaceAction (fun _ => Reading readings)
    (fun _ => Leads.of_pre (hkind .empty) fun _ hs => hs.1) (fun _ => keeps_note _)
    (fun _ => leads_replaceAction) (fun _ _ => (keeps_restoreKind (hkind _)).and_fact)
    (fun _ _ => hpublished) fun _ => (keeps_emit fun _ => rfl).and_fact

theorem leads_dropAction : Leads Isolated (Reading readings)
    (dropAction (c.platform depth) port) fun result s =>
      Reading readings s ∧ result = port.written (readings port) :=
  leads_dropAction_of_replaceAction leads_replaceAction (fun _ _ => id)
    fun _ _ => (keeps_note _).and_fact

theorem leads_resetSlot : Leads Isolated (Reading readings)
    (resetSlot (c.platform depth) port) fun result s =>
      Reading readings s ∧ result = port.written (readings port) := by
  have hkind : Keeps Isolated (Reading readings) (modifyTable fun t => t.setKind port .empty) :=
    keeps_modifySlot fun _ _ => ⟨rfl, rfl⟩
  have hcount : Keeps Isolated (Reading readings) (modifyTable fun t => t.setDeliveries port 0) :=
    keeps_modifySlot fun _ _ => ⟨rfl, rfl⟩
  have hack : Keeps Isolated (Reading readings) (onTable fun t => t.acknowledge port) :=
    keeps_onTable fun _ _ => ⟨rfl, rfl⟩
  exact leads_resetSlot_of_replaceAction hkind (keeps_cancel port) hcount hack
    (keeps_emit fun _ => rfl) leads_replaceAction

/-- A reset of ports comes to the first that has readers. -/
theorem leads_resetSlots (ports : List Port) : Leads Isolated (Reading readings)
    (resetSlots (c.platform depth) ports) fun result s =>
      Reading readings s ∧ result = forM ports fun port => port.written (readings port) := by
  induction ports with
  | nil => exact .pure fun _ hs => ⟨hs, rfl⟩
  | cons port ports ih =>
    apply leads_resetSlot.bind
    intro result
    apply Leads.assume
    intro hresult
    rw [List.forM_cons, ← hresult]
    cases result with
    | error e => exact .pure fun _ hs => ⟨hs, rfl⟩
    | ok _ => exact ih

theorem leads_attach : Leads Isolated (Reading readings)
    (attach (c.platform depth) port action) fun result s =>
      Reading readings s ∧ result = port.written (readings port) := by
  have hpage : PageIndifferent (c.platform depth) Isolated (Reading readings) := pageIndifferent
  exact leads_attach_of_publish leads_publish (fun _ _ => id) (hpage.unmask port).and_fact
    (keeps_note _).and_fact

theorem leads_unbind : Leads Isolated (Reading readings)
    (unbind (c.platform depth) port) fun result s =>
      Reading readings s ∧ result = port.written (readings port) := by
  apply Leads.bind (keeps_onPage _).discard
  intro _
  apply leads_dropAction.bind
  intro cleared
  apply Leads.assume
  intro hcleared
  apply Leads.bind (keeps_cancel port)
  intro found
  apply Leads.guarded (fun _ => keeps_note _) fun _ _ => id
  intro _
  exact .pure fun _ hs => ⟨hs, hcleared⟩

end Reading

end EventChannel
