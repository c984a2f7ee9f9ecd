import EventChannel.Proofs.CurrentBinding.Invariant

namespace EventChannel

open Guest

/-- Every port is bound to its last binding now, and only current handlers were started so far. -/
structure Steady (s : System History) : Prop where
  bound : Bound s.channels.table s.outside
  always : s.outside.Always Entry.RunsCurrent

/-- What is left of it by a fault. -/
def SteadyUntil (s : System History) : Prop :=
  s.channels.table.Agrees ∧ s.outside.Always Entry.RunsCurrent

namespace Steady

variable {c : Client} {depth : Nat} {α : Type} {port : Port} {action : Action}

theorem steadyUntil {s : System History} (h : Steady s) : SteadyUntil s := ⟨h.bound.agrees, h.always⟩

theorem cons {entry : Entry} {state : Channels} {before : History}
    (h : Steady ⟨state, before⟩) (hstate : entry.state = state)
    (hentry : entry.changesBinding = false) (hstarts : entry.StartsCurrent before) :
    Steady ⟨state, entry :: before⟩ := by
  have hbound : Bound state.table (entry :: before) := by
    intro port
    rw [History.binding_cons hentry]
    exact h.bound port
  exact ⟨hbound, .cons ⟨hstate ▸ hbound.agrees, hstarts⟩ h.always⟩

theorem keeps_emit {e : Event} (hentry : ∀ state, (Entry.saw depth e state).changesBinding = false) :
    Keeps SteadyUntil Steady (emit (c.platform depth) e) :=
  Client.leads_emit fun state _ hs => hs.cons rfl (hentry state) trivial

theorem keepsRemarks : KeepsRemarks (c.platform depth) SteadyUntil Steady := by
  intro n hn
  cases n with
  | delivering | actionDropped => cases hn
  | _ => exact keeps_emit fun _ => rfl

theorem keeps_modifyTable {f : ActionTable → ActionTable}
    (h : ∀ t q binding, Sound (t.kind q) (t.slot q).action binding →
      Sound ((f t).kind q) ((f t).slot q).action binding) :
    Keeps SteadyUntil Steady (modifyTable f) :=
  Leads.modifyTable fun _ _ hs => ⟨fun q => h _ q _ (hs.bound q), hs.always⟩

theorem keeps_onTable {f : ActionTable → α × ActionTable}
    (h : ∀ t q, ((f t).2.slot q).kind = (t.slot q).kind ∧
      ((f t).2.slot q).action = (t.slot q).action) :
    Keeps SteadyUntil Steady (onTable f) := by
  apply Leads.onTable
  intro state o hs
  refine ⟨fun q => ?_, hs.always⟩
  obtain ⟨hkind, haction⟩ := h state.table q
  rw [ActionTable.kind, hkind, haction]
  exact hs.bound q

theorem keeps_modifySlot {f : ActionTable → Slot → Slot}
    (h : ∀ t s, (f t s).kind = s.kind ∧ (f t s).action = s.action) :
    Keeps SteadyUntil Steady (modifyTable fun t => t.modifySlot port (f t)) := by
  apply keeps_modifyTable
  intro t q binding hsound
  rw [ActionTable.kind, t.field_modifySlot port q fun s => (h t s).1,
    t.field_modifySlot port q fun s => (h t s).2]
  exact hsound

theorem sound_empty_kind {binding : Option Action} : Sound .empty action binding :=
  fun hne => absurd rfl hne

theorem sound_empty_action {kind : Kind} {binding : Option Action} : Sound kind .empty binding :=
  fun _ hne => absurd rfl hne

theorem keeps_clearKind :
    Keeps SteadyUntil Steady (modifyTable fun t => t.setKind port .empty) := by
  apply keeps_modifyTable
  intro t q binding hsound
  rw [ActionTable.kind_setKind, ActionTable.action_setKind]
  split
  · exact sound_empty_kind
  · exact hsound

theorem keeps_clearAction :
    Keeps SteadyUntil Steady (modifyTable fun t => t.setAction port .empty) := by
  apply keeps_modifyTable
  intro t q binding hsound
  rw [ActionTable.kind_setAction, ActionTable.action_setAction]
  split
  · exact sound_empty_action
  · exact hsound

theorem keeps_onPage (m : PageM α) : Keeps SteadyUntil Steady (onPage m) := by
  apply Leads.onPage
  intro state o hs
  split
  · exact ⟨hs.bound, hs.always⟩
  · exact ⟨hs.bound.agrees, hs.always⟩

theorem keeps_enqueue (port : Port) : Keeps SteadyUntil Steady (enqueue (c.platform depth) port) := by
  apply Guest.keeps_enqueue _ fun _ => keeps_emit fun _ => rfl
  apply keeps_onTable
  intro t q
  rw [ActionTable.slot_enqueue]
  exact ⟨t.field_modifySlot _ _ fun _ => rfl, t.field_modifySlot _ _ fun _ => rfl⟩

theorem keeps_cancel (port : Port) : Keeps SteadyUntil Steady (cancel (c.platform depth) port) := by
  apply Guest.keeps_cancel _ fun _ => keeps_emit fun _ => rfl
  apply keeps_onTable
  intro t q
  rw [ActionTable.slot_cancel]
  exact ⟨t.field_modifySlot _ _ fun _ => rfl, t.field_modifySlot _ _ fun _ => rfl⟩

/-- The published kind of a port is empty, and a former kind would suit its action still. -/
def Vacant (port : Port) (former : Kind) (s : System History) : Prop :=
  Steady s ∧ s.channels.table.kind port = .empty ∧
    Sound former (s.channels.table.slot port).action (s.outside.binding port)

/-- The published kind of a port is empty, and a new action is in its place. -/
def Replaced (port : Port) (action : Action) (s : System History) : Prop :=
  Steady s ∧ s.channels.table.kind port = .empty ∧ (s.channels.table.slot port).action = action

/-- The new action is in force, and only the history does not tell so yet. -/
def Unannounced (port : Port) (action : Action) (s : System History) : Prop :=
  s.outside.Always Entry.RunsCurrent ∧ (s.channels.table.slot port).action = action ∧
    s.channels.table.kind port = action.kind ∧
    ∀ q, port ≠ q → Sound (s.channels.table.kind q) (s.channels.table.slot q).action
      (s.outside.binding q)

theorem leads_vacate {t : ActionTable} : Leads SteadyUntil
    (fun s => Steady s ∧ s.channels.table = t) (modifyTable fun t => t.setKind port .empty)
    fun _ => Vacant port (t.kind port) := by
  have hsteady : Leads SteadyUntil (fun s => Steady s ∧ s.channels.table = t)
      (modifyTable fun t => t.setKind port .empty) fun _ => Steady :=
    Leads.of_pre keeps_clearKind fun s hs => hs.1
  apply hsteady.and
  apply Leads.modifyTable
  intro state o hs
  obtain ⟨hs, rfl⟩ := hs
  rw [ActionTable.kind_setKind, if_pos rfl, ActionTable.action_setKind]
  exact ⟨rfl, hs.bound port⟩

theorem keeps_vacant {former : Kind} {n : Notice} (hn : n.isRemark = true) :
    Keeps SteadyUntil (Vacant port former) (note (c.platform depth) n) := by
  apply Leads.and (Leads.of_pre (keepsRemarks n hn) fun s hs => hs.1)
  apply Client.leads_emit
  intro state o hs
  obtain ⟨_, hkind, hsound⟩ := hs
  have hentry : (Entry.saw depth (.noticed n) state).changesBinding = false := by
    cases n with
    | actionDropped => cases hn
    | _ => rfl
  refine ⟨hkind, ?_⟩
  rw [History.binding_cons hentry]
  exact hsound

theorem leads_replace {former : Kind} : Leads SteadyUntil (Vacant port former)
    (modifyTable fun t => t.setAction port action) fun _ => Replaced port action := by
  apply Leads.modifyTable
  intro state o hs
  obtain ⟨hs, hkind, _⟩ := hs
  refine ⟨⟨fun q => ?_, hs.always⟩, ?_, ?_⟩
  · rw [ActionTable.kind_setAction, ActionTable.action_setAction]
    split
    next he =>
      rw [← he, hkind]
      exact sound_empty_kind
    · exact hs.bound q
  · rw [ActionTable.kind_setAction]
    exact hkind
  · rw [ActionTable.action_setAction, if_pos rfl]

theorem leads_restoreKind {former : Kind} :
    Leads SteadyUntil (Vacant port former) (restoreKind port former) fun _ => Steady := by
  apply Leads.modifyTable
  intro state o hs
  obtain ⟨hs, hkind, hsound⟩ := hs
  refine ⟨fun q => ?_, hs.always⟩
  simp only [hkind, if_true]
  rw [ActionTable.kind_setKind, ActionTable.action_setKind]
  split
  next he =>
    rw [← he]
    exact hsound
  · exact hs.bound q

theorem leads_publishKind : Leads SteadyUntil (Replaced port action)
    (modifyTable fun t => t.setKind port action.kind) fun _ => Unannounced port action := by
  apply Leads.modifyTable
  intro state o hs
  obtain ⟨hs, _, haction⟩ := hs
  refine ⟨hs.always, ?_, ?_, fun q hne => ?_⟩
  · rw [ActionTable.action_setKind]
    exact haction
  · rw [ActionTable.kind_setKind, if_pos rfl]
  · rw [ActionTable.kind_setKind, if_neg hne, ActionTable.action_setKind]
    exact hs.bound q

theorem leads_published : Leads SteadyUntil (Unannounced port action)
    (emit (c.platform depth) (.published port action)) fun _ => Steady := by
  apply Client.leads_emit
  intro state o hs
  obtain ⟨halways, haction, hkind, hother⟩ := hs
  have hbound : Bound state.table (.saw depth (.published port action) state :: o) := by
    intro q
    by_cases he : port = q
    · subst he
      intro _ _
      rw [haction, hkind]
      exact ⟨if_pos rfl, rfl⟩
    · have hbinding : History.binding q (.saw depth (.published port action) state :: o) =
          o.binding q := if_neg he
      rw [hbinding]
      exact hother q he
  exact ⟨hbound, .cons ⟨hbound.agrees, trivial⟩ halways⟩

theorem keeps_publish (port : Port) (action : Action) :
    Keeps SteadyUntil Steady (publish (c.platform depth) port action) :=
  -- When the replacement is refused, the old action is still in place, and its former kind suits it.
  leads_publish_of_replaceAction (Vacant port) (fun _ => leads_vacate)
    (fun _ => keeps_vacant rfl) (fun _ => leads_replaceAction (keeps_vacant rfl) leads_replace)
    (fun _ _ => leads_restoreKind) (fun _ _ => leads_publishKind) fun _ => leads_published

/-- The action is gone by the time its drop is told. -/
theorem keeps_dropAction (port : Port) :
    Keeps SteadyUntil Steady (dropAction (c.platform depth) port) := by
  have hclear : Leads SteadyUntil Steady (modifyTable fun t => t.setAction port .empty) fun _ s =>
      Steady s ∧ (s.channels.table.slot port).action = .empty := by
    apply Leads.and keeps_clearAction
    apply Leads.modifyTable
    intro state o _
    rw [ActionTable.action_setAction, if_pos rfl]
  have htold (kind : Kind) (old : Action) : Leads SteadyUntil
      (fun s => Steady s ∧ (s.channels.table.slot port).action = .empty)
      (note (c.platform depth) (.actionDropped port kind old)) fun _ => Steady := by
    apply Client.leads_emit
    intro state o hs
    obtain ⟨hs, hempty⟩ := hs
    have hbound : Bound state.table
        (.saw depth (.noticed (.actionDropped port kind old)) state :: o) := by
      intro q
      by_cases he : port = q
      · rw [← he, hempty]
        exact sound_empty_action
      · have hbinding : History.binding q
            (.saw depth (.noticed (.actionDropped port kind old)) state :: o) = o.binding q :=
          if_neg he
        rw [hbinding]
        exact hs.bound q
    exact ⟨hbound, .cons ⟨hbound.agrees, trivial⟩ hs.always⟩
  exact leads_dropAction_of_replaceAction (leads_replaceAction (keepsRemarks _ rfl) hclear)
    (fun _ _ => id) htold

/-- A reset unpublishes the port first, whatever becomes of its action. -/
theorem keeps_resetSlot (port : Port) :
    Keeps SteadyUntil Steady (resetSlot (c.platform depth) port) := by
  let K (s : System History) : Prop := s.channels.table.kind port = .empty
  have hunpublish : Leads SteadyUntil Steady (modifyTable fun t => t.setKind port .empty)
      fun _ s => Steady s ∧ K s := by
    apply Leads.and keeps_clearKind
    apply Leads.modifyTable
    intro state o _
    exact (state.table.kind_setKind port port .empty).trans (if_pos rfl)
  have htable {f : ActionTable → ActionTable} (h : ∀ t, (f t).kind port = t.kind port) :
      Keeps SteadyUntil K (modifyTable f) := Leads.modifyTable fun state _ hs => (h state.table).trans hs
  have hcancel : Keeps SteadyUntil K (cancel (c.platform depth) port) := by
    apply Guest.keeps_cancel _ fun _ => Client.leads_emit fun _ _ => id
    apply Leads.onTable
    intro state o hs
    have hkind : (state.table.cancel port).2.kind port = state.table.kind port := by
      rw [ActionTable.kind, ActionTable.slot_cancel]
      exact state.table.field_modifySlot _ _ fun _ => rfl
    exact hkind.trans hs
  have hdeliveries : Keeps SteadyUntil Steady (modifyTable fun t => t.setDeliveries port 0) :=
    keeps_modifySlot fun _ _ => ⟨rfl, rfl⟩
  have hkind : Keeps SteadyUntil K (modifyTable fun t => t.setDeliveries port 0) :=
    htable fun t => t.field_modifySlot _ _ fun _ => rfl
  have hack : Keeps SteadyUntil (fun s => Steady s ∧ K s)
      (onTable fun t => t.acknowledge port) :=
    (keeps_onTable fun _ _ => ⟨rfl, rfl⟩).and (Leads.onTable fun _ _ => id)
  have hseen : Leads SteadyUntil (fun s => Steady s ∧ K s)
      (emit (c.platform depth) (.slotReset port)) fun _ => Steady := by
    apply Client.leads_emit
    intro state o hs
    obtain ⟨hs, hempty⟩ := hs
    have hbound : Bound state.table (.saw depth (.slotReset port) state :: o) := by
      intro q
      by_cases he : port = q
      · have hempty' : state.table.kind port = .empty := hempty
        rw [← he, hempty']
        exact sound_empty_kind
      · have hbinding : History.binding q (.saw depth (.slotReset port) state :: o) = o.binding q :=
          if_neg he
        rw [hbinding]
        exact hs.bound q
    exact ⟨hbound, .cons ⟨hbound.agrees, trivial⟩ hs.always⟩
  exact leads_resetSlot hunpublish ((keeps_cancel port).and hcancel) (hdeliveries.and hkind) hack
    hseen keepsRemarks keeps_clearAction

end Steady

end EventChannel
