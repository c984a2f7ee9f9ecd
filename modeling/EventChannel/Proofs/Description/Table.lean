import EventChannel.Proofs.Description.Invariant

namespace EventChannel

open Guest

namespace Upheld

variable {c : Client} {depth : Nat} {α : Type} {port : Port} {action : Action}
variable {except? : Option Port}

theorem cons {entry : Entry} {state : Channels} {before : History}
    (h : Upheld ⟨state, before⟩) (hstate : entry.state = state)
    (hentry : ∀ p, entry.boundIrq? p = none) (hshows : entry.Shows before) :
    Upheld ⟨state, entry :: before⟩ := by
  have hnow : state.table.Upholds none (entry :: before) := h.now.cons hentry
  exact ⟨hnow, .cons ⟨hstate ▸ hnow, hshows⟩ h.always⟩

theorem keeps_emit {e : Event} : Keeps Upheld Upheld (emit (c.platform depth) e) :=
  Client.leads_emit fun _ _ hs => hs.cons rfl (fun _ => rfl) trivial

theorem keeps_note (n : Notice) : Keeps Upheld Upheld (note (c.platform depth) n) :=
  keeps_emit

theorem keepsRemarks : KeepsRemarks (c.platform depth) Upheld Upheld :=
  fun n _ => keeps_note n

theorem keeps_record {entry : Channels → Entry} (hstate : ∀ state, (entry state).state = state)
    (hentry : ∀ state p, (entry state).boundIrq? p = none)
    (hshows : ∀ state before, (entry state).Shows before) :
    Keeps Upheld Upheld (record entry) :=
  Leads.record fun state _ hs => hs.cons (hstate state) (hentry state) (hshows state _)

/-- The event by which a change to a port's action is told accounts for the port. -/
theorem leads_told {e : Event}
    (he : ∀ state, (Entry.saw depth e state).overwrites port = true) :
    Leads Upheld (UpheldBut (some port)) (emit (c.platform depth) e) fun _ => Upheld := by
  apply Client.leads_emit
  intro state o hs
  have hnow : state.table.Upholds none (.saw depth e state :: o) :=
    hs.now.cons_overwritten (fun _ => rfl) (he state)
  exact ⟨hnow, .cons ⟨hnow, trivial⟩ hs.always⟩

theorem keeps_modifyTable {f : ActionTable → ActionTable}
    (h : ∀ t q, ((f t).slot q).action = (t.slot q).action) :
    Keeps Upheld (UpheldBut except?) (modifyTable f) :=
  Leads.modifyTable fun _ _ hs => ⟨hs.now.of_actions (h _), hs.always⟩

theorem keeps_onTable {f : ActionTable → α × ActionTable}
    (h : ∀ t q, ((f t).2.slot q).action = (t.slot q).action) :
    Keeps Upheld (UpheldBut except?) (onTable f) :=
  Leads.onTable fun _ _ hs => ⟨hs.now.of_actions (h _), hs.always⟩

theorem keeps_modifySlot {f : ActionTable → Slot → Slot}
    (h : ∀ t s, (f t s).action = s.action) :
    Keeps Upheld (UpheldBut except?) (modifyTable fun t => t.modifySlot port (f t)) :=
  keeps_modifyTable fun t q => t.field_modifySlot port q (h t)

/-- Bindings are upheld, but perhaps that of one port, and the port has the given action. -/
def Serves (except? : Option Port) (port : Port) (action : Action) (s : System History) : Prop :=
  UpheldBut except? s ∧ (s.channels.table.slot port).action = action

theorem leads_setAction : Leads Upheld Upheld
    (modifyTable fun t => t.setAction port action) fun _ => Serves (some port) port action := by
  apply Leads.modifyTable
  intro state o hs
  refine ⟨⟨hs.now.setAction action, hs.always⟩, ?_⟩
  rw [ActionTable.action_setAction, if_pos rfl]

theorem leads_publishKind : Leads Upheld (Serves (some port) port action)
    (modifyTable fun t => t.setKind port action.kind) fun _ => Serves (some port) port action := by
  apply Leads.modifyTable
  intro state o hs
  have hactions (q : Port) : ((state.table.setKind port action.kind).slot q).action =
      (state.table.slot q).action := state.table.action_setKind port q _
  exact ⟨⟨hs.1.now.of_actions hactions, hs.1.always⟩, (hactions port).trans hs.2⟩

theorem leads_published : Leads Upheld (Serves (some port) port action)
    (emit (c.platform depth) (.published port action)) fun _ => Serves none port action := by
  have htold : Leads Upheld (UpheldBut (some port))
      (emit (c.platform depth) (.published port action)) fun _ => Upheld :=
    leads_told fun _ => decide_eq_true rfl
  apply (htold.of_pre fun _ hs => hs.1).and
  exact Client.leads_emit fun _ _ hs => hs.2

theorem keeps_onPage (m : PageM α) : Keeps Upheld Upheld (onPage m) := by
  apply Leads.onPage
  intro state o hs
  split
  · exact ⟨hs.now, hs.always⟩
  · exact ⟨hs.now, hs.always⟩

theorem keeps_enqueue (port : Port) :
    Keeps Upheld Upheld (enqueue (c.platform depth) port) := by
  apply Guest.keeps_enqueue _ fun _ => keeps_emit
  apply keeps_onTable
  intro t q
  rw [ActionTable.slot_enqueue]
  exact t.field_modifySlot _ _ fun _ => rfl

theorem keeps_cancel (port : Port) :
    Keeps Upheld Upheld (cancel (c.platform depth) port) := by
  apply Guest.keeps_cancel _ fun _ => keeps_emit
  apply keeps_onTable
  intro t q
  rw [ActionTable.slot_cancel]
  exact t.field_modifySlot _ _ fun _ => rfl

/-- A port that has been published serves the action. -/
theorem leads_publish : Leads Upheld Upheld (publish (c.platform depth) port action)
    fun result s => Upheld s ∧ (result = .ok () → Serves none port action s) := by
  have hkind (kind : Kind) :
      Keeps Upheld Upheld (modifyTable fun t => t.setKind port kind) :=
    keeps_modifySlot fun _ _ => rfl
  have hrefused (former : Kind) (e : ChannelError) :
      Leads Upheld Upheld (restoreKind port former) fun _ s =>
        Upheld s ∧ (Except.error e = .ok () → Serves none port action s) :=
    Leads.of_post (keeps_restoreKind (hkind former)) fun _ _ hs => ⟨hs, nofun⟩
  exact leads_publish_of_replaceAction (fun _ => Upheld)
    (fun _ => Leads.of_pre (hkind .empty) fun _ hs => hs.1) (fun _ => keeps_note _)
    (fun _ => leads_replaceAction (keeps_note _) leads_setAction) hrefused (fun _ _ => leads_publishKind)
    fun _ => leads_published.of_post fun _ _ hs => ⟨hs.1, fun _ => hs⟩

theorem keeps_publish (port : Port) (action : Action) :
    Keeps Upheld Upheld (publish (c.platform depth) port action) :=
  leads_publish.of_post fun _ _ hs => hs.1

theorem keeps_dropAction (port : Port) :
    Keeps Upheld Upheld (dropAction (c.platform depth) port) := by
  have htold (kind : Kind) (old : Action) : Leads Upheld (Serves (some port) port .empty)
      (note (c.platform depth) (.actionDropped port kind old)) fun _ => Upheld :=
    Leads.of_pre (leads_told fun _ => decide_eq_true rfl) fun _ hs => hs.1
  exact leads_dropAction_of_replaceAction (leads_replaceAction (keeps_note _) leads_setAction)
    (fun _ _ => id) htold

/-- A reset of a port has been told. If its action has no readers, nothing stands for the port. -/
def Cleared (port : Port) (s : System History) : Prop :=
  Upheld s ∧
    ((s.channels.table.slot port).readers = 0 → s.outside.standing port = none)

theorem leads_slotReset : Leads Upheld Upheld
    (emit (c.platform depth) (.slotReset port)) fun _ => Cleared port := by
  apply Leads.and keeps_emit
  apply Client.leads_emit
  intro state o _ hreaders
  have hoverwrites : (Entry.saw depth (.slotReset port) state).overwrites port = true := by
    change (decide (port = port) && decide ((state.table.slot port).readers = 0)) = true
    rw [decide_eq_true rfl, decide_eq_true hreaders]
    rfl
  change (if _ = true then none else _) = none
  rw [if_pos hoverwrites]

theorem leads_replaceAction_cleared : Leads Upheld (Cleared port)
    (replaceAction (c.platform depth) port .empty) fun _ => Upheld := by
  apply Leads.table.bind
  intro t
  dsimp only
  split
  next hfree =>
    have haction : Leads Upheld (fun s => Cleared port s ∧ s.channels.table = t)
        (modifyTable fun t => t.setAction port .empty) fun _ => Upheld := by
      apply Leads.modifyTable
      intro state o hs
      obtain ⟨⟨hs, hnone⟩, rfl⟩ := hs
      exact ⟨hs.now.setAction_of_none (hnone hfree) .empty, hs.always⟩
    exact haction.bind fun _ => .pure fun _ => id
  next =>
    have hnote : Leads Upheld (fun s => Cleared port s ∧ s.channels.table = t)
        (note (c.platform depth) (.slotStayedLocked port)) fun _ => Upheld :=
      Leads.of_pre (keeps_note _) fun _ hs => hs.1.1
    exact hnote.bind fun _ => .pure fun _ => id

theorem keeps_resetSlot (port : Port) :
    Keeps Upheld Upheld (resetSlot (c.platform depth) port) := by
  have hkind : Keeps Upheld Upheld (modifyTable fun t => t.setKind port .empty) :=
    keeps_modifySlot fun _ _ => rfl
  have hcount : Keeps Upheld Upheld (modifyTable fun t => t.setDeliveries port 0) :=
    keeps_modifySlot fun _ _ => rfl
  have hack : Keeps Upheld Upheld (onTable fun t => t.acknowledge port) :=
    keeps_onTable fun _ _ => rfl
  exact leads_resetSlot_of_replaceAction hkind (keeps_cancel port) hcount hack leads_slotReset
    leads_replaceAction_cleared

theorem pageIndifferent : PageIndifferent (c.platform depth) Upheld Upheld where
  page := keeps_onPage
  modifyPage _ := Leads.modifyPage fun _ _ hs => ⟨hs.now, hs.always⟩
  raised _ _ := keeps_emit
  discarded _ _ := keeps_emit
  pendingDropped _ := keeps_emit

/-- A port that has been attached serves the action: unmasking it leaves the actions alone. -/
theorem leads_attach : Leads Upheld Upheld (attach (c.platform depth) port action)
    fun result s => Upheld s ∧ (result = .ok () → Serves none port action s) := by
  have hpage {β : Type} (m : PageM β) : Keeps Upheld (Serves none port action) (onPage m) := by
    apply Leads.onPage
    intro state o hs
    split
    · exact ⟨⟨hs.1.now, hs.1.always⟩, hs.2⟩
    · exact ⟨hs.1.now, hs.1.always⟩
  have hunmask : Keeps Upheld (Serves none port action) (unmask port) :=
    keeps_unmask (fun _ => True) (fun _ _ => trivial) (hpage _) fun _ _ => hpage _
  have hnote : Keeps Upheld (Serves none port action)
      (note (c.platform depth) (.portBound port action.kind)) :=
    (Leads.of_pre (keeps_note _) fun _ hs => hs.1).and (Client.leads_emit fun _ _ hs => hs.2)
  apply leads_publish.bind
  intro published
  cases published with
  | error e => exact .pure fun _ hs => ⟨hs.1, nofun⟩
  | ok _ =>
    apply Leads.bind (hunmask.of_pre fun _ hs => hs.2 rfl)
    intro _
    exact Leads.bind hnote fun _ => .pure fun _ hs => ⟨hs.1, fun _ => hs⟩

end Upheld

end EventChannel
