import EventChannel.Proofs.ActionTable
import EventChannel.Proofs.Keeping.Lifecycle

namespace EventChannel

namespace ActionTable

variable (t : ActionTable) (p q : Port) (a : Action)

/-- The table after a reset of one port, up to the action. -/
def clearAt : ActionTable :=
  ((((t.setKind p .empty).cancel p).2.setDeliveries p 0).acknowledge p).2

/-- The table after a reset of one port whose action has no readers. -/
def resetAt : ActionTable := (t.clearAt p).setAction p .empty

/-- The table after a port was bound whose action had no readers. -/
def bindAt : ActionTable := ((t.setKind p .empty).setAction p a).setKind p a.kind

theorem slot_clearAt : (t.clearAt p).slot q =
    if p = q then { t.slot q with kind := .empty, work := .new, deliveries := 0 } else t.slot q := by
  change ((((t.setKind p .empty).cancel p).2).setDeliveries p 0).slot q = _
  rw [setDeliveries, slot_modifySlot, slot_cancel, setWork, slot_modifySlot, setKind, slot_modifySlot]
  split <;> rfl

theorem slot_resetAt : (t.resetAt p).slot q =
    if p = q then { Slot.powerOn with readers := (t.slot q).readers } else t.slot q := by
  rw [resetAt, setAction, slot_modifySlot, slot_clearAt]
  split <;> rfl

theorem isOutstanding_resetAt :
    (t.resetAt p).isOutstanding q = if p = q then false else t.isOutstanding q :=
  isOutstanding_acknowledge _ p q

theorem isFlagged_resetAt : (t.resetAt p).isFlagged q = if p = q then false else t.isFlagged q :=
  (t.setKind p .empty).isFlagged_cancel p q

theorem slot_bindAt : (t.bindAt p a).slot q =
    if p = q then { t.slot q with kind := a.kind, action := a } else t.slot q := by
  rw [bindAt, setKind, slot_modifySlot, setAction, slot_modifySlot, setKind, slot_modifySlot]
  split <;> rfl

/-- Resetting ports one by one resets those of the list and no others. -/
theorem slot_foldl_resetAt (ports : List Port) : (ports.foldl resetAt t).slot q =
    if q ∈ ports then { Slot.powerOn with readers := (t.slot q).readers } else t.slot q :=
  t.view_foldl q slot (fun s => { Slot.powerOn with readers := s.readers }) slot_resetAt
    (fun _ => rfl) ports

theorem bits_foldl_resetAt (ports : List Port) (hq : q ∈ ports) :
    (ports.foldl resetAt t).isOutstanding q = false ∧
      (ports.foldl resetAt t).isFlagged q = false := by
  have houtstanding := t.view_foldl q isOutstanding (fun _ => false) isOutstanding_resetAt
    (fun _ => rfl) ports
  have hflagged := t.view_foldl q isFlagged (fun _ => false) isFlagged_resetAt (fun _ => rfl) ports
  exact ⟨houtstanding.trans (if_pos hq), hflagged.trans (if_pos hq)⟩

/-- Without readers, a reset of all ports leaves nothing of what the table was. -/
theorem foldl_resetAt_all (h : ∀ p, (t.slot p).readers = 0) :
    Port.all.foldl resetAt t = powerOn := by
  apply ext_ports
  · intro p
    rw [slot_foldl_resetAt, if_pos p.mem_all, h, slot_powerOn]
    rfl
  · intro p
    rw [(t.bits_foldl_resetAt p Port.all p.mem_all).1, isOutstanding_powerOn]
  · intro p
    rw [(t.bits_foldl_resetAt p Port.all p.mem_all).2, isFlagged_powerOn]

end ActionTable

namespace Guest

variable {σ : Type}

variable {P : Platform σ} {lost : System σ → Prop} {K : σ → Prop} {c : Channels} {port : Port}

theorem held_replaceAction {action : Action} (hreaders : (c.table.slot port).readers = 0) :
    Leads lost (Held K c) (replaceAction P port action) fun result s =>
      result = .ok (c.table.slot port).action ∧
        Held K { c with table := c.table.setAction port action } s := by
  apply held_table
  dsimp only
  rw [if_pos hreaders]
  exact held_modifyTable.bind fun _ => .pure fun _ hs => ⟨rfl, hs⟩

theorem held_quiesce : Leads lost (Held K c) quiesce fun _ => Held K { c with
    interruptsMasked := true, page := c.page.modifyVcpus fun v => v.maskUpcall true } :=
  held_modifyChannels.bind fun _ => held_modifyPage

/-- A port is unmasked without an alert if it is not pending. -/
theorem held_unmask (hpending : c.page.isPending port = false) :
    Leads lost (Held K c) (unmask port) fun _ =>
      Held K { c with page := c.page.clearMask port.pageWord port.bit } := by
  apply (held_onPage (PageM.unmask_run c.page port)).discard.bind
  intro _
  apply held_channels
  have hclear : (c.page.clearMask port.pageWord port.bit).isPending port = false := hpending
  rw [hclear, if_neg Bool.false_ne_true]
  exact .pure fun _ => id

section Observed

variable (hseen : ∀ e c o, K o → K (P.observe e c o))

include hseen

theorem held_emit (e : Event) : Keeps lost (Held K c) (emit P e) :=
  Leads.emit fun _ _ hs => ⟨hs.channels, hseen _ _ _ hs.outside⟩

theorem held_cancel : Leads lost (Held K c) (cancel P port) fun _ =>
    Held K { c with table := (c.table.cancel port).2 } := by
  apply held_onTable_eq.bind
  intro found
  apply Leads.bind (Leads.of_pre (held_emit hseen _) fun s hs => hs.2)
  exact fun _ => .pure fun _ => id

/-- A reset of a port comes to the replacement of its action. -/
theorem held_resetSlot_of_replaceAction {replaced : Except ChannelError Action}
    {late : System σ → Prop}
    (hreplace : Leads lost (Held K { c with table := c.table.clearAt port })
      (replaceAction P port .empty) fun result s => result = replaced ∧ late s) :
    Leads lost (Held K c) (resetSlot P port) fun result s =>
      result = (replaced.map fun _ => ()) ∧ late s := by
  apply leads_resetSlot_of_replaceAction held_modifyTable (held_cancel hseen) held_modifyTable
    held_onTable (held_emit hseen _)
  apply hreplace.of_post
  rintro _ s ⟨rfl, hs⟩
  exact ⟨rfl, hs⟩

theorem held_resetSlot (hreaders : (c.table.slot port).readers = 0) :
    Leads lost (Held K c) (resetSlot P port) fun result s =>
      result = .ok () ∧ Held K { c with table := c.table.resetAt port } s := by
  have hfree : ((c.table.clearAt port).slot port).readers = 0 := by
    rw [ActionTable.slot_clearAt, if_pos rfl]
    exact hreaders
  exact held_resetSlot_of_replaceAction hseen (held_replaceAction hfree)

theorem held_resetSlots (ports : List Port) (hreaders : ∀ p, (c.table.slot p).readers = 0) :
    Leads lost (Held K c) (resetSlots P ports) fun result s =>
      result = .ok () ∧ Held K { c with table := ports.foldl ActionTable.resetAt c.table } s := by
  induction ports generalizing c with
  | nil => exact .pure fun _ hs => ⟨rfl, hs⟩
  | cons port ports ih =>
    have hreaders' (p : Port) : ((c.table.resetAt port).slot p).readers = 0 := by
      rw [ActionTable.slot_resetAt]
      split <;> exact hreaders p
    exact (held_resetSlot hseen (hreaders port)).bind_of_eq (ih hreaders')

theorem held_resetTable (hreaders : ∀ p, (c.table.slot p).readers = 0) :
    Leads lost (Held K c) (resetTable P) fun result s =>
      result = .ok () ∧ Held K { c with table := .powerOn } s := by
  have hreset : Leads lost (Held K c) (resetTable P) fun result s => result = .ok () ∧
      Held K { c with table := Port.all.foldl ActionTable.resetAt c.table } s :=
    held_resetSlots hseen Port.all hreaders
  rw [c.table.foldl_resetAt_all hreaders] at hreset
  exact hreset

theorem held_discardPending : Leads lost (Held K c) (discardPending P) fun _ => Held K { c with
    page := c.page.clearPendingAll.modifyVcpus fun v => v.reset.maskUpcall true } := by
  apply held_channels
  apply held_modifyPage.bind
  intro _
  exact Leads.bind (held_emit hseen _) fun _ => held_modifyPage

theorem held_publish (hreaders : (c.table.slot port).readers = 0) (action : Action) :
    Leads lost (Held K c) (publish P port action) fun result s =>
      result = .ok () ∧ Held K { c with table := c.table.bindAt port action } s := by
  have hfree : ((c.table.setKind port .empty).slot port).readers = 0 := by
    rw [ActionTable.setKind, ActionTable.slot_modifySlot_self]
    exact hreaders
  have hpublish : Leads lost (Held K { c with
        table := (c.table.setKind port .empty).setAction port action }) (do
      modifyTable fun t => t.setKind port action.kind
      emit P (.published port action)
      return Except.ok () : Guest σ (Except ChannelError Unit)) fun result s =>
      result = .ok () ∧ Held K { c with table := c.table.bindAt port action } s :=
    held_modifyTable.bind fun _ => Leads.bind (held_emit hseen _) fun _ => .pure fun _ hs => ⟨rfl, hs⟩
  apply held_table
  apply held_modifyTable.bind
  intro _
  apply Leads.guarded (fun _ => held_emit hseen _) (fun _ _ => id)
  intro _
  exact (held_replaceAction hfree).bind_of_eq hpublish

theorem held_attach (hreaders : (c.table.slot port).readers = 0)
    (hpending : c.page.isPending port = false) (action : Action) :
    Leads lost (Held K c) (attach P port action) fun result s => result = .ok () ∧
      Held K { c with
        table := c.table.bindAt port action
        page := c.page.clearMask port.pageWord port.bit } s := by
  have hunmask : Leads lost (Held K { c with table := c.table.bindAt port action }) (unmask port)
      fun _ => Held K { c with
        table := c.table.bindAt port action
        page := c.page.clearMask port.pageWord port.bit } := held_unmask hpending
  apply (held_publish hseen hreaders action).bind_of_eq
  apply hunmask.bind
  intro _
  exact Leads.bind (held_emit hseen _) fun _ => .pure fun _ hs => ⟨rfl, hs⟩

end Observed

end Guest

end EventChannel
