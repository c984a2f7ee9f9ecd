import EventChannel.Guest.Binding
import EventChannel.Proofs.ActionTable
import EventChannel.Proofs.Assertion

namespace EventChannel

/-- Whether a call starts a handler from a scanner pass or from a deferred run. -/
def Request.startsHandler : Request → Bool
  | .handle .inline _ _ | .handle .deferred _ _ => true
  | .handle .direct _ _ | .hypercall _ | .setParam _ _ | .connect _ | .disconnect _
  | .queueDeferred | .flushDeferred => false

/-- Whether a call hands the interrupt line over or takes it back. -/
def Request.concernsLine : Request → Bool
  | .connect _ | .disconnect _ => true
  | _ => false

/-- Whether a call asks the host for a deferred run. -/
def Request.asksForRun : Request → Bool
  | .queueDeferred => true
  | _ => false

theorem Request.startsHandler_of_line {r : Request} (h : r.concernsLine = true) :
    r.startsHandler = false := by
  cases r with
  | connect | disconnect => rfl
  | _ => cases h

theorem Request.asksForRun_of_line {r : Request} (h : r.concernsLine = true) :
    r.asksForRun = false := by
  cases r with
  | connect | disconnect => rfl
  | _ => cases h

/-- Whether a notice is a remark that no account of events and bindings relies on. -/
def Notice.isRemark : Notice → Bool
  | .delivering .. | .actionDropped .. => false
  | _ => true

namespace Guest

variable {σ : Type} {P : Platform σ} {lost J : System σ → Prop} {port : Port} {action : Action}

def KeepsRemarks (P : Platform σ) (lost J : System σ → Prop) : Prop :=
  ∀ n, n.isRemark = true → Keeps lost J (note P n)

/-- Remarks keep an assertion, and so do calls that neither start a handler, ask for a deferred run
nor concern the interrupt line. -/
structure Stable (P : Platform σ) (lost J : System σ → Prop) : Prop where
  call : ∀ r, r.startsHandler = false → r.concernsLine = false → r.asksForRun = false →
    Keeps lost J (Guest.call P r)
  note : KeepsRemarks P lost J

theorem leads_enqueue {pre : System σ → Prop}
    (hwork : Leads lost pre (onTable fun t => t.enqueue port) fun _ => J)
    (hseen : ∀ kind, Keeps lost J (emit P (.workQueued port kind))) :
    Leads lost pre (enqueue P port) fun _ => J := by
  apply hwork.bind
  intro fresh
  cases fresh with
  | false => exact .pure fun _ => id
  | true =>
    exact Leads.bind Keeps.table fun _ => Leads.bind (hseen _) fun _ => .pure fun _ => id

theorem keeps_enqueue (hwork : Keeps lost J (onTable fun t => t.enqueue port))
    (hseen : ∀ kind, Keeps lost J (emit P (.workQueued port kind))) :
    Keeps lost J (enqueue P port) := leads_enqueue hwork hseen

theorem keeps_cancel (hwork : Keeps lost J (onTable fun t => t.cancel port))
    (hseen : ∀ found, Keeps lost J (emit P (.workCancelled port found))) :
    Keeps lost J (cancel P port) :=
  hwork.bind fun found => (hseen found).bind fun _ => .pure _

theorem keeps_cancelEach (h : ∀ port, Keeps lost J (cancel P port)) (ports : List Port) :
    Keeps lost J (cancelEach P ports) := by
  induction ports with
  | nil => exact .pure _
  | cons port ports ih => exact (h port).bind fun _ => ih.bind fun _ => .pure _

theorem keeps_cancelAll (h : ∀ port, Keeps lost J (cancel P port)) :
    Keeps lost J (cancelAll P) := keeps_cancelEach h _

/-- Nothing is queued on ports beyond the list. -/
def QueuedAmong (ports : List Port) (s : System σ) : Prop :=
  ∀ port, s.channels.table.isQueued port = true → port ∈ ports

theorem queuedAmong_emit {ports : List Port} {e : Event} :
    Keeps lost (QueuedAmong ports) (emit P e) := Leads.emit fun _ _ hs => hs

theorem queuedAmong_cancel (port : Port) (ports : List Port) :
    Leads lost (QueuedAmong (port :: ports)) (cancel P port) fun _ => QueuedAmong ports := by
  have hwork : Leads lost (QueuedAmong (port :: ports)) (onTable fun t => t.cancel port)
      fun _ => QueuedAmong ports := by
    apply Leads.onTable
    intro c o hqueued q hq
    change (c.table.cancel port).2.isQueued q = true at hq
    rw [ActionTable.isQueued_cancel] at hq
    split at hq
    · cases hq
    next hne => exact (List.mem_cons.1 (hqueued q hq)).resolve_left fun he => hne he.symm
  exact hwork.bind fun _ => Leads.bind queuedAmong_emit fun _ => .pure fun _ => id

theorem leads_cancelEach (h : ∀ port, Keeps lost J (cancel P port)) (ports : List Port) :
    Leads lost (fun s => J s ∧ QueuedAmong ports s) (cancelEach P ports) fun _ s =>
      J s ∧ QueuedAmong [] s := by
  induction ports with
  | nil => exact .pure fun _ => id
  | cons port ports ih =>
    have hport : Leads lost (fun s => J s ∧ QueuedAmong (port :: ports) s) (cancel P port)
        fun _ s => J s ∧ QueuedAmong ports s :=
      Leads.and (Leads.of_pre (h port) fun _ hs => hs.1)
        ((queuedAmong_cancel port ports).of_pre fun _ hs => hs.2)
    exact hport.bind fun _ => ih.bind fun _ => .pure fun _ => id

/-- Whatever was queued before, nothing is afterwards. -/
theorem leads_cancelAll (h : ∀ port, Keeps lost J (cancel P port)) :
    Leads lost J (cancelAll P) fun _ s => J s ∧ QueuedAmong [] s :=
  (leads_cancelEach h Port.all).of_pre fun _ hs => ⟨hs, fun port _ => port.mem_all⟩

theorem keeps_renew (hmark : Keeps lost J (onTable fun t => t.setOutstanding port))
    (henqueue : Keeps lost J (enqueue P port)) : Keeps lost J (renew P port) :=
  hmark.discard.bind fun _ => henqueue

/-- A broadcast renews the ports that it finds published as legacy interrupts. -/
theorem keeps_broadcastTo_of_irq (h : ∀ port, Leads lost
      (fun s => J s ∧ s.channels.table.kind port = .deferredHardwareIrq) (renew P port) fun _ => J)
    (ports : List Port) : Keeps lost J (broadcastTo P ports) := by
  induction ports with
  | nil => exact .pure _
  | cons port ports ih =>
    apply Leads.table.bind
    intro t
    split
    next hkind =>
      have hport : Leads lost (fun s => J s ∧ s.channels.table = t) (renew P port) fun _ => J :=
        (h port).of_pre fun _ hs => ⟨hs.1, hs.2 ▸ hkind⟩
      exact hport.bind fun _ => ih.bind fun _ => .pure _
    next => exact Leads.of_pre ih fun _ hs => hs.1

theorem keeps_broadcast (h : ∀ port, Keeps lost J (renew P port)) :
    Keeps lost J (broadcast P) :=
  keeps_broadcastTo_of_irq (fun port => Leads.of_pre (h port) fun _ hs => hs.1) _

/-- A refusal leaves everything as it was, but for a remark. -/
theorem leads_replaceAction {post : System σ → Prop}
    (hnote : Keeps lost J (note P (.slotStayedLocked port)))
    (haction : Leads lost J (modifyTable fun t => t.setAction port action) fun _ => post) :
    Leads lost J (replaceAction P port action) fun replaced s =>
      match replaced with
      | .ok _ => post s
      | .error _ => J s := by
  apply Leads.bind Keeps.table
  intro t
  dsimp only
  split
  · exact haction.bind fun _ => .pure fun _ => id
  · exact Leads.bind hnote fun _ => .pure fun _ => id

theorem keeps_replaceAction (hnote : KeepsRemarks P lost J)
    (haction : Keeps lost J (modifyTable fun t => t.setAction port action)) :
    Keeps lost J (replaceAction P port action) := by
  apply (leads_replaceAction (hnote _ rfl) haction).of_post
  rintro (e | old) s hs <;> exact hs

theorem leads_replaceAction_refusal {pre : System σ → Prop} :
    Leads lost pre (replaceAction P port action) fun replaced _ =>
      ∀ e, replaced = .error e → e = .slotBusy port := by
  have hwrite : Leads lost pre (modifyTable fun t => t.setAction port action) fun _ _ => True :=
    Leads.modifyTable fun _ _ _ => trivial
  have hnote : Leads lost pre (note P (.slotStayedLocked port)) fun _ _ => True :=
    Leads.emit fun _ _ _ => trivial
  apply Leads.bind Keeps.table
  intro t
  dsimp only
  split
  · exact hwrite.bind fun _ => .pure fun _ _ _ => nofun
  · exact hnote.bind fun _ => .pure fun _ _ _ he => (Except.error.inj he).symm

theorem keeps_restoreKind {kind : Kind}
    (hkind : Keeps lost J (modifyTable fun t => t.setKind port kind)) :
    Keeps lost J (restoreKind port kind) := by
  apply Leads.modifyTable
  intro c o hs
  by_cases he : c.table.kind port = .empty
  · simp only [he, if_true]
    exact hkind.run ⟨c, o⟩ hs
  · simp only [he, if_false]
    exact hs

/-- A publication may change the assertion with each of its steps, and the kind that the port had
before with it. A refusal ends with that kind back in place. -/
theorem leads_publish_of_replaceAction {pre : System σ → Prop}
    (vacant : Kind → System σ → Prop) {unannounced : Kind → System σ → Prop}
    {replaced : Kind → Except ChannelError Action → System σ → Prop}
    {post : Except ChannelError Unit → System σ → Prop}
    (hvacate : ∀ t, Leads lost (fun s => pre s ∧ s.channels.table = t)
      (modifyTable fun t => t.setKind port .empty) fun _ => vacant (t.kind port))
    (hnote : ∀ former, Keeps lost (vacant former) (note P (.replacing port former)))
    (hreplace : ∀ former, Leads lost (vacant former) (replaceAction P port action) (replaced former))
    (hrestore : ∀ former e, Leads lost (replaced former (.error e)) (restoreKind port former)
      fun _ => post (.error e))
    (hkind : ∀ former old, Leads lost (replaced former (.ok old))
      (modifyTable fun t => t.setKind port action.kind) fun _ => unannounced former)
    (hseen : ∀ former, Leads lost (unannounced former) (emit P (.published port action))
      fun _ => post (.ok ())) : Leads lost pre (publish P port action) post := by
  apply Leads.table.bind
  intro t
  apply (hvacate t).bind
  intro _
  apply Leads.guarded (fun _ => hnote _) fun _ _ => id
  intro _
  apply (hreplace _).bind
  intro result
  cases result with
  | error e => exact (hrestore _ e).bind fun _ => .pure fun _ => id
  | ok old => exact (hkind _ old).bind fun _ => (hseen _).bind fun _ => .pure fun _ => id

theorem keeps_publish (hnote : KeepsRemarks P lost J)
    (hkind : ∀ kind, Keeps lost J (modifyTable fun t => t.setKind port kind))
    (haction : Keeps lost J (modifyTable fun t => t.setAction port action))
    (hseen : Keeps lost J (emit P (.published port action))) :
    Keeps lost J (publish P port action) :=
  leads_publish_of_replaceAction (fun _ => J) (fun _ => Leads.of_pre (hkind _) fun _ hs => hs.1)
    (fun _ => hnote _ rfl) (fun _ => keeps_replaceAction hnote haction)
    (fun _ _ => keeps_restoreKind (hkind _)) (fun _ _ => hkind _) fun _ => hseen

/-- A drop tells of the action once it is gone. -/
theorem leads_dropAction_of_replaceAction {pre : System σ → Prop}
    {replaced : Except ChannelError Action → System σ → Prop}
    {post : Except ChannelError Unit → System σ → Prop}
    (hreplace : Leads lost pre (replaceAction P port .empty) replaced)
    (hrefused : ∀ e s, replaced (.error e) s → post (.error e) s)
    (hseen : ∀ kind old, Leads lost (replaced (.ok old)) (note P (.actionDropped port kind old))
      fun _ => post (.ok ())) : Leads lost pre (dropAction P port) post := by
  apply Leads.bind Keeps.table
  intro t
  apply hreplace.bind
  intro result
  cases result with
  | error e => exact .pure (hrefused e)
  | ok old => exact (hseen _ old).bind fun _ => .pure fun _ => id

theorem keeps_dropAction (hnote : KeepsRemarks P lost J)
    (haction : Keeps lost J (modifyTable fun t => t.setAction port .empty))
    (hseen : ∀ kind old, Keeps lost J (note P (.actionDropped port kind old))) :
    Keeps lost J (dropAction P port) :=
  leads_dropAction_of_replaceAction (keeps_replaceAction hnote haction) (fun _ _ => id) hseen

/-- A reset may change the assertion with each of its steps, and ends as the replacement of the action
does. -/
theorem leads_resetSlot_of_replaceAction
    {pre unpublished cancelled counted acknowledged told : System σ → Prop}
    {post : Except ChannelError Unit → System σ → Prop}
    (hkind : Leads lost pre (modifyTable fun t => t.setKind port .empty) fun _ => unpublished)
    (hcancel : Leads lost unpublished (cancel P port) fun _ => cancelled)
    (hcount : Leads lost cancelled (modifyTable fun t => t.setDeliveries port 0) fun _ => counted)
    (hack : Leads lost counted (onTable fun t => t.acknowledge port) fun _ => acknowledged)
    (hseen : Leads lost acknowledged (emit P (.slotReset port)) fun _ => told)
    (hreplace : Leads lost told (replaceAction P port .empty) fun replaced =>
      post (replaced.map fun _ => ())) : Leads lost pre (resetSlot P port) post := by
  apply hkind.bind
  intro _
  apply hcancel.discard.bind
  intro _
  apply hcount.bind
  intro _
  apply hack.discard.bind
  intro _
  apply hseen.bind
  intro _
  apply hreplace.bind
  intro replaced
  cases replaced with
  | error e => exact .pure fun _ => id
  | ok old => exact .pure fun _ => id

theorem leads_resetSlot {pre unpublished cancelled counted : System σ → Prop}
    (hkind : Leads lost pre (modifyTable fun t => t.setKind port .empty) fun _ => unpublished)
    (hcancel : Leads lost unpublished (cancel P port) fun _ => cancelled)
    (hcount : Leads lost cancelled (modifyTable fun t => t.setDeliveries port 0) fun _ => counted)
    (hack : Keeps lost counted (onTable fun t => t.acknowledge port))
    (hseen : Leads lost counted (emit P (.slotReset port)) fun _ => J)
    (hnote : KeepsRemarks P lost J)
    (haction : Keeps lost J (modifyTable fun t => t.setAction port .empty)) :
    Leads lost pre (resetSlot P port) fun _ => J :=
  leads_resetSlot_of_replaceAction hkind hcancel hcount hack hseen (keeps_replaceAction hnote haction)

theorem keeps_resetSlot (hnote : KeepsRemarks P lost J)
    (hkind : Keeps lost J (modifyTable fun t => t.setKind port .empty))
    (hcancel : Keeps lost J (cancel P port))
    (hcount : Keeps lost J (modifyTable fun t => t.setDeliveries port 0))
    (hack : Keeps lost J (onTable fun t => t.acknowledge port))
    (hseen : Keeps lost J (emit P (.slotReset port)))
    (haction : Keeps lost J (modifyTable fun t => t.setAction port .empty)) :
    Keeps lost J (resetSlot P port) :=
  leads_resetSlot hkind hcancel hcount hack hseen hnote haction

theorem keeps_resetSlots (h : ∀ port, Keeps lost J (resetSlot P port)) (ports : List Port) :
    Keeps lost J (resetSlots P ports) := by
  induction ports with
  | nil => exact .pure _
  | cons port ports ih =>
    apply (h port).bind
    intro reset
    cases reset with
    | error e => exact .pure _
    | ok _ => exact ih

theorem keeps_resetTable (h : ∀ port, Keeps lost J (resetSlot P port)) :
    Keeps lost J (resetTable P) := keeps_resetSlots h _

/-- A binding is refused as its publication is. -/
theorem leads_attach_of_publish {pre unmasked : System σ → Prop}
    {published post : Except ChannelError Unit → System σ → Prop}
    (hpublish : Leads lost pre (publish P port action) published)
    (hrefused : ∀ e s, published (.error e) s → post (.error e) s)
    (hunmask : Leads lost (published (.ok ())) (unmask port) fun _ => unmasked)
    (hnote : Leads lost unmasked (note P (.portBound port action.kind)) fun _ => post (.ok ())) :
    Leads lost pre (attach P port action) post := by
  apply hpublish.bind
  intro result
  cases result with
  | error e => exact .pure (hrefused e)
  | ok _ => exact hunmask.bind fun _ => hnote.bind fun _ => .pure fun _ => id

theorem keeps_attach (hnote : KeepsRemarks P lost J)
    (hpublish : Keeps lost J (publish P port action)) (hunmask : Keeps lost J (unmask port)) :
    Keeps lost J (attach P port action) :=
  leads_attach_of_publish hpublish (fun _ _ => id) hunmask (hnote _ rfl)

theorem leads_upcallVcpu {sound : Nat → Prop}
    (hsound : ∀ s, J s → sound s.channels.config.upcallVcpu) :
    Leads lost J Guest.config fun config s => J s ∧ sound config.upcallVcpu := by
  apply Leads.config.of_post
  intro config s hs
  obtain ⟨hs, rfl⟩ := hs
  exact ⟨hs, hsound s hs⟩

theorem keeps_unmask (sound : Nat → Prop) (hsound : ∀ s, J s → sound s.channels.config.upcallVcpu)
    (hunmask : Keeps lost J (onPage (PageM.unmask port)))
    (halert : ∀ vcpu, sound vcpu → Keeps lost J (onPage (PageM.alert port vcpu))) :
    Keeps lost J (unmask port) := by
  apply hunmask.discard.bind
  intro _
  apply Keeps.channels.bind
  intro c
  split
  · apply (leads_upcallVcpu hsound).bind
    intro config
    exact Leads.assume fun hvcpu => halert _ hvcpu
  · exact .pure _

theorem keeps_unbind (hnote : KeepsRemarks P lost J) (hmask : Keeps lost J (mask port))
    (hdrop : Keeps lost J (dropAction P port)) (hcancel : Keeps lost J (cancel P port)) :
    Keeps lost J (unbind P port) := by
  apply hmask.bind
  intro _
  apply hdrop.bind
  intro cleared
  apply hcancel.bind
  intro found
  exact Keeps.guarded (hnote _ rfl) fun _ => .pure _

end Guest

end EventChannel
