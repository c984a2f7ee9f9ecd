import EventChannel.Proofs.Keeping.Lifecycle

namespace EventChannel

open Guest

variable {σ : Type} {P : Platform σ} {lost J : System σ → Prop}

/-- Whether an operation brings the event channels up or down. -/
def ChannelOperation.isLifecycle : ChannelOperation → Bool
  | .init | .resume | .suspend | .shutdown => true
  | _ => false

/-- Whether an operation hands the interrupt line over or takes it back. -/
def ChannelOperation.concernsLine : ChannelOperation → Bool
  | .connect | .disconnect => true
  | _ => false

/-- The functions behind the operations on the event channels keep an assertion, up to bringing
them up and down, the interrupt line, the passes and acknowledging a port. -/
structure ChannelOperation.Parts (P : Platform σ) (lost J : System σ → Prop) : Prop where
  stable : Stable P lost J
  publish : ∀ port action, Keeps lost J (Guest.publish P port action)
  dropAction : ∀ port, Keeps lost J (Guest.dropAction P port)
  cancel : ∀ port, Keeps lost J (Guest.cancel P port)
  mask : ∀ port, Keeps lost J (Guest.mask port)
  unmask : ∀ port, Keeps lost J (Guest.unmask port)

theorem ChannelOperation.Parts.lifecycle (h : Parts P lost J)
    (hinit : Keeps lost J (Guest.init P)) (hquiesce : Keeps lost J (quiesce : Guest σ Unit))
    (hport : ∀ port, Keeps lost J (setSuspendPort port)) {op : ChannelOperation}
    (hop : op.isLifecycle = true) : Keeps lost J (op.run P) := by
  have hempty : Keeps lost J (emptyQueue P) := keeps_emptyQueue h.stable h.cancel hport
  have hsuspend : Keeps lost J (Guest.suspend P) := leads_suspend hquiesce hempty h.stable.note
  have hshutdown : Keeps lost J (Guest.shutdown P) :=
    leads_shutdown h.stable hquiesce hempty h.stable.note
  cases op with
  | init => exact hinit.bind fun _ => .pure _
  | resume =>
    have hresume : Keeps lost J (Guest.resume P) := (h.stable.note _ rfl).bind fun _ => hinit
    exact hresume.bind fun _ => .pure _
  | suspend => exact hsuspend.bind fun _ => .pure _
  | shutdown => exact hshutdown.bind fun _ => .pure _
  | _ => cases hop

theorem ChannelOperation.keeps_line (h : Stable P lost J)
    (hcall : ∀ r, r.concernsLine = true → Keeps lost J (call P r))
    (hconnected : ∀ connected, Keeps lost J (setConnected connected)) {op : ChannelOperation}
    (hop : op.concernsLine = true) : Keeps lost J (op.run P) := by
  cases op with
  | connect => exact (keeps_connectLine h hcall hconnected).bind fun _ => .pure _
  | disconnect => exact (keeps_disconnectLine h hcall hconnected).bind fun _ => .pure _
  | _ => cases hop

/-- Whether an operation binds a port or takes its binding back. -/
def ChannelOperation.rebinds : ChannelOperation → Bool
  | .bindInline .. | .bindDeferred .. | .bindIrq .. | .unbind _ => true
  | _ => false

theorem ChannelOperation.keeps_run (h : Stable P lost J) {op : ChannelOperation}
    (hbinding : op.rebinds = true → Keeps lost J (op.run P))
    (hmask : ∀ port, Keeps lost J (Guest.mask port))
    (hunmask : ∀ port, Keeps lost J (Guest.unmask port))
    (hlifecycle : op.isLifecycle = true → Keeps lost J (op.run P))
    (hline : op.concernsLine = true → Keeps lost J (op.run P))
    (hscan : op = .scannerPass → Keeps lost J (Guest.scannerPass P))
    (hdeferred : op = .deferredPass → Keeps lost J (Guest.deferredPass P))
    (hack : ∀ port, op = .acknowledge port → Keeps lost J (Guest.acknowledge port)) :
    Keeps lost J (op.run P) := by
  cases op with
  | init | resume | suspend | shutdown => exact hlifecycle rfl
  | connect | disconnect => exact hline rfl
  | bindInline | bindDeferred | bindIrq | unbind => exact hbinding rfl
  | mask port => exact (hmask port).bind fun _ => .pure _
  | unmask port => exact (hunmask port).bind fun _ => .pure _
  | signal port => exact (keeps_signal h).bind fun _ => .pure _
  | close port => exact (keeps_giveBack h _).bind fun _ => .pure _
  | allocUnbound remote => exact (keeps_allocate h _).bind fun _ => .pure _
  | allocIpi vcpu => exact (keeps_allocate h _).bind fun _ => .pure _
  | scannerPass => exact (hscan rfl).bind fun _ => .pure _
  | deferredPass => exact (hdeferred rfl).bind fun _ => .pure _
  | acknowledge port => exact (hack port rfl).bind fun _ => .pure _
  | isOutstanding port => exact Keeps.table.bind fun _ => .pure _
  | portSnapshot port =>
    have hread : Keeps lost J (Guest.portSnapshot port) := Keeps.channels.bind fun _ => .pure _
    exact hread.bind fun _ => .pure _
  | status =>
    have hread : Keeps lost J (Guest.status : Guest σ Status) :=
      Keeps.channels.bind fun _ => .pure _
    exact hread.bind fun _ => .pure _

theorem ChannelOperation.Parts.rebinding (h : Parts P lost J) {op : ChannelOperation}
    (hop : op.rebinds = true) : Keeps lost J (op.run P) := by
  have hattach (port : Port) (action : Action) : Keeps lost J (attach P port action) :=
    keeps_attach h.stable.note (h.publish port action) (h.unmask port)
  cases op with
  | bindInline port handler => exact (hattach port _).bind fun _ => .pure _
  | bindDeferred port handler => exact (hattach port _).bind fun _ => .pure _
  | bindIrq port vector description handler => exact (hattach port _).bind fun _ => .pure _
  | unbind port =>
    exact (keeps_unbind h.stable.note (h.mask port) (h.dropAction port) (h.cancel port)).bind fun _ =>
      .pure _
  | _ => cases hop

theorem ChannelOperation.Parts.run (h : Parts P lost J) {op : ChannelOperation}
    (hlifecycle : op.isLifecycle = true → Keeps lost J (op.run P))
    (hline : op.concernsLine = true → Keeps lost J (op.run P))
    (hscan : op = .scannerPass → Keeps lost J (Guest.scannerPass P))
    (hdeferred : op = .deferredPass → Keeps lost J (Guest.deferredPass P))
    (hack : ∀ port, op = .acknowledge port → Keeps lost J (Guest.acknowledge port)) :
    Keeps lost J (op.run P) :=
  keeps_run h.stable h.rebinding h.mask h.unmask hlifecycle hline hscan hdeferred hack

/-- Whether an operation queues work items or runs those that are queued. -/
def TableOperation.movesWork : TableOperation → Bool
  | .enqueue _ | .broadcast | .runWordAt _ => true
  | _ => false

/-- Whether an operation takes or releases a reader of an action. -/
def TableOperation.movesReader : TableOperation → Bool
  | .takeReader _ | .releaseReader _ => true
  | _ => false

/-- The functions behind the operations on the action table keep an assertion, up to moving work and
readers, to counting a delivery that did not take place and to acknowledging a port. -/
structure TableOperation.Parts (P : Platform σ) (lost J : System σ → Prop) : Prop where
  stable : Stable P lost J
  publish : ∀ port action, Keeps lost J (Guest.publish P port action)
  dropAction : ∀ port, Keeps lost J (Guest.dropAction P port)
  resetSlot : ∀ port, Keeps lost J (Guest.resetSlot P port)
  cancel : ∀ port, Keeps lost J (Guest.cancel P port)
  setOutstanding : ∀ port, Keeps lost J (onTable fun t => t.setOutstanding port)

theorem TableOperation.keeps_takeReader {port : Port}
    (hset : ∀ n, Keeps lost J (modifyTable fun t => t.setReaders port n))
    (hseen : Keeps lost J (emit P (.readerTaken port))) :
    Keeps lost J ((TableOperation.takeReader port).run P) := by
  have htake : Keeps lost J (modifyTable fun t => t.takeReader port) :=
    Leads.modifyTable fun c o hs => (hset _).run ⟨c, o⟩ hs
  exact htake.bind fun _ => hseen.bind fun _ => .pure _

theorem TableOperation.keeps_releaseReader {port : Port}
    (hset : ∀ n, Keeps lost J (modifyTable fun t => t.setReaders port n))
    (hseen : Keeps lost J (emit P (.readerReleased port))) :
    Keeps lost J ((TableOperation.releaseReader port).run P) := by
  refine Leads.bind Leads.table fun t => ?_
  split
  · exact .pure fun _ hs => hs.1
  next details t' ht =>
    have hwrite : Leads lost (fun s => J s ∧ s.channels.table = t) (modifyTable fun _ => t')
        fun _ => J := by
      apply Leads.modifyTable
      intro c o hs
      obtain ⟨hs, rfl⟩ := hs
      obtain ⟨n, -, -, rfl⟩ := ActionTable.releaseReader?_eq_some ht
      exact (hset _).run ⟨c, o⟩ hs
    exact hwrite.bind fun _ => hseen.bind fun _ => .pure _

theorem TableOperation.keeps_moveReader
    (hset : ∀ port n, Keeps lost J (modifyTable fun t => t.setReaders port n))
    (htaken : ∀ port, Keeps lost J (emit P (.readerTaken port)))
    (hreleased : ∀ port, Keeps lost J (emit P (.readerReleased port))) {op : TableOperation}
    (hop : op.movesReader = true) : Keeps lost J (op.run P) := by
  cases op with
  | takeReader port => exact keeps_takeReader (hset port) (htaken port)
  | releaseReader port => exact keeps_releaseReader (hset port) (hreleased port)
  | _ => cases hop

theorem TableOperation.keeps_moveWork (henqueue : ∀ port, Keeps lost J (Guest.enqueue P port))
    (hmark : ∀ port, Keeps lost J (onTable fun t => t.setOutstanding port))
    (hword : ∀ word, Keeps lost J (Guest.runWordAt P word)) {op : TableOperation}
    (hop : op.movesWork = true) : Keeps lost J (op.run P) := by
  cases op with
  | enqueue port => exact (henqueue port).bind fun _ => .pure _
  | broadcast =>
    have hbroadcast : Keeps lost J (Guest.broadcast P) :=
      keeps_broadcast fun port => keeps_renew (hmark port) (henqueue port)
    exact hbroadcast.bind fun _ => .pure _
  | runWordAt word => exact (hword word).bind fun _ => .pure _
  | _ => cases hop

/-- Whether an operation binds a port, takes a binding back or takes work off the queue. -/
def TableOperation.writesSlot : TableOperation → Bool
  | .publish .. | .dropAction _ | .resetSlot _ | .reset | .cancel _ | .cancelAll => true
  | _ => false

theorem TableOperation.keeps_run (h : Stable P lost J) {op : TableOperation}
    (hslot : op.writesSlot = true → Keeps lost J (op.run P))
    (hwork : op.movesWork = true → Keeps lost J (op.run P))
    (hreader : op.movesReader = true → Keeps lost J (op.run P))
    (hmark : ∀ port, Keeps lost J (onTable fun t => t.setOutstanding port))
    (hcount : ∀ port, op = .countDelivery port →
      Keeps lost J (onTable fun t => t.countDelivery port))
    (hack : ∀ port, op = .acknowledge port → Keeps lost J (Guest.acknowledge port)) :
    Keeps lost J (op.run P) := by
  cases op with
  | publish | dropAction | resetSlot | reset | cancel | cancelAll => exact hslot rfl
  | enqueue | broadcast | runWordAt => exact hwork rfl
  | takeReader | releaseReader => exact hreader rfl
  | kind port => exact Keeps.table.bind fun _ => .pure _
  | callHandler port expected =>
    apply Keeps.table.bind
    intro t
    split
    · exact (h.call (.handle .direct _ _) rfl rfl rfl).bind fun _ => .pure _
    · exact .pure _
  | irqDetails port => exact Keeps.table.bind fun _ => .pure _
  | isQueued port => exact Keeps.table.bind fun _ => .pure _
  | setOutstanding port => exact (hmark port).bind fun _ => .pure _
  | acknowledge port => exact (hack port rfl).bind fun _ => .pure _
  | isOutstanding port => exact Keeps.table.bind fun _ => .pure _
  | countDelivery port => exact (hcount port rfl).bind fun _ => .pure _
  | deliveries port => exact Keeps.table.bind fun _ => .pure _

theorem TableOperation.Parts.slot (h : Parts P lost J) {op : TableOperation}
    (hop : op.writesSlot = true) : Keeps lost J (op.run P) := by
  cases op with
  | publish port action => exact (h.publish port action).bind fun _ => .pure _
  | dropAction port => exact (h.dropAction port).bind fun _ => .pure _
  | resetSlot port => exact (h.resetSlot port).bind fun _ => .pure _
  | reset => exact (keeps_resetTable h.resetSlot).bind fun _ => .pure _
  | cancel port => exact (h.cancel port).bind fun _ => .pure _
  | cancelAll => exact (keeps_cancelAll h.cancel).bind fun _ => .pure _
  | _ => cases hop

theorem TableOperation.Parts.run (h : Parts P lost J) {op : TableOperation}
    (hwork : op.movesWork = true → Keeps lost J (op.run P))
    (hreader : op.movesReader = true → Keeps lost J (op.run P))
    (hcount : ∀ port, op = .countDelivery port →
      Keeps lost J (onTable fun t => t.countDelivery port))
    (hack : ∀ port, op = .acknowledge port → Keeps lost J (Guest.acknowledge port)) :
    Keeps lost J (op.run P) :=
  keeps_run h.stable h.slot hwork hreader h.setOutstanding hcount hack

/-- An assertion that the shared page has no part in, and that accounts of the page keep. -/
structure PageIndifferent (P : Platform σ) (lost J : System σ → Prop) : Prop where
  page : ∀ {α : Type} (m : PageM α), Keeps lost J (onPage m)
  modifyPage : ∀ f, Keeps lost J (modifyPage f)
  raised : ∀ word bit, Keeps lost J (emit P (.raised word bit))
  discarded : ∀ word bit, Keeps lost J (emit P (.discarded word bit))
  pendingDropped : ∀ pending, Keeps lost J (emit P (.pendingDropped pending))

theorem PageOperation.keeps_emitIf {happened : Bool} {word : Nat} {event : Fin 64 → Event}
    (h : ∀ word, Keeps lost J (emit P (event word))) :
    Keeps lost J (emitIf P happened word event) := by
  rw [emitIf]
  split
  · exact h _
  · exact .pure _

/-- A predicate holds of the computations on the page that an operation makes. -/
def PageOperation.Makes (K : ∀ {α : Type}, PageM α → Prop) : PageOperation → Prop
  | mask port => K (PageM.mask port)
  | unmask port => K (PageM.unmask port)
  | clear port => K (PageM.clear port)
  | unmaskAt word bit => K (PageM.unmaskAt word bit)
  | clearAt word bit => K (PageM.clearAt word bit)
  | ready word => K (PageM.ready word)
  | alert port vcpu => K (PageM.alert port vcpu)
  | raise port vcpu => K (PageM.raise port vcpu)
  | raiseAt word bit vcpu => K (PageM.raiseAt word bit vcpu)
  | isMasked _ | isPending _ | maskAll | clearAll => True

theorem PageOperation.keeps_run {op : PageOperation}
    (hpage : op.Makes fun m => Keeps lost J (onPage m))
    (hmaskAll : Keeps lost J (modifyPage fun s => s.maskAll))
    (hclearAll : Keeps lost J (modifyPage fun s => s.clearPendingAll))
    (hseen : ∀ word bit, Keeps lost J (emit P (.raised word bit)) ∧
      Keeps lost J (emit P (.discarded word bit)))
    (hdropped : ∀ pending, Keeps lost J (emit P (.pendingDropped pending))) :
    Keeps lost J (op.run P) := by
  have hdiscarded (word : Nat) (bit : Fin 64) (happened : Bool) :
      Keeps lost J (emitIf P happened word fun w => .discarded w bit) :=
    keeps_emitIf fun w => (hseen w bit).2
  have hraised (word : Nat) (bit : Fin 64) (happened : Bool) :
      Keeps lost J (emitIf P happened word fun w => .raised w bit) :=
    keeps_emitIf fun w => (hseen w bit).1
  cases op with
  | mask | unmask | unmaskAt | ready | alert => exact Keeps.bind hpage fun _ => .pure _
  | isMasked | isPending => exact Keeps.channels.bind fun _ => .pure _
  | clear | clearAt =>
    exact Keeps.bind hpage fun _ => (hdiscarded _ _ _).bind fun _ => .pure _
  | maskAll => exact hmaskAll.bind fun _ => .pure _
  | clearAll =>
    apply Keeps.channels.bind
    intro c
    exact hclearAll.bind fun _ => (hdropped _).bind fun _ => .pure _
  | raise | raiseAt => exact Keeps.bind hpage fun _ => (hraised _ _ _).bind fun _ => .pure _

theorem PageIndifferent.run (h : PageIndifferent P lost J) (op : PageOperation) :
    Keeps lost J (op.run P) := by
  apply PageOperation.keeps_run _ (h.modifyPage _) (h.modifyPage _)
    (fun word bit => ⟨h.raised word bit, h.discarded word bit⟩) h.pendingDropped
  cases op with
  | isMasked | isPending | maskAll | clearAll => trivial
  | _ => exact h.page _

def VcpuOperation.Makes (K : ∀ {α : Type}, PageM α → Prop) (vcpu : Nat) : VcpuOperation → Prop
  | isUpcallPending | isUpcallMasked | selector => K (PageM.readVcpu vcpu)
  | clearUpcall => K (PageM.updateVcpu vcpu VcpuSlot.clearUpcall)
  | raiseUpcall => K (PageM.updateVcpu vcpu VcpuSlot.raiseUpcall)
  | maskUpcall masked => K (PageM.updateVcpu vcpu fun v => v.maskUpcall masked)
  | reset => K (PageM.updateVcpu vcpu VcpuSlot.reset)
  | drainSelector => K (PageM.drainSelector vcpu)
  | flagWord word => K (PageM.flagWord word vcpu)

theorem VcpuOperation.keeps_run_of {vcpu : Nat} {op : VcpuOperation}
    (hpage : op.Makes (fun m => Keeps lost J (onPage m)) vcpu) :
    Keeps lost J (op.run vcpu : Guest σ Report) := by
  cases op <;> exact Keeps.bind hpage fun _ => .pure _

theorem VcpuOperation.keeps_run (hpage : ∀ {α : Type} (m : PageM α), Keeps lost J (onPage m))
    (vcpu : Nat) (op : VcpuOperation) : Keeps lost J (op.run vcpu : Guest σ Report) := by
  apply keeps_run_of
  cases op <;> exact hpage _

theorem PageIndifferent.unmask (h : PageIndifferent P lost J) (port : Port) :
    Keeps lost J (Guest.unmask port) :=
  keeps_unmask (fun _ => True) (fun _ _ => trivial) (h.page _) fun _ _ => h.page _

theorem PageIndifferent.discardPending (h : PageIndifferent P lost J) :
    Keeps lost J (Guest.discardPending P) := by
  apply Keeps.channels.bind
  intro c
  apply (h.modifyPage _).bind
  intro _
  exact (h.pendingDropped _).bind fun _ => h.modifyPage _

/-- An assertion that the slots have no part in but for their work, and that accounts of the slots
keep. -/
structure SlotIndifferent (P : Platform σ) (lost J : System σ → Prop) : Prop where
  modifySlot : ∀ {port} {f : ActionTable → Slot → Slot}, (∀ t s, (f t s).work = s.work) →
    Keeps lost J (modifyTable fun t => t.modifySlot port (f t))
  cancel : ∀ port, Keeps lost J (Guest.cancel P port)
  setOutstanding : ∀ port, Keeps lost J (onTable fun t => t.setOutstanding port)
  acknowledge : ∀ port, Keeps lost J (Guest.acknowledge port)
  note : KeepsRemarks P lost J
  actionDropped : ∀ port kind old, Keeps lost J (Guest.note P (.actionDropped port kind old))
  published : ∀ port action, Keeps lost J (emit P (.published port action))
  slotReset : ∀ port, Keeps lost J (emit P (.slotReset port))
  readerTaken : ∀ port, Keeps lost J (emit P (.readerTaken port))
  readerReleased : ∀ port, Keeps lost J (emit P (.readerReleased port))

namespace SlotIndifferent

variable (h : SlotIndifferent P lost J)

include h

theorem publish (port : Port) (action : Action) : Keeps lost J (Guest.publish P port action) :=
  keeps_publish h.note (fun _ => h.modifySlot fun _ _ => rfl) (h.modifySlot fun _ _ => rfl)
    (h.published port action)

theorem dropAction (port : Port) : Keeps lost J (Guest.dropAction P port) :=
  keeps_dropAction h.note (h.modifySlot fun _ _ => rfl) (h.actionDropped port)

theorem resetSlot (port : Port) : Keeps lost J (Guest.resetSlot P port) :=
  keeps_resetSlot h.note (h.modifySlot fun _ _ => rfl) (h.cancel port)
    (h.modifySlot fun _ _ => rfl) (h.acknowledge port) (h.slotReset port)
    (h.modifySlot fun _ _ => rfl)

theorem countDelivery (port : Port) : Keeps lost J (onTable fun t => t.countDelivery port) := by
  have hset : Keeps lost J
      (modifyTable fun t => t.setDeliveries port ((t.slot port).deliveries + 1)) :=
    h.modifySlot fun _ _ => rfl
  exact Leads.onTable fun c o hs => hset.run ⟨c, o⟩ hs

theorem channels (hstable : Stable P lost J) (hpage : PageIndifferent P lost J) :
    ChannelOperation.Parts P lost J :=
  ⟨hstable, h.publish, h.dropAction, h.cancel, fun _ => (hpage.page _).discard, hpage.unmask⟩

theorem tableParts (hstable : Stable P lost J) : TableOperation.Parts P lost J :=
  ⟨hstable, h.publish, h.dropAction, h.resetSlot, h.cancel, h.setOutstanding⟩

/-- All but moving work keeps such an assertion. -/
theorem table (hstable : Stable P lost J) {op : TableOperation}
    (hwork : op.movesWork = true → Keeps lost J (op.run P)) : Keeps lost J (op.run P) := by
  apply (h.tableParts hstable).run hwork
  · exact TableOperation.keeps_moveReader (fun _ _ => h.modifySlot fun _ _ => rfl) h.readerTaken
      h.readerReleased
  · exact fun port _ => h.countDelivery port
  · exact fun port _ => h.acknowledge port

theorem table_of_idle (hstable : Stable P lost J) {op : TableOperation}
    (hop : op.movesWork = false) : Keeps lost J (op.run P) :=
  h.table hstable fun hwork => absurd (hop.symm.trans hwork) Bool.false_ne_true

end SlotIndifferent

/-- What keeps an assertion that the shared page has no part in. -/
structure Operation.Parts (P : Platform σ) (lost J : System σ → Prop) : Prop where
  stable : Stable P lost J
  line : ∀ r, r.concernsLine = true → Keeps lost J (call P r)
  page : PageIndifferent P lost J
  setInterruptsMasked : ∀ masked, Keeps lost J (setInterruptsMasked masked)
  setConnected : ∀ connected, Keeps lost J (Guest.setConnected connected)
  setSuspendPort : ∀ port, Keeps lost J (Guest.setSuspendPort port)
  publish : ∀ port action, Keeps lost J (Guest.publish P port action)
  dropAction : ∀ port, Keeps lost J (Guest.dropAction P port)
  resetSlot : ∀ port, Keeps lost J (Guest.resetSlot P port)
  enqueue : ∀ port, Keeps lost J (Guest.enqueue P port)
  cancel : ∀ port, Keeps lost J (Guest.cancel P port)
  takeWord : ∀ word, Keeps lost J (onTable fun t => t.takeWord word)
  setOutstanding : ∀ port, Keeps lost J (onTable fun t => t.setOutstanding port)
  acknowledge : ∀ port, Keeps lost J (Guest.acknowledge port)
  reader : ∀ op : TableOperation, op.movesReader = true → Keeps lost J (op.run P)
  consume : ∀ word bit, Keeps lost J (Guest.consume P word bit)
  runItem : ∀ port, Keeps lost J (Guest.runItem P port)

theorem Operation.Parts.ofChannels (h : Parts P lost J) (op : ChannelOperation) :
    Keeps lost J (op.run P) := by
  have hparts : ChannelOperation.Parts P lost J :=
    ⟨h.stable, h.publish, h.dropAction, h.cancel, fun port => (h.page.page _).discard,
      h.page.unmask⟩
  have hquiesce : Keeps lost J (quiesce : Guest σ Unit) :=
    keeps_quiesce (h.setInterruptsMasked true) (h.page.modifyPage _)
  have hreserve : Keeps lost J (reserveSuspendPort P) :=
    keeps_reserveSuspendPort h.stable (fun port => h.publish port _) h.page.unmask
  have hinit : Keeps lost J (Guest.init P) :=
    keeps_init h.stable hquiesce h.setSuspendPort (h.page.modifyPage _)
      (keeps_resetTable h.resetSlot) h.page.discardPending (h.page.modifyPage _)
      (h.setInterruptsMasked false) hreserve
  apply hparts.run
  · exact hparts.lifecycle hinit hquiesce h.setSuspendPort
  · exact ChannelOperation.keeps_line h.stable h.line h.setConnected
  · intro _
    apply keeps_scannerPass h.stable (fun _ => h.page.page _) (fun _ => h.page.page _)
    intro word bit
    exact Leads.of_pre (h.consume word bit) fun s hs => hs.1
  · intro _
    exact keeps_deferredPass h.stable (keeps_runWord h.takeWord h.runItem)
  · exact fun port _ => h.acknowledge port

/-- A run of deferred work at a word that the bitmap has not is a fault, so a fault may not cost
the assertion more than `lost` leaves of it. -/
theorem Operation.Parts.ofTable (h : Parts P lost J) (hlost : ∀ s, J s → lost s)
    {op : TableOperation} (hcount : ∀ port, op = .countDelivery port →
      Keeps lost J (onTable fun t => t.countDelivery port)) : Keeps lost J (op.run P) := by
  have hparts : TableOperation.Parts P lost J :=
    ⟨h.stable, h.publish, h.dropAction, h.resetSlot, h.cancel, h.setOutstanding⟩
  have hword : ∀ word, Keeps lost J (runWordAt P word) :=
    keeps_runWordAt (keeps_runWord h.takeWord h.runItem) hlost
  exact hparts.run (TableOperation.keeps_moveWork h.enqueue h.setOutstanding hword) (h.reader op)
    hcount fun port _ => h.acknowledge port

theorem Operation.Parts.run (h : Parts P lost J) (hlost : ∀ s, J s → lost s) {op : Operation}
    (hcount : ∀ port, op = .table (.countDelivery port) →
      Keeps lost J (onTable fun t => t.countDelivery port)) :
    Keeps lost J (op.run P) := by
  cases op with
  | page op => exact (h.page.run op).bind fun _ => .pure _
  | vcpu vcpu op => exact (VcpuOperation.keeps_run h.page.page vcpu op).bind fun _ => .pure _
  | table op => exact h.ofTable hlost fun port hop => hcount port (by rw [hop])
  | channels op => exact h.ofChannels op

end EventChannel
