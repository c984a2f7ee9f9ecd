import EventChannel.Proofs.Batching
import EventChannel.Proofs.DeferredPass
import EventChannel.Proofs.Erasure
import EventChannel.Proofs.Invocation
import EventChannel.Proofs.WorkOrigin.Invariant

namespace EventChannel

open Guest

namespace History

/-- Certain calls have been made so far. -/
def Made (calls : List Request) (history : History) : Prop := history.requests = calls

variable {r : Request} {history : History}

theorem mem_requests_of_called {depth : Nat} {state : Channels}
    (h : Entry.called depth r state ∈ history) : r ∈ history.requests := by
  induction history with
  | nil => cases h
  | cons entry before ih =>
    rcases List.mem_cons.1 h with rfl | hbefore
    · exact List.mem_append_right _ List.mem_cons_self
    · cases entry with
      | called => exact List.mem_append_left _ (ih hbefore)
      | _ => exact ih hbefore

theorem called_of_mem_requests (h : r ∈ history.requests) :
    ∃ later depth state before, history = later ++ .called depth r state :: before := by
  induction history with
  | nil => cases h
  | cons entry before ih =>
    have hcons (hbefore : r ∈ requests before) : ∃ later depth state earlier,
        entry :: before = later ++ .called depth r state :: earlier := by
      obtain ⟨later, depth, state, earlier, rfl⟩ := ih hbefore
      exact ⟨entry :: later, depth, state, earlier, rfl⟩
    cases entry with
    | called depth r' state =>
      rcases List.mem_append.1 h with hbefore | hlatest
      · exact hcons hbefore
      · obtain rfl := List.mem_singleton.1 hlatest
        exact ⟨[], depth, state, before, rfl⟩
    | _ => exact hcons h

end History

namespace ActionTable

variable {t u : ActionTable} {counted : Port → Bool} {port : Port}

theorem isQueued_bindAt (t : ActionTable) (p q : Port) (a : Action) :
    (t.bindAt p a).isQueued q = t.isQueued q := by
  rw [isQueued, slot_bindAt]
  split <;> rfl

@[simp]
theorem kind_bindAt_self (t : ActionTable) (p : Port) (a : Action) :
    (t.bindAt p a).kind p = a.kind := by
  rw [kind, slot_bindAt, if_pos rfl]

/-- To queue one port where nothing was queued leaves no other queued, and that one flagged. -/
theorem Gains.isFlagged_bindAt (h : t.Gains counted nowhere (fun q => decide (port = q)) u)
    (hidle : ∀ p, t.isQueued p = false) (a : Action) {p : Port}
    (hp : (u.bindAt port a).isQueued p = true) : (u.bindAt port a).isFlagged p = true := by
  rw [isQueued_bindAt, h.isQueued, hidle, Bool.false_or] at hp
  change u.isFlagged p = true
  rw [h.flagged, hidle, hp, Bool.not_false, Bool.and_true, Bool.or_true]

/-- The work that a port has queued is owed to whatever it is bound to next. -/
theorem Gains.deferredStart?_bindAt (h : t.Gains counted nowhere (fun q => decide (port = q)) u)
    (irq : IrqBinding) : (u.bindAt port (.deferredHardwareIrq irq)).deferredStart? port =
      some (.handle .deferred irq.handler port) := by
  have hqueued : (u.slot port).work.queued = true := by
    change u.isQueued port = true
    rw [h.isQueued, decide_eq_true rfl, Bool.or_true]
  rw [deferredStart?, slot_bindAt, if_pos rfl, Slot.deferredStart?, hqueued]
  rfl

end ActionTable

/-- A pass leaves nothing pending of what it finds due. -/
theorem SharedPage.isPending_caughtUp {page : SharedPage} {v : Fin 32} {port : Port}
    (hport : port ∈ page.duePorts v) : (page.caughtUp v).isPending port = false := by
  rw [isPending, test_pending_caughtUp, mem_duePorts.1 hport, Bool.not_true, Bool.and_false]

section Programs

variable {P : Platform History} {depth : Nat} {lost pre mid : System History → Prop} {α : Type}

theorem Program.leads_sequence_cons {result : α} {op : Operation} {ops : List Operation}
    {post : α → System History → Prop} (hop : Leads lost pre (op.logged P depth) fun _ => mid)
    (hrest : Leads lost mid ((sequence result ops).run P depth) post) :
    Leads lost pre ((sequence result (op :: ops)).run P depth) post := by
  have hrun : (sequence result (op :: ops)).run P depth =
      op.logged P depth >>= fun _ => (sequence result ops).run P depth := by
    simp only [sequence, Program.run, Operation.logged, bind_assoc, pure_bind]
  rw [hrun]
  exact hop.bind fun _ => hrest

theorem Operation.leads_logged {op : Operation}
    (hbegan : Keeps lost pre (record (.began depth op))) (hrun : Leads lost pre (op.run P) fun _ => mid)
    (hended : ∀ result, Keeps lost mid (record (.ended depth op result))) :
    Leads lost pre (op.logged P depth) fun _ => mid :=
  Leads.bind hbegan fun _ => hrun.bind fun result => Leads.bind (hended result) fun _ =>
    .pure fun _ => id

theorem Operation.held_logged {calls calls' : List Request} {state state' : Channels} {op : Operation}
    (hrun : Leads lost (Held (History.Made calls) state) (op.run P) fun _ =>
      Held (History.Made calls') state') :
    Leads lost (Held (History.Made calls) state) (op.logged P depth) fun _ =>
      Held (History.Made calls') state' :=
  leads_logged (Leads.record fun _ _ hs => ⟨hs.channels, hs.outside⟩) hrun fun _ =>
    Leads.record fun _ _ hs => ⟨hs.channels, hs.outside⟩

end Programs

namespace Client

variable {number : UInt32} {ops : Request → List Operation} {lost : System History → Prop}
  {calls : List Request} {state : Channels} {port : Port}

theorem made_observe {c : Client} (event : Event) (state : Channels) (history : History)
    (h : history.Made calls) : ((c.platform 0).observe event state history).Made calls := h

theorem held_granted (r : Request) : Leads lost (Held (History.Made calls) state)
    (call ((granting number ops).platform 0) r) fun reply s =>
      reply = r.granted number ∧ Held (History.Made (calls ++ [r])) state s := by
  constructor
  rintro ⟨_, before⟩ ⟨rfl, hs⟩
  exact ⟨rfl, rfl, congrArg (· ++ [r]) hs⟩

theorem held_reserveSuspendPort (hport : Port.ofNumber? number = some port) :
    Leads lost (Held (History.Made calls) state.opened)
      (reserveSuspendPort ((granting number ops).platform 0)) fun result s => result = .ok port ∧
        Held (History.Made (calls ++ [.hypercall (.bindIpi state.config.suspendVcpu)]))
          (Erasure.allotted state (.ok port)) s := by
  have hreaders : (state.opened.table.slot port).readers = 0 :=
    congrArg Slot.readers (ActionTable.slot_powerOn port)
  have hpending : state.opened.page.isPending port = false :=
    (Bitmap.test_replicate _ _ _).trans (Word.test_empty _)
  have hallocate : Leads lost (Held (History.Made calls) state.opened)
      (allocIpi ((granting number ops).platform 0) state.config.suspendVcpu) fun result s =>
        result = .ok port ∧
        Held (History.Made (calls ++ [.hypercall (.bindIpi state.config.suspendVcpu)]))
          state.opened s := by
    apply (held_granted _).bind_of_eq
    dsimp only [Request.granted]
    rw [adopt, hport]
    exact .pure fun _ hs => ⟨rfl, hs⟩
  apply held_config.bind_of_eq
  apply hallocate.bind_of_eq
  apply (held_attach made_observe hreaders hpending .suspend).bind_of_eq
  exact .pure fun _ hs => ⟨rfl, hs⟩

/-- Where all is granted, initialisation succeeds. -/
theorem held_init (hport : Port.ofNumber? number = some port) (hreaders : state.HasNoReaders) :
    Leads lost (Held (History.Made calls) state) (init ((granting number ops).platform 0))
      fun result s => result = .ok port ∧
        Held (History.Made (calls ++ [.setParam .callbackIrq state.config.callbackIrq.toUInt64] ++
          [.hypercall (.bindIpi state.config.suspendVcpu)])) (state.reserved port) s := by
  apply held_quiesce.bind
  intro _
  apply held_modifyChannels.bind
  intro _
  apply held_modifyPage.bind
  intro _
  refine (held_resetTable made_observe ?hreaders).bind_of_eq ?_
  case hreaders => exact hreaders
  apply (held_discardPending made_observe).bind
  intro _
  apply held_config.bind_of_eq
  apply (held_granted _).bind_of_eq
  apply held_modifyPage.bind
  intro _
  apply held_modifyChannels.bind
  intro _
  apply (held_reserveSuspendPort hport).bind_of_eq
  apply held_modifyChannels.bind
  intro _
  exact Leads.bind (held_emit made_observe _) fun _ => .pure fun _ hs => ⟨rfl, hs⟩

end Client

section Rebinding

variable {c : Client} {lost : System History → Prop} {start : Channels} {calls : List Request}
  {port : Port} {handler : HandlerName}

/-- A port is bound as a legacy interrupt that is not outstanding, and was whenever a deferred handler
was started. -/
structure Unmarked (port : Port) (s : System History) : Prop where
  now : s.channels.table.kind port = .deferredHardwareIrq ∧
    s.channels.table.isOutstanding port = false
  starts : ∀ entry ∈ s.outside, entry.startedDeferred?.isSome = true →
    entry.state.table.kind port = .deferredHardwareIrq ∧
      entry.state.table.isOutstanding port = false

theorem keeps_unmarked : Keeps lost (Unmarked port) (deferredPass (c.platform 0)) := by
  have hemit (e : Event) : Keeps lost (Unmarked port) (emit (c.platform 0) e) :=
    Client.leads_emit fun _ _ hs => ⟨hs.now, List.forall_mem_cons.2 ⟨nofun, hs.starts⟩⟩
  have hcall (r : Request) : Keeps lost (Unmarked port) (call (c.platform 0) r) := by
    constructor
    rintro ⟨state, before⟩ hs
    refine ⟨hs.now, List.forall_mem_cons.2 ⟨nofun, List.forall_mem_cons.2 ⟨fun _ => hs.now, ?_⟩⟩⟩
    exact hs.starts
  have hstable : Stable (c.platform 0) lost (Unmarked port) :=
    ⟨fun r _ _ _ => hcall r, fun n _ => hemit (.noticed n)⟩
  have hclaim (q : Port) : Keeps lost (Unmarked port) (onTable fun t => t.claim q) := by
    apply Leads.onTable
    intro state _ hs
    have hkind : (state.table.claim q).2.kind port = state.table.kind port :=
      state.table.field_modifySlot q port fun _ => rfl
    exact ⟨⟨hkind.trans hs.now.1, hs.now.2⟩, hs.starts⟩
  apply keeps_deferredPass hstable (keeps_runWord _ _)
  · exact fun _ => Leads.onTable fun _ _ hs => ⟨hs.now, hs.starts⟩
  · exact fun q => leads_runItem hstable (hclaim q) (hemit _) fun _ => hcall _

/-- No deferred handler was started yet. -/
theorem Unmarked.of_made {s : System History} (hs : Held (History.Made calls) start s)
    (hkind : start.table.kind port = .deferredHardwareIrq)
    (hmark : start.table.isOutstanding port = false) (hcalls : ∀ r ∈ calls, r.deferred? = none) :
    Unmarked port s where
  now := by
    rw [hs.channels]
    exact ⟨hkind, hmark⟩
  starts entry hentry hstarted := by
    obtain ⟨started, hstarted⟩ := Option.isSome_iff_exists.1 hstarted
    obtain ⟨depth, state, rfl⟩ := Entry.called_of_startedDeferred? hstarted
    have hmem := History.mem_requests_of_called hentry
    rw [hs.outside] at hmem
    cases hcalls _ hmem

/-- A deferred handler was started on a port for a legacy interrupt that is not outstanding. -/
def StartsUnmarked (handler : HandlerName) (port : Port) (s : System History) : Prop :=
  ∃ later depth state before,
    s.outside = later ++ .called depth (.handle .deferred handler port) state :: before ∧
    state.table.kind port = .deferredHardwareIrq ∧ state.table.isOutstanding port = false

theorem leads_deferredPass_unmarked (hmasked : start.interruptsMasked = false)
    (hflagged : ∀ p, start.table.isQueued p = true → start.table.isFlagged p = true)
    (howed : start.table.deferredStart? port = some (.handle .deferred handler port))
    (hkind : start.table.kind port = .deferredHardwareIrq)
    (hmark : start.table.isOutstanding port = false) (hcalls : ∀ r ∈ calls, r.deferred? = none) :
    Leads lost (Held (History.Made calls) start) (deferredPass (c.platform 0)) fun _ =>
      StartsUnmarked handler port := by
  constructor
  intro s hs
  have hunmarked : Unmarked port s := .of_made hs hkind hmark hcalls
  have hpass : Leads lost (fun t => t = s) (deferredPass (c.platform 0)) fun _ t =>
      t.outside.requests = calls ++ start.table.deferredStarts Port.all ∧ Unmarked port t := by
    apply Leads.and
    · have htells : Leads lost (Held (History.Tells calls s.outside.dispatched) start)
          (deferredPass (c.platform 0)) fun _ t =>
          t.outside.requests = calls ++ start.table.deferredStarts Port.all :=
        (leads_deferredPass hmasked hflagged).of_post fun _ _ ht => ht.2.outside.1
      apply htells.of_pre
      rintro _ rfl
      exact ⟨hs.channels, hs.outside, rfl⟩
    · apply Leads.of_pre keeps_unmarked
      rintro _ rfl
      exact hunmarked
  apply (hpass.of_post _).run s rfl
  rintro _ t ⟨hrequests, hunmarked⟩
  have hmem : Request.handle .deferred handler port ∈ t.outside.requests := by
    rw [hrequests]
    exact List.mem_append_right _ (List.mem_filterMap.2 ⟨port, port.mem_all, howed⟩)
  obtain ⟨later, depth, state, before, ht⟩ := History.called_of_mem_requests hmem
  have hentry : Entry.called depth (.handle .deferred handler port) state ∈ t.outside := by
    rw [ht]
    exact List.mem_append_right _ List.mem_cons_self
  exact ⟨later, depth, state, before, ht, hunmarked.starts _ hentry rfl⟩

/-- A pass that finds one event, of a deferred procedure that is not queued, queues it. -/
theorem leads_scannerPass_procedure {v : Fin 32} (hmasked : start.interruptsMasked = false)
    (hvcpu : start.config.upcallVcpu = v) (hdue : start.page.duePorts v = [port])
    (hkind : start.table.kind port = .deferredProcedure)
    (hidle : start.table.isQueued port = false) :
    Leads lost (Held (History.Made calls) start) (scannerPass (c.platform 0)) fun _ s => ∃ u,
      Held (History.Made (calls ++ [.queueDeferred]))
        { start with page := start.page.caughtUp v, table := u } s ∧
      start.table.Gains (fun q => decide (port = q)) ActionTable.nowhere
        (fun q => decide (port = q)) u := by
  have hdeferred : (start.table.kind port).isDeferred = true := by rw [hkind]; rfl
  have hsuspend : start.table.kind port ≠ .suspend := by rw [hkind]; nofun
  have hmarks (q : Port) : start.table.marks [port] q = ActionTable.nowhere q := by
    rw [ActionTable.marks_of_ne_suspend hsuspend, ActionTable.isIrq, hkind]
    rfl
  have hqueues (q : Port) : start.table.queues [port] q = decide (port = q) := by
    rw [ActionTable.queues_of_ne_suspend hsuspend, hdeferred, Bool.true_and]
  have hrequests : start.table.requests [] [port] = [.queueDeferred] := by
    rw [ActionTable.requests, ActionTable.requestsAt_of_isDeferred hdeferred, hidle]
    rfl
  constructor
  intro s hs
  have hscan : Leads lost (Held (History.Tells calls s.outside.dispatched) start)
      (scannerPass (c.platform 0)) _ := leads_scannerPass hmasked hvcpu
  apply (hscan.of_post _).run s ⟨hs.channels, hs.outside, rfl⟩
  rintro outcome t ⟨-, u, ht, hgains⟩
  rw [SharedPage.ofBits_dueBits, hdue] at ht hgains
  refine ⟨u, ⟨ht.channels, ht.outside.1.trans ?_⟩, ?_⟩
  · rw [hrequests]
  · exact hgains.congr (ActionTable.contains_singleton port) hmarks hqueues

theorem StartsUnmarked.cons {state : Channels} {before : History}
    (h : StartsUnmarked handler port ⟨state, before⟩) (entry : Entry) :
    StartsUnmarked handler port ⟨state, entry :: before⟩ := by
  obtain ⟨later, depth, started, earlier, hbefore, hstarted⟩ := h
  exact ⟨entry :: later, depth, started, earlier, congrArg (entry :: ·) hbefore, hstarted⟩

/-- Binding a port again leaves its queued work alone. -/
theorem held_bindIrq {vector : UInt32} {description : String}
    (hreaders : (start.table.slot port).readers = 0) (hpending : start.page.isPending port = false) :
    Leads lost (Held (History.Made calls) start)
      ((Operation.channels (.bindIrq port vector description handler)).logged (c.platform 0) 0)
      fun _ => Held (History.Made calls) { start with
        table := start.table.bindAt port
          (.deferredHardwareIrq (.ofDescription handler vector description))
        page := start.page.clearMask port.pageWord port.bit } := by
  apply Operation.held_logged
  exact (held_attach Client.made_observe hreaders hpending _).bind fun _ => .pure fun _ hs => hs.2

/-- A port is bound as a legacy interrupt once it alone was queued, and then the work is run. -/
theorem leads_deferredPass_rebound {u : ActionTable} {counted : Port → Bool}
    {page : SharedPage} (irq : IrqBinding) (hmasked : start.interruptsMasked = false)
    (hu : start.table.Gains counted ActionTable.nowhere (fun q => decide (port = q)) u)
    (hidle : ∀ p, start.table.isQueued p = false) (hmark : start.table.isOutstanding port = false)
    (hcalls : ∀ r ∈ calls, r.deferred? = none) :
    Leads lost (Held (History.Made calls)
        { start with page := page, table := u.bindAt port (.deferredHardwareIrq irq) })
      ((Operation.channels .deferredPass).logged (c.platform 0) 0) fun _ =>
      StartsUnmarked irq.handler port := by
  let bound : Channels :=
    { start with page := page, table := u.bindAt port (.deferredHardwareIrq irq) }
  have hopen : bound.interruptsMasked = false := hmasked
  have hflagged (p : Port) : bound.table.isQueued p = true → bound.table.isFlagged p = true :=
    hu.isFlagged_bindAt hidle _
  have hunmarked : bound.table.isOutstanding port = false := by
    change u.isOutstanding port = false
    rw [hu.outstanding, hmark]
    rfl
  apply Operation.leads_logged (Leads.record fun _ _ hs => ⟨hs.channels, hs.outside⟩)
  · exact (leads_deferredPass_unmarked hopen hflagged (hu.deferredStart?_bindAt irq)
      (ActionTable.kind_bindAt_self u port _) hunmarked hcalls).bind fun _ => .pure fun _ => id
  · exact fun result => Leads.record fun _ _ hs => hs.cons _

/-- A port whose event is due is bound again after a pass has queued its work, and then the work is run:
the new handler is started for an event that was not its own. -/
theorem leads_rebound {v : Fin 32} {vector : UInt32} {description : String}
    (hmasked : start.interruptsMasked = false)
    (hvcpu : start.config.upcallVcpu = v) (hdue : start.page.duePorts v = [port])
    (hkind : start.table.kind port = .deferredProcedure)
    (hreaders : (start.table.slot port).readers = 0)
    (hidle : ∀ p, start.table.isQueued p = false) (hmark : start.table.isOutstanding port = false)
    (hcalls : ∀ r ∈ calls, r.deferred? = none) :
    Leads lost (Held (History.Made calls) start)
      ((Program.sequence () [.channels .scannerPass,
        .channels (.bindIrq port vector description handler), .channels .deferredPass]).run
        (c.platform 0) 0) fun _ => StartsUnmarked handler port := by
  have hscan : Leads lost (Held (History.Made calls) start)
      ((Operation.channels .scannerPass).logged (c.platform 0) 0) fun _ s => ∃ u,
      Held (History.Made (calls ++ [.queueDeferred]))
        { start with page := start.page.caughtUp v, table := u } s ∧
      start.table.Gains (fun q => decide (port = q)) ActionTable.nowhere
        (fun q => decide (port = q)) u := by
    apply Operation.leads_logged (Leads.record fun _ _ hs => ⟨hs.channels, hs.outside⟩)
    · exact (leads_scannerPass_procedure hmasked hvcpu hdue hkind (hidle port)).bind fun _ =>
        .pure fun _ => id
    · intro result
      exact Leads.record fun _ _ ⟨u, hs, hu⟩ => ⟨u, ⟨hs.channels, hs.outside⟩, hu⟩
  apply Program.leads_sequence_cons hscan
  apply Leads.of_exists
  intro u
  apply Leads.assume
  intro hu
  let caught : Channels := { start with page := start.page.caughtUp v, table := u }
  have hfree : (caught.table.slot port).readers = 0 := by
    change (u.slot port).readers = 0
    rw [hu.slot]
    exact hreaders
  have hcleared : caught.page.isPending port = false :=
    SharedPage.isPending_caughtUp (hdue ▸ List.mem_cons_self)
  have hcalls' : ∀ r ∈ calls ++ [.queueDeferred], r.deferred? = none :=
    List.forall_mem_append.2 ⟨hcalls, List.forall_mem_singleton.2 rfl⟩
  let irq : IrqBinding := .ofDescription handler vector description
  have hpass (page : SharedPage) : Leads lost (Held (History.Made (calls ++ [.queueDeferred]))
        { start with page := page, table := u.bindAt port (.deferredHardwareIrq irq) })
      ((Operation.channels .deferredPass).logged (c.platform 0) 0) fun _ =>
      StartsUnmarked handler port :=
    leads_deferredPass_rebound irq hmasked hu hidle hmark hcalls'
  apply Program.leads_sequence_cons (held_bindIrq hfree hcleared)
  exact Program.leads_sequence_cons (hpass _) (.pure fun _ => id)

end Rebinding

theorem History.acknowledges_eq_false {c : Client} {port : Port}
    (hc : ∀ r history, (c.respond r history).Within fun op => op.acknowledged? ≠ some port)
    (depth : Nat) {α : Type} {program : Program α}
    (hprogram : program.Within fun op => op.acknowledged? ≠ some port) (start : Channels) :
    ∀ entry ∈ c.history depth program start, entry.acknowledges port = false := by
  let K (history : History) : Prop := ∀ entry ∈ history, entry.acknowledges port = false
  have hrecord {entry : Channels → Entry} (h : ∀ state, (entry state).acknowledges port = false) :
      Keeps (Surrounded K) (Surrounded K) (record entry) :=
    Leads.record fun state _ hs => List.forall_mem_cons.2 ⟨h state, hs⟩
  have hmaintains : c.Maintains (depth + 1) (Surrounded K) (fun _ : Unit => Surrounded K)
      (fun _ _ => Surrounded K) fun _ op => op.acknowledged? ≠ some port := by
    refine ⟨fun _ r s _ => hc r s.outside, fun _ _ _ => hrecord fun _ => rfl,
      fun _ _ _ _ => hrecord fun _ => rfl, fun n _ hcall _ op hop => ?_⟩
    apply Operation.keeps_logged (hrecord fun _ => decide_eq_false hop) _ fun _ => hrecord fun _ => rfl
    apply Operation.keeps_surrounded (fun e => ?_) (hcall ()) fun _ => id
    exact Client.leads_emit fun state _ hs => List.forall_mem_cons.2 ⟨rfl, hs⟩
  exact hmaintains.holds () hprogram (fun _ hmem => absurd hmem List.not_mem_nil) fun _ => id

end EventChannel
