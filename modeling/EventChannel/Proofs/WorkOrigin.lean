import EventChannel.Proofs.CurrentBinding
import EventChannel.Proofs.DeferredWork.Invariant
import EventChannel.Proofs.WorkAccount
import EventChannel.Proofs.WorkOrigin.Rebinding
import EventChannel.Proofs.WorkOrigin.Table

namespace EventChannel

open Guest

namespace Traced

/-- Before a call the deferred work that it concerns is traced. -/
def Ready (r : Request) (s : System History) : Prop :=
  Traced Told s ∧ ∀ depth, (Entry.called depth r s.channels).TracesWork s.outside

variable {c : Client} {depth : Nat} {p port : Port} {kind : Kind}

theorem leads_called (r : Request) :
    Leads TracedUntil (Ready r) (record (.called depth r)) fun _ => Traced Told :=
  Leads.record fun _ _ hs => hs.1.cons (fun _ => rfl) (fun _ => nofun) (hs.2 depth)

theorem keeps_answered (r : Request) (reply : r.Reply) :
    Keeps TracedUntil (Traced Told) (record (.answered depth r reply)) :=
  Leads.record fun _ _ hs => hs.cons (fun _ => rfl) (fun _ => nofun) trivial

section Calls

variable (hcall : ∀ r, Leads TracedUntil (Ready r) (call (c.platform depth) r) fun _ => Traced Told)

include hcall

theorem keeps_call {r : Request} (hr : r.deferred? = none) (hask : r.asksForRun = false) :
    Keeps TracedUntil (Traced Told) (call (c.platform depth) r) := by
  apply (hcall r).of_pre
  intro s hs
  refine ⟨hs, fun depth => ?_⟩
  cases r with
  | queueDeferred => cases hask
  | handle context =>
    cases context with
    | deferred => cases hr
    | _ => trivial
  | _ => trivial

theorem stable : Stable (c.platform depth) TracedUntil (Traced Told) :=
  ⟨fun r hr _ hask => keeps_call hcall (r.deferred?_eq_none hr) hask, keepsRemarks⟩

/-- A deferred run is requested by a scanner pass that calls for work. -/
theorem leads_request : Leads TracedUntil
    (fun s => Traced Told s ∧ ∃ port kind, s.outside.CallsFor s.channels port kind)
    (call (c.platform depth) .queueDeferred) fun _ => Traced Told :=
  (hcall .queueDeferred).of_pre fun _ hs => ⟨hs.1, fun _ => hs.2⟩

theorem leads_postpone (hkind : kind.isDeferred = true) : Leads TracedUntil
    (fun s => Serving port kind s ∧ Poised port kind s) (postpone (c.platform depth) port)
    fun _ => Traced Told := by
  have hqueue : Leads TracedUntil
      (fun s => (Serving port kind s ∧ Poised port kind s) ∧ s.channels.interruptsMasked = false)
      (enqueue (c.platform depth) port) fun _ s => Serving port kind s ∧ Poised port kind s ∧
        s.outside.CallsFor s.channels port kind :=
    Leads.of_pre (keeps_enqueue port) fun s ⟨⟨hserving, hpoised⟩, hopen⟩ =>
      ⟨hserving, hpoised, .inl ⟨hserving.2, hkind, hopen⟩⟩
  apply Guest.leads_postpone (Leads.of_pre (keeps_note _) fun _ hs => hs.1.1) hqueue
  · exact (leads_request hcall).of_pre fun _ hs => ⟨hs.1.1, port, kind, hs.2.2⟩
  · exact fun _ hs => hs.1.1

theorem leads_service_suspend : Leads TracedUntil (Serving port .suspend)
    (service (c.platform depth) port .suspend) fun _ => Traced Told := by
  have hseen (marked : Nat) : Keeps TracedUntil (Serving port .suspend)
      (note (c.platform depth) (.suspendBroadcast port marked)) :=
    Keeps.and (keeps_note _) (Client.leads_emit fun _ _ => id)
  apply Guest.leads_service_suspend keeps_broadcast hseen
  · apply (leads_request hcall).of_pre
    exact fun s hs => ⟨hs.1, port, .deferredHardwareIrq, .inr ⟨rfl, port, hs.2⟩⟩
  · exact fun _ hs => hs.1

theorem leads_service : Leads TracedUntil
    (fun s => Serving port kind s ∧ s.channels.table.kind port = kind)
    (service (c.platform depth) port kind) fun _ => Traced Told := by
  cases kind with
  | empty =>
    apply Leads.bind (Leads.of_pre (keeps_note _) fun _ hs => hs.1.1)
    exact fun _ => .pure fun _ => id
  | normal =>
    have hnormal : Keeps TracedUntil (Traced Told) (service (c.platform depth) port .normal) :=
      keeps_service_normal (stable hcall) fun _ => keeps_call hcall rfl rfl
    exact Leads.of_pre hnormal fun _ hs => hs.1.1
  | deferredProcedure =>
    have hpostpone : Leads TracedUntil (fun s => Serving port .deferredProcedure s ∧
        s.channels.table.kind port = .deferredProcedure) (postpone (c.platform depth) port)
        fun _ => Traced Told :=
      (leads_postpone hcall rfl).of_pre fun _ hs => ⟨hs.1, hs.2, nofun⟩
    exact hpostpone.bind fun _ => .pure fun _ => id
  | deferredHardwareIrq =>
    apply (leads_setOutstanding port).discard.bind
    exact fun _ => (leads_postpone hcall rfl).bind fun _ => .pure fun _ => id
  | suspend => exact (leads_service_suspend hcall).of_pre fun _ hs => hs.1

theorem keeps_deliver (port : Port) :
    Keeps TracedUntil (Traced Told) (deliver (c.platform depth) port) := by
  have hcount : Keeps TracedUntil (Traced Told) (onTable fun t => t.countDelivery port) :=
    keeps_onTable (fun t q => t.field_modifySlot port q fun _ => rfl) fun _ _ hq => hq
  apply hcount.bind
  intro deliveries
  apply Leads.table.bind
  intro t
  have hseen : Leads TracedUntil (fun s => Traced Told s ∧ s.channels.table = t)
      (note (c.platform depth) (.delivering port (t.kind port) deliveries)) fun _ s =>
      Serving port (t.kind port) s ∧ s.channels.table.kind port = t.kind port := by
    apply Client.leads_emit
    rintro state before ⟨hs, rfl⟩
    exact ⟨⟨hs.cons (fun _ => rfl) (fun _ => nofun) trivial, rfl⟩, rfl⟩
  exact hseen.bind fun _ => leads_service hcall

theorem keeps_consume (word bit : Fin 64) :
    Keeps TracedUntil (Traced Told) (consume (c.platform depth) word bit) :=
  Guest.keeps_consume (stable hcall) (keeps_onPage _)
    (keeps_emit (fun _ _ => rfl) (fun _ _ => nofun) fun _ _ => trivial) (keeps_deliver hcall)

/-- A deferred handler is looked up under the kind that was published last. -/
theorem keeps_runItem (port : Port) :
    Keeps TracedUntil (Traced Told) (runItem (c.platform depth) port) := by
  have hclaim : Keeps TracedUntil (Traced Told) (onTable fun t => t.claim port) :=
    keeps_onTable (fun t q => t.field_modifySlot port q fun _ => rfl) fun _ _ hq => hq
  have hseen : Keeps TracedUntil (Traced Told) (emit (c.platform depth) (.workClaimed port)) :=
    keeps_emit (fun _ _ => rfl) (fun _ _ => nofun) fun _ _ => trivial
  apply leads_runItem_of_found (stable hcall) hclaim hseen
  intro handler
  apply (hcall (.handle .deferred handler port)).of_pre
  intro s hs
  obtain ⟨hs, hdeferred, hhandler⟩ := hs
  exact ⟨hs, fun _ => ⟨hdeferred, hhandler, (hs.published port).symm, hs.marked port⟩⟩

theorem keeps_channels {op : ChannelOperation}
    (hack : (Operation.channels op).acknowledged? = none) :
    Keeps TracedUntil (Traced Told) (op.run (c.platform depth)) := by
  have hpage : PageIndifferent (c.platform depth) TracedUntil (Traced Told) := pageIndifferent
  have hparts : ChannelOperation.Parts (c.platform depth) TracedUntil (Traced Told) :=
    ⟨stable hcall, keeps_publish, keeps_dropAction, keeps_cancel,
      fun _ => (keeps_onPage _).discard, hpage.unmask⟩
  have hmasked (masked : Bool) : Keeps TracedUntil (Traced Told) (setInterruptsMasked masked) :=
    keeps_modifyChannels fun _ => rfl
  have hquiesce : Keeps TracedUntil (Traced Told) (quiesce : Guest History Unit) :=
    keeps_quiesce (hmasked true) (hpage.modifyPage _)
  apply hparts.run
  · apply hparts.lifecycle _ hquiesce fun _ => keeps_modifyChannels fun _ => rfl
    exact keeps_init (stable hcall) hquiesce (fun _ => keeps_modifyChannels fun _ => rfl)
      (hpage.modifyPage _) (keeps_resetTable keeps_resetSlot)
      hpage.discardPending (hpage.modifyPage _)
      (hmasked false)
      (keeps_reserveSuspendPort (stable hcall) (fun port => keeps_publish port _) hparts.unmask)
  · exact ChannelOperation.keeps_line (stable hcall)
      (fun r hr => keeps_call hcall (r.deferred?_eq_none (Request.startsHandler_of_line hr))
        (Request.asksForRun_of_line hr)) fun _ => keeps_modifyChannels fun _ => rfl
  · intro _
    apply keeps_scannerPass (stable hcall) (fun _ => keeps_onPage _) fun _ => keeps_onPage _
    exact fun word bit => Leads.of_pre (keeps_consume hcall word bit) fun _ hs => hs.1
  · intro _
    exact keeps_deferredPass (stable hcall)
      (keeps_runWord (fun _ => keeps_onTable (fun _ _ => rfl) fun _ _ => id) (keeps_runItem hcall))
  · rintro port rfl
    cases hack

theorem keeps_table {op : TableOperation} (hop : op.movesWork = false)
    (hack : (Operation.table op).acknowledged? = none) :
    Keeps TracedUntil (Traced Told) (op.run (c.platform depth)) := by
  have hparts : TableOperation.Parts (c.platform depth) TracedUntil (Traced Told) :=
    ⟨stable hcall, keeps_publish, keeps_dropAction, keeps_resetSlot, keeps_cancel,
      keeps_setOutstanding⟩
  apply hparts.run
  · exact fun hwork => absurd (hop.symm.trans hwork) Bool.false_ne_true
  · exact TableOperation.keeps_moveReader (fun _ _ => keeps_modifySlot fun _ _ => rfl)
      (fun _ => keeps_emit (fun _ _ => rfl) (fun _ _ => nofun) fun _ _ => trivial)
      (fun _ => keeps_emit (fun _ _ => rfl) (fun _ _ => nofun) fun _ _ => trivial)
  · exact fun port _ =>
      keeps_onTable (fun t q => t.field_modifySlot port q fun _ => rfl) fun _ _ hq => hq
  · rintro port rfl
    cases hack

/-- The two operations that acknowledge a port do so once no mark is due to it any more. -/
theorem leads_run {op : Operation} (hop : op.leavesWork = true) (hdown : op.bringsDown = false) :
    Leads TracedUntil (fun s => Traced Told s ∧ ∀ port, op.acknowledged? = some port →
      s.outside.isMarked port = false) (op.run (c.platform depth)) fun _ => Traced Told := by
  have hacknowledge (port : Port) : Leads TracedUntil
      (fun s => Traced Told s ∧ ∀ q, some port = some q → s.outside.isMarked q = false)
      (acknowledge port) fun _ => Traced Told :=
    Leads.weaken (keeps_acknowledge port) (fun _ hs => ⟨hs.1, hs.2 port rfl⟩) fun _ _ hs => hs.1
  have hrest (hack : op.acknowledged? = none) :
      Keeps TracedUntil (Traced Told) (op.run (c.platform depth)) := by
    cases op with
    | page op => exact (pageIndifferent.run op).bind fun _ => .pure _
    | vcpu vcpu op => exact (VcpuOperation.keeps_run keeps_onPage vcpu op).bind fun _ => .pure _
    | table op => exact keeps_table hcall (Bool.not_eq_true' _ ▸ hop) hack
    | channels op => exact keeps_channels hcall hack
  cases hack : op.acknowledged? with
  | none => exact Leads.of_pre (hrest hack) fun _ hs => hs.1
  | some port =>
    cases op with
    | page | vcpu => cases hack
    | table op =>
      cases op with
      | acknowledge q =>
        obtain rfl : q = port := Option.some.inj hack
        exact (hacknowledge q).bind fun _ => .pure fun _ => id
      | _ => cases hack
    | channels op =>
      cases op with
      | acknowledge q =>
        obtain rfl : q = port := Option.some.inj hack
        exact (hacknowledge q).bind fun _ => .pure fun _ => id
      | _ => cases hack

theorem keeps_logged {op : Operation} (hop : op.leavesWork = true) :
    Keeps TracedUntil (Traced Told) (op.logged (c.platform depth) depth) := by
  have hbegan : Leads TracedUntil (Traced Told) (record (.began depth op)) fun _ s =>
      Traced Told s ∧ ∀ port, op.acknowledged? = some port → s.outside.isMarked port = false := by
    apply Leads.record
    intro state before hs
    refine ⟨hs.cons (fun _ => rfl) (fun _ => Entry.unmarks_ne) trivial, fun port hport => ?_⟩
    change History.isMarked port (_ :: before) = false
    rw [History.isMarked_cons, Entry.marks?, if_pos hport, Option.getD_some]
  have hended (result : Except ChannelError Report) : Leads TracedUntil
      (fun s => Traced Told s ∧ (op.bringsDown = true → QueuedAmong [] s))
      (record (.ended depth op result)) fun _ => Traced Told := by
    apply Leads.record
    rintro state before ⟨hs, hnone⟩
    refine hs.cons (fun _ => rfl) (fun _ => (Option.some_ne_none true).symm) fun hdown port => ?_
    exact Bool.eq_false_iff.2 fun hqueued => List.not_mem_nil (hnone hdown port hqueued)
  apply Operation.keeps_logged hbegan _ hended
  cases hdown : op.bringsDown with
  | true =>
    have hpage : PageIndifferent (c.platform depth) TracedUntil (Traced Told) := pageIndifferent
    have hquiesce : Keeps TracedUntil (Traced Told) (quiesce : Guest History Unit) :=
      keeps_quiesce (keeps_modifyChannels fun _ => rfl) (hpage.modifyPage _)
    apply Leads.weaken (Operation.leads_bringDown (stable hcall) hquiesce keeps_cancel
      (keeps_modifyChannels fun _ => rfl) hdown) (fun _ hs => hs.1)
    exact fun _ _ hs => ⟨hs.1, fun _ => hs.2⟩
  | false =>
    exact (leads_run hcall hop hdown).of_post fun _ _ hs => ⟨hs, fun h => absurd h Bool.false_ne_true⟩

end Calls

theorem maintains
    (hc : ∀ r history, (c.respond r history).Within fun op => op.leavesWork = true) (limit : Nat) :
    c.Maintains limit TracedUntil (fun _ : Unit => Traced Told) (fun _ => Ready)
      fun _ op => op.leavesWork = true where
  respond _ r s _ := hc r s.outside
  called _ _ r := leads_called r
  answered _ _ r reply := keeps_answered r reply
  logged _ _ hcall _ _ hop := keeps_logged (hcall ()) hop

theorem of_start
    (hc : ∀ r history, (c.respond r history).Within fun op => op.leavesWork = true) (depth : Nat)
    {α : Type} {program : Program α} (hprogram : program.Within fun op => op.leavesWork = true)
    {page : SharedPage} {config : Config} {start : Channels}
    (hstart : Channels.ofPage page config = .ok start) :
    (c.history depth program start).Always Entry.TracesWork := by
  obtain ⟨_, rfl⟩ := Channels.eq_of_ofPage hstart
  have hbegin : Traced Told ⟨⟨page, .powerOn, config, true, false, none⟩, []⟩ := by
    refine ⟨fun port => ?_, nofun, .nil⟩
    exact congrArg Slot.kind (ActionTable.slot_powerOn port)
  exact (maintains hc (depth + 1)).holds () hprogram hbegin fun _ hs => hs.always

end Traced

/-- A deferred handler is started from the binding that its port has, for work that a scanner pass
called for under the kind that the port had then. That is the kind of the binding unless the port
was bound again since; and a legacy interrupt was outstanding then, and is still unless it was
acknowledged since. -/
def Entry.RunsQueuedWork (entry : Entry) (before : History) : Prop :=
  ∀ handler port, entry.startedDeferred? = some (handler, port) →
    (entry.state.table.kind port).isDeferred = true ∧
    entry.state.table.handler? port (entry.state.table.kind port) = some handler ∧
    ∃ kind state later earlier, before.UsesUp port kind state later earlier ∧
      earlier.Queues state port kind ∧
      (entry.state.table.kind port = kind ∨
        ∃ e ∈ later, e.publishes? port = some (entry.state.table.kind port)) ∧
      (kind = .deferredHardwareIrq → entry.state.table.isOutstanding port = true ∨
        ∃ e ∈ later, e.acknowledges port = true)

/-- A deferred handler is started for work that was queued and then claimed. -/
theorem Entry.exists_usesUp {entry : Entry} {before : History} {handler : HandlerName} {port : Port}
    (hentry : entry.TellsWork before) (hbefore : before.Always Entry.TellsWork)
    (hstart : entry.startedDeferred? = some (handler, port)) :
    ∃ kind state later earlier, before.UsesUp port kind state later earlier := by
  have hclaimed := hentry.startsClaimed.symm.trans hstart
  cases hbefore with
  | nil => cases hclaimed
  | cons latest _ =>
    obtain ⟨depth, claimed, rfl⟩ := Entry.saw_of_claimedHandler? hclaimed
    obtain ⟨later, depth', kind, state, earlier, rfl, hstill⟩ :=
      History.exists_queued_of_isWaiting latest.follows
    exact ⟨kind, state, later, earlier, ⟨depth, claimed, depth', rfl⟩, hstill⟩

/-- Whenever a deferred handler is started, a scanner pass called for the work that it is started for
under the kind of the binding, unless the port was bound again meanwhile; and a legacy interrupt is
outstanding then, unless it was acknowledged meanwhile. -/
theorem deferred_handlers_run_queued_work {c : Client}
    (hc : ∀ r history, (c.respond r history).Within fun op => op.leavesWork = true) (depth : Nat)
    {α : Type} {program : Program α} (hprogram : program.Within fun op => op.leavesWork = true)
    {page : SharedPage} {config : Config} {start : Channels}
    (hstart : Channels.ofPage page config = .ok start) :
    (c.history depth program start).Always Entry.RunsQueuedWork := by
  have htells := (Accounted.of_start c depth program hstart).2.1
  have htraces := Traced.of_start hc depth hprogram hstart
  apply (htells.and htraces).derive
  rintro entry before ⟨hentry, htrace⟩ hbefore handler port hstarted
  obtain ⟨kind, state, later, earlier, hused⟩ :=
    Entry.exists_usesUp hentry (hbefore.mono fun _ _ h => h.1) hstarted
  obtain ⟨_, started, rfl⟩ := Entry.called_of_startedDeferred? hstarted
  have hstarts : before.Starts started handler port := htrace
  have hqueues : earlier.Queues state port kind := by
    obtain ⟨depth, claimed, depth', rfl⟩ := hused.split
    cases hbefore with
    | cons _ hsince =>
      have hqueued : (Entry.saw depth' (.workQueued port kind) state).TracesWork earlier :=
        (hsince.mono fun _ _ h => h.2).of_append
      exact hqueued
  refine ⟨hstarts.deferred, hstarts.found, kind, state, later, earlier, hused, hqueues, ?_, ?_⟩
  · have hkind := hused.kind_eq
    rw [hstarts.published, hqueues.published] at hkind
    exact hkind
  · intro hirq
    cases hack : later.any (Entry.acknowledges port) with
    | true => exact .inr (List.any_eq_true.1 hack)
    | false =>
      have hnone (e : Entry) (he : e ∈ later) : e.acknowledges port = false :=
        Bool.eq_false_iff.2 (List.any_eq_false.1 hack e he)
      exact .inl (hstarts.marked (hused.isMarked_eq hirq hnone))

theorem deferred_handlers_run_queued_work_rebinding :
    (∀ r history, (Client.rebinding.respond r history).Within fun op => op.leavesWork = true) ∧
    (Client.rebinding.history 2
      (.sequence () [.channels .init, .channels (.bindDeferred ⟨7⟩ "ring"), .page (.raise ⟨7⟩ 0),
        .channels .scannerPass, .channels (.bindIrq ⟨7⟩ 9 "legacy" "line"), .channels .deferredPass,
        .page (.raise ⟨7⟩ 0), .channels .scannerPass, .channels (.acknowledge ⟨7⟩),
        .channels .deferredPass])
      ⟨.zero, .powerOn, { callbackIrq := 5 }, true, false, none⟩).Always Entry.RunsQueuedWork := by
  have hc (r : Request) (history : History) : (Client.rebinding.respond r history).Within fun op =>
      op.leavesWork = true := by
    apply Program.within_sequence.2
    cases r with
    | handle =>
      simp only [List.forall_mem_cons]
      exact ⟨rfl, rfl, rfl, rfl, nofun⟩
    | _ => exact fun _ hop => absurd hop List.not_mem_nil
  have hstart : Channels.ofPage .zero { callbackIrq := 5 } =
      .ok ⟨.zero, .powerOn, { callbackIrq := 5 }, true, false, none⟩ := rfl
  exact ⟨hc, deferred_handlers_run_queued_work hc 2 (Program.within_sequence.2 (by decide)) hstart⟩

/-- As `RunsQueuedWork`, without regard to ports that are bound again: the work that a deferred
handler is started for was queued under the kind of the binding. -/
def Entry.RunsAsQueued (entry : Entry) (before : History) : Prop :=
  ∀ handler port, entry.startedDeferred? = some (handler, port) →
    ∃ state later earlier,
      before.UsesUp port (entry.state.table.kind port) state later earlier ∧
      earlier.Queues state port (entry.state.table.kind port)

/-- A legacy interrupt that is started unmarked, and never acknowledged, was not queued as such. -/
theorem Client.not_runsAsQueued {c : Client} {depth : Nat} {α : Type} {program : Program α}
    {start : Channels} {handler : HandlerName} {port : Port}
    (h : StartsUnmarked handler port (c.finish depth program start))
    (htraces : (c.history depth program start).Always Entry.TracesWork)
    (hack : ∀ entry ∈ c.history depth program start, entry.acknowledges port = false) :
    ¬(c.history depth program start).Always Entry.RunsAsQueued := by
  intro halways
  obtain ⟨later, n, state, before, hs, hkind, hmark⟩ := h
  rw [history, hs] at halways htraces hack
  obtain ⟨queued, since, earlier, hused, -⟩ := halways.of_append handler port rfl
  have hstarts : History.Starts before state handler port := htraces.of_append
  have hkept (entry : Entry) (hentry : entry ∈ since) : entry.acknowledges port = false := by
    obtain ⟨_, _, _, hsplit⟩ := hused.split
    apply hack
    rw [hsplit]
    exact List.mem_append_right _ (List.mem_cons_of_mem _ (List.mem_cons_of_mem _
      (List.mem_append_left _ hentry)))
  have hmarked := hstarts.marked (hused.isMarked_eq hkind hkept)
  rw [hmark] at hmarked
  cases hmarked

/-- Port 7 is bound again while its work is queued. -/
def Program.rebinding : Program Unit :=
  sequence () [.channels .init, .channels (.bindDeferred ⟨7⟩ "ring"), .page (.raise ⟨7⟩ 0),
    .channels .scannerPass, .channels (.bindIrq ⟨7⟩ 9 "legacy" "line"), .channels .deferredPass]

theorem starts_unmarked_rebinding : StartsUnmarked "line" ⟨7⟩
    ((Client.granting 3 fun _ => []).finish 0 .rebinding
      ⟨.zero, .powerOn, { callbackIrq := 5 }, true, false, none⟩) := by
  let c : Client := .granting 3 fun _ => []
  let start : Channels := ⟨.zero, .powerOn, { callbackIrq := 5 }, true, false, none⟩
  let ready : Channels := start.reserved ⟨3⟩
  let bound : Channels := { ready with
    table := ready.table.bindAt ⟨7⟩ (.deferredProcedure "ring")
    page := ready.page.clearMask 0 7 }
  let due : Channels := { bound with page := bound.page.arrive 0 (.delivery 0 7) }
  let calls : List Request := [.setParam .callbackIrq 5, .hypercall (.bindIpi 0)]
  let lost : System History → Prop := StartsUnmarked "line" ⟨7⟩
  have hinit : Leads lost (Held (History.Made []) start)
      ((Operation.channels .init).logged (c.platform 0) 0) fun _ =>
      Held (History.Made calls) ready := by
    have hfree (p : Port) : (start.table.slot p).readers = 0 :=
      congrArg Slot.readers (ActionTable.slot_powerOn p)
    apply Operation.held_logged
    exact (Client.held_init rfl hfree).bind fun _ => .pure fun _ hs => hs.2
  have hbind : Leads lost (Held (History.Made calls) ready)
      ((Operation.channels (.bindDeferred ⟨7⟩ "ring")).logged (c.platform 0) 0)
      fun _ => Held (History.Made calls) bound := by
    have hfree : (ready.table.slot ⟨7⟩).readers = 0 := by decide +kernel
    have hclear : ready.page.isPending ⟨7⟩ = false := by decide +kernel
    apply Operation.held_logged
    exact (held_attach Client.made_observe hfree hclear _).bind fun _ => .pure fun _ hs => hs.2
  have hraise : Leads lost (Held (History.Made calls) bound)
      ((Operation.page (.raise ⟨7⟩ 0)).logged (c.platform 0) 0)
      fun _ => Held (History.Made calls) due := by
    have hseen (w b : Fin 64) (state : Channels) (history : History) (h : history.Made calls) :
        ((c.platform 0).observe (.raised w b) state history).Made calls :=
      Client.made_observe _ state history h
    apply Operation.held_logged
    exact (PageOperation.held_raiseAt hseen 0 7 0).bind fun _ => .pure fun _ hs => hs.2
  have hrebound : Leads lost (Held (History.Made calls) due)
      ((Program.sequence () [.channels .scannerPass,
        .channels (.bindIrq ⟨7⟩ 9 "legacy" "line"), .channels .deferredPass]).run (c.platform 0) 0)
      fun _ => StartsUnmarked "line" ⟨7⟩ := by
    have hports : due.page.duePorts 0 = [⟨7⟩] := by decide +kernel
    have hkind : due.table.kind ⟨7⟩ = .deferredProcedure := by decide +kernel
    have hfree : (due.table.slot ⟨7⟩).readers = 0 := by decide +kernel
    have hmark : due.table.isOutstanding ⟨7⟩ = false := by decide +kernel
    have hidle (p : Port) : due.table.isQueued p = false := by
      change ((ActionTable.powerOn.bindAt ⟨3⟩ .suspend).bindAt ⟨7⟩
        (.deferredProcedure "ring")).isQueued p = false
      rw [ActionTable.isQueued_bindAt, ActionTable.isQueued_bindAt, ActionTable.isQueued_powerOn]
    exact leads_rebound rfl rfl hports hkind hfree hidle hmark (by decide)
  have hrun : Leads lost (Held (History.Made []) start) (Program.rebinding.run (c.platform 0) 0)
      fun _ => StartsUnmarked "line" ⟨7⟩ :=
    Program.leads_sequence_cons hinit (Program.leads_sequence_cons hbind
      (Program.leads_sequence_cons hraise hrebound))
  have hbegin : Held (History.Made []) start ⟨start, []⟩ := ⟨rfl, rfl⟩
  have hfinish : lost (c.finish 0 .rebinding start) := Client.finish_of_leads hrun hbegin
  exact hfinish

/-- The work of port 7 is queued for a deferred procedure, and run for the legacy interrupt as which the
port is bound next. -/
theorem not_runsAsQueued_rebinding :
    ¬((Client.granting 3 fun _ => []).history 0 .rebinding
      ⟨.zero, .powerOn, { callbackIrq := 5 }, true, false, none⟩).Always Entry.RunsAsQueued := by
  have hc (r : Request) (history : History) {allowed : Operation → Prop} :
      ((Client.granting 3 fun _ => []).respond r history).Within allowed :=
    Program.within_sequence.2 fun _ hop => absurd hop List.not_mem_nil
  have hprogram : Program.rebinding.Within fun op => op.leavesWork = true :=
    Program.within_sequence.2 (by decide)
  have hack : Program.rebinding.Within fun op => op.acknowledged? ≠ some ⟨7⟩ :=
    Program.within_sequence.2 (by decide)
  have hstart : Channels.ofPage .zero { callbackIrq := 5 } =
      .ok ⟨.zero, .powerOn, { callbackIrq := 5 }, true, false, none⟩ := rfl
  exact Client.not_runsAsQueued starts_unmarked_rebinding
    (Traced.of_start (fun r history => hc r history) 0 hprogram hstart)
    (History.acknowledges_eq_false (fun r history => hc r history) 0 hack _)

end EventChannel
