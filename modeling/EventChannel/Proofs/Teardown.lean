import EventChannel.Proofs.DeferredWork.Invariant
import EventChannel.Proofs.Teardown.Table

namespace EventChannel

open Guest

namespace Closed

/-- Before a call interrupts need not be masked while the event channels are brought up, and a
deferred handler is one that may be started. -/
def Ready (n : Nat) (r : Request) (s : System History) : Prop :=
  Closed n (n = 0) True s ∧
    ∀ handler port, r.deferred? = some (handler, port) → s.outside.MayStart port

variable {c : Client} {depth : Nat} {n : Nat}

theorem leads_called (r : Request) : Leads ClosedUntil (Ready n r) (record (.called depth r))
    fun _ => Closed n True True := by
  apply Leads.record
  intro state before hs
  obtain ⟨hs, hstarts⟩ := hs
  refine hs.cons id rfl hs.bringUps rfl rfl ?_
  rw [Entry.startedDeferred?_called]
  exact hstarts

theorem keeps_answered (r : Request) (reply : r.Reply) :
    Keeps ClosedUntil (Closed n True True) (record (.answered depth r reply)) :=
  Leads.record fun _ _ hs => hs.cons (fun _ => trivial) rfl hs.bringUps rfl rfl nofun

section Calls

variable (hcall : ∀ n r, Leads ClosedUntil (Ready n r) (call (c.platform depth) r)
  fun _ => Closed n True True)

include hcall

theorem leads_call {r : Request} (hr : r.deferred? = none) :
    Leads ClosedUntil (Closed n (n = 0) True) (call (c.platform depth) r)
      fun _ => Closed n True True := by
  apply (hcall n r).of_pre
  intro s hs
  refine ⟨hs, fun handler port hsome => ?_⟩
  rw [hr] at hsome
  cases hsome

theorem keeps_call {r : Request} (hr : r.deferred? = none) :
    Keeps ClosedUntil (Closed n True True) (call (c.platform depth) r) :=
  (leads_call hcall hr).of_pre fun _ hs => hs.weaken (fun _ => trivial) id

theorem stable : Stable (c.platform depth) ClosedUntil (Closed n True True) :=
  ⟨fun r hr _ _ => keeps_call hcall (r.deferred?_eq_none hr), keepsRemarks⟩

theorem keeps_consume (word bit : Fin 64) :
    Keeps ClosedUntil (Closed n True True) (consume (c.platform depth) word bit) := by
  have hstable := stable (n := n) hcall
  have hrequest : Keeps ClosedUntil (Closed n True True) (call (c.platform depth) .queueDeferred) :=
    keeps_call hcall rfl
  have hslots : SlotIndifferent (c.platform depth) ClosedUntil (Closed n True True) :=
    slotIndifferent
  have hservice (port : Port) (kind : Kind) :
      Keeps ClosedUntil (Closed n True True) (service (c.platform depth) port kind) :=
    keeps_service_of_kinds hstable
      (fun _ => keeps_service_normal hstable fun _ => keeps_call hcall rfl)
      (keeps_setOutstanding port) (keeps_postpone_of_open hstable hrequest (leads_enqueue_of_open port))
      (leads_service_suspend leads_broadcast (leads_tellBroadcast port) hrequest fun _ => id)
  exact Guest.keeps_consume hstable (keeps_onPage _) (keeps_emit _) fun port =>
    keeps_deliver (hslots.countDelivery port) (fun _ _ => keeps_emit _) (hservice port)

/-- A deferred run that is in the middle of a word goes on with its items though a teardown may end
while it waits for one. -/
theorem keeps_runItem (port : Port) : Keeps ClosedUntil
    (fun s => Closed n True True s ∧ Surrounded (History.TookBefore depth port.word) s)
    (runItem (c.platform depth) port) := by
  have htook (e : Event) : Keeps (fun _ => True) (Surrounded (History.TookBefore depth port.word))
      (emit (c.platform depth) e) := Client.leads_emit fun _ _ hs => hs.cons rfl rfl
  have hclaim : Leads ClosedUntil
      (fun s => Closed n True True s ∧ Surrounded (History.TookBefore depth port.word) s)
      (onTable fun t => t.claim port) fun found s =>
        (Closed n True True s ∧ (found = true → s.outside.IsExcused)) ∧
          Surrounded (History.TookBefore depth port.word) s :=
    Leads.and ((leads_claim port).of_pre fun _ hs => hs.1) (Leads.onTable fun _ _ hs => hs.2)
  have hseen : Leads ClosedUntil
      (fun s => Closed n True True s ∧ s.outside.IsExcused ∧
        Surrounded (History.TookBefore depth port.word) s)
      (emit (c.platform depth) (.workClaimed port)) fun _ s =>
        (Closed n True True s ∧ s.outside.MayStart port) ∧
          Surrounded (History.TookBefore depth port.word) s := by
    have hstart : Leads ClosedUntil
        (fun s => Closed n True True s ∧ s.outside.IsExcused ∧
          Surrounded (History.TookBefore depth port.word) s)
        (emit (c.platform depth) (.workClaimed port)) fun _ s => s.outside.MayStart port :=
      Client.leads_emit fun _ _ hs => .of_claim hs.2.1 hs.2.2
    exact ((Leads.of_pre (keeps_emit _) fun _ hs => hs.1).and hstart).and_of_any
      (Leads.of_pre (htook _) fun _ hs => hs.2.2)
  apply leads_runItem_of_claim _ hseen
  · intro handler
    have hwait : Keeps (fun _ => True) (Surrounded (History.TookBefore depth port.word))
        (call (c.platform depth) (.handle .deferred handler port)) := by
      let waiting (history : History) : Prop :=
        history.awaits depth port.word = true ∧ history.TookBefore depth port.word
      have hcalled (state : Channels) (before : History) (hs : before.TookBefore depth port.word) :
          waiting (.called depth (.handle .deferred handler port) state :: before) :=
        ⟨(if_pos rfl).trans (decide_eq_true rfl), hs.cons rfl rfl⟩
      exact Client.leads_call_of_below hcalled (fun _ _ => History.TookBefore.cons_below)
        (fun _ _ => trivial) fun _ _ _ hs => hs.2.cons rfl rfl
    have hclosed : Leads ClosedUntil (fun s => Closed n True True s ∧ s.outside.MayStart port)
        (call (c.platform depth) (.handle .deferred handler port)) fun _ => Closed n True True := by
      apply (hcall n (.handle .deferred handler port)).of_pre
      rintro s ⟨hs, hmay⟩
      refine ⟨hs.weaken (fun _ => trivial) id, ?_⟩
      rintro _ _ ⟨⟩
      exact hmay
    exact (hclosed.of_pre fun _ hs => hs.1.1).and_of_any (Leads.of_pre hwait fun _ hs => hs.1.2)
  · exact fun n _ => (Leads.of_pre (keeps_emit _) fun _ hs => hs.1.1.1).and_of_any
      (Leads.of_pre (htook _) fun _ hs => hs.1.2)
  · apply hclaim.of_post
    rintro found s ⟨⟨hs, hexcused⟩, htook⟩
    cases found with
    | false => exact ⟨hs, htook⟩
    | true => exact ⟨hs, hexcused rfl, htook⟩

/-- A word is taken while interrupts are not masked, so the event channels are not down. -/
theorem leads_runWord (word : Fin 16) : Leads ClosedUntil
    (fun s => Closed n True True s ∧ s.channels.interruptsMasked = false)
    (runWord (c.platform depth) word) fun _ => Closed n True True := by
  have htake : Leads ClosedUntil
      (fun s => Closed n True True s ∧ s.channels.interruptsMasked = false)
      (onTable fun t => t.takeWord word) fun _ s =>
        Closed n True True s ∧ Surrounded (History.TookBefore depth word) s := by
    have hkeep : Keeps ClosedUntil (Closed n True True) (onTable fun t => t.takeWord word) :=
      keeps_onTable fun _ _ => id
    apply (Leads.of_pre hkeep fun _ hs => hs.1).and
    apply Leads.onTable
    intro state history hs
    exact fun hdown => absurd (hs.1.masked_of_isDown hdown) (Bool.eq_false_iff.1 hs.2)
  have hword := Guest.leads_runWord htake fun port hport => hport ▸ keeps_runItem hcall port
  exact hword.of_post fun _ _ hs => hs.1

theorem parts : ChannelOperation.Parts (c.platform depth) ClosedUntil (Closed n True True) :=
  slotIndifferent.channels (stable hcall) pageIndifferent

theorem keeps_init (hn : n ≠ 0) :
    Keeps ClosedUntil (Closed n True True) (Guest.init (c.platform depth)) := by
  -- Delivery is enabled before the call for the port, whose entry shows it.
  have hreserve : Leads ClosedUntil (Closed n False True) (reserveSuspendPort (c.platform depth))
      fun _ => Closed n True True :=
    leads_reserveSuspendPort_of_call (stable hcall)
      (fun _ => (leads_call hcall rfl).of_pre fun _ hs => hs.weaken hn id)
      (fun port => slotIndifferent.publish port _) (parts hcall).unmask
  exact Guest.keeps_init (stable hcall) leads_quiesce keeps_setSuspendPort (keeps_modifyPage _)
    (keeps_resetTable slotIndifferent.resetSlot) pageIndifferent.discardPending (keeps_modifyPage _)
    leads_openInterrupts hreserve

theorem keeps_channels {op : ChannelOperation}
    (hdown : (Operation.channels op).bringsDown = false)
    (hup : (Operation.channels op).bringsUp = true → n ≠ 0) :
    Keeps ClosedUntil (Closed n True True) (op.run (c.platform depth)) := by
  apply (parts hcall).run
  · intro hlifecycle
    cases op with
    | init => exact (keeps_init hcall (hup rfl)).bind fun _ => .pure _
    | resume =>
      have hresume : Keeps ClosedUntil (Closed n True True) (Guest.resume (c.platform depth)) :=
        (keeps_emit _).bind fun _ => keeps_init hcall (hup rfl)
      exact hresume.bind fun _ => .pure _
    | suspend | shutdown => cases hdown
    | _ => cases hlifecycle
  · exact ChannelOperation.keeps_line (stable hcall)
      (fun r hr => keeps_call hcall (r.deferred?_eq_none (Request.startsHandler_of_line hr)))
      fun _ => keeps_modifyChannels (fun _ => rfl) fun _ => rfl
  · intro _
    apply keeps_scannerPass (stable hcall) (fun _ => keeps_onPage _) fun _ => keeps_onPage _
    exact fun word bit => Leads.of_pre (keeps_consume hcall word bit) fun _ hs => hs.1
  · intro _
    exact keeps_deferredPass_of_open (stable hcall) (leads_runWord hcall)
  · exact fun _ _ => keeps_onTable fun _ _ => id

theorem keeps_run {op : Operation} (hop : op.leavesWork = true) (hdown : op.bringsDown = false)
    (hup : op.bringsUp = true → n ≠ 0) :
    Keeps ClosedUntil (Closed n True True) (op.run (c.platform depth)) := by
  cases op with
  | page op => exact (pageIndifferent.run op).bind fun _ => .pure _
  | vcpu vcpu op => exact (VcpuOperation.keeps_run keeps_onPage vcpu op).bind fun _ => .pure _
  | table op => exact slotIndifferent.table_of_idle (stable hcall) (Bool.not_eq_true' _ ▸ hop)
  | channels op => exact keeps_channels hcall hdown hup

theorem keeps_logged {op : Operation} (hop : op.leavesWork = true) :
    Keeps ClosedUntil (Closed n True True) (op.logged (c.platform depth) depth) := by
  have hended (result : Except ChannelError Report) (state : Channels) (before : History)
      (h : before.bringUps = n + op.bringsUp.toNat) :
      History.bringUps (.ended depth op result state :: before) = n := by
    rw [History.bringUps, History.openCount_ended, ← History.bringUps, h, Nat.add_sub_cancel]
  cases hdown : op.bringsDown with
  | true =>
    have hbegan : Leads ClosedUntil (Closed n True True) (record (.began depth op)) fun _ =>
        Closed (n + op.bringsUp.toNat) False True := Leads.record fun _ _ hs => hs.began depth op
    have hrun : Leads ClosedUntil (Closed (n + op.bringsUp.toNat) False True)
        (op.run (c.platform depth)) fun _ s =>
        Closed (n + op.bringsUp.toNat) True True s ∧ QueuedAmong [] s :=
      Operation.leads_bringDown (stable hcall) leads_quiesce keeps_cancel (keeps_setSuspendPort none)
        hdown
    apply Operation.keeps_logged hbegan hrun
    intro result
    apply Leads.record
    intro state before hs
    obtain ⟨hs, hnone⟩ := hs
    exact hs.log (fun _ => trivial) rfl (hended result state before hs.bringUps) rfl nofun
      fun _ => .inr hnone
  | false =>
    have hbegan : Leads ClosedUntil (Closed n True True) (record (.began depth op)) fun _ =>
        Closed (n + op.bringsUp.toNat) True True := by
      apply Leads.record
      intro state before hs
      have hcount := History.openCount_began Operation.bringsUp depth op state before
      exact hs.cons (fun _ => trivial) rfl (hs.bringUps ▸ hcount) hdown rfl nofun
    have hcounted (hup : op.bringsUp = true) : n + op.bringsUp.toNat ≠ 0 := by
      rw [hup]
      exact Nat.succ_ne_zero n
    apply Operation.keeps_logged hbegan (keeps_run hcall hop hdown hcounted)
    intro result
    apply Leads.record
    intro state before hs
    exact hs.cons (fun _ => trivial) rfl (hended result state before hs.bringUps) rfl hdown nofun

end Calls

theorem maintains
    (hc : ∀ r history, (c.respond r history).Within fun op => op.leavesWork = true) (limit : Nat) :
    c.Maintains limit ClosedUntil (fun n => Closed n True True) Ready
      fun _ op => op.leavesWork = true where
  respond _ r s _ := hc r s.outside
  called _ _ r := leads_called r
  answered _ _ r reply := keeps_answered r reply
  logged _ _ hcall _ _ hop := keeps_logged hcall hop

end Closed

/-- Once the event channels have been brought down no deferred handler is started until they are
brought up again, however operations are nested, unless a scanner pass broadcasts a suspend event and
a deferred run that was in the middle of a word as they were brought down goes on with it; interrupts
stay masked meanwhile. -/
theorem no_deferred_handler_after_teardown {c : Client}
    (hc : ∀ r history, (c.respond r history).Within fun op => op.leavesWork = true) (depth : Nat)
    {α : Type} {program : Program α} (hprogram : program.Within fun op => op.leavesWork = true)
    {page : SharedPage} {config : Config} {start : Channels}
    (hstart : Channels.ofPage page config = .ok start) :
    (c.history depth program start).Always Entry.RespectsTeardown := by
  obtain ⟨_, rfl⟩ := Channels.eq_of_ofPage hstart
  have hbegin : Closed 0 True True ⟨⟨page, .powerOn, config, true, false, none⟩, []⟩ :=
    ⟨rfl, .nil, fun _ => nofun, fun _ => .inl nofun⟩
  exact (Closed.maintains hc (depth + 1)).holds 0 hprogram hbegin fun _ hs => hs.always

/-- A client whose handlers start both kinds of pass, bring the event channels down and start both
kinds of pass again. -/
def Client.closing : Client :=
  granting 3 fun
    | .handle _ _ port => [.page (.raise port 0), .channels .scannerPass, .channels .deferredPass,
        .channels .shutdown, .channels .scannerPass, .channels .deferredPass]
    | _ => []

theorem no_deferred_handler_after_teardown_closing :
    (∀ r history, (Client.closing.respond r history).Within fun op => op.leavesWork = true) ∧
    (Client.closing.history 2
      (.sequence () [.channels .init, .channels (.bindInline ⟨6⟩ "inline"),
        .channels (.bindDeferred ⟨7⟩ "service"), .page (.raise ⟨6⟩ 0), .page (.raise ⟨7⟩ 0),
        .channels .scannerPass, .channels .deferredPass])
      ⟨.zero, .powerOn, { callbackIrq := 5 }, true, false, none⟩).Always
        Entry.RespectsTeardown := by
  have hc : ∀ r history, (Client.closing.respond r history).Within fun op =>
      op.leavesWork = true := by
    intro r history
    apply Program.within_sequence.2
    cases r with
    | handle =>
      simp only [List.forall_mem_cons]
      exact ⟨rfl, rfl, rfl, rfl, rfl, rfl, nofun⟩
    | _ => exact fun _ hop => absurd hop List.not_mem_nil
  have hprogram : (Program.sequence () [.channels .init, .channels (.bindInline ⟨6⟩ "inline"),
      .channels (.bindDeferred ⟨7⟩ "service"), .page (.raise ⟨6⟩ 0), .page (.raise ⟨7⟩ 0),
      .channels .scannerPass, .channels .deferredPass]).Within fun op => op.leavesWork = true := by
    apply Program.within_sequence.2
    simp only [List.forall_mem_cons]
    exact ⟨rfl, rfl, rfl, rfl, rfl, rfl, rfl, nofun⟩
  have hstart : Channels.ofPage .zero { callbackIrq := 5 } =
      .ok ⟨.zero, .powerOn, { callbackIrq := 5 }, true, false, none⟩ := rfl
  exact ⟨hc, no_deferred_handler_after_teardown hc 2 hprogram hstart⟩

end EventChannel
