import EventChannel.Proofs.DeferredWork.Pass

namespace EventChannel

open Guest

namespace Attended

/-- Interrupts are masked, and nothing is queued on ports beyond the list. -/
def QueuedAmong (ports : List Port) (s : System History) : Prop :=
  s.channels.interruptsMasked = true ∧
    ∀ port, s.channels.table.isQueued port = true → port ∈ ports

variable {c : Client} {depth : Nat} {frames : List Frame}

section Reset

theorem queuedAmong_modifySlot {ports : List Port} {port : Port} {f : Slot → Slot}
    (h : ∀ s, (f s).work = s.work) : Keeps AttendedUntil (QueuedAmong ports)
      (modifyTable fun t => t.modifySlot port f) := by
  apply Leads.modifyTable
  intro state history hs
  obtain ⟨hmasked, hqueued⟩ := hs
  refine ⟨hmasked, fun q hq => hqueued q ?_⟩
  exact (state.table.isQueued_modifySlot port q h).symm.trans hq

theorem queuedAmong_emit {ports : List Port} {e : Event} :
    Keeps AttendedUntil (QueuedAmong ports) (emit (c.platform depth) e) :=
  Client.leads_emit fun _ _ hs => hs

theorem queuedAmong_resetSlot (port : Port) (ports : List Port) :
    Leads AttendedUntil (QueuedAmong (port :: ports)) (resetSlot (c.platform depth) port)
      fun _ => QueuedAmong ports := by
  have hwork : Leads AttendedUntil (QueuedAmong (port :: ports)) (onTable fun t => t.cancel port)
      fun _ => QueuedAmong ports := by
    apply Leads.onTable
    intro state history hs
    obtain ⟨hmasked, hqueued⟩ := hs
    refine ⟨hmasked, fun q hq => ?_⟩
    change (state.table.cancel port).2.isQueued q = true at hq
    rw [ActionTable.isQueued_cancel] at hq
    split at hq
    · cases hq
    next hne => exact (List.mem_cons.1 (hqueued q hq)).resolve_left fun he => hne he.symm
  have hcancel : Leads AttendedUntil (QueuedAmong (port :: ports)) (cancel (c.platform depth) port)
      fun _ => QueuedAmong ports :=
    hwork.bind fun _ => Leads.bind queuedAmong_emit fun _ => .pure fun _ => id
  have hack : Keeps AttendedUntil (QueuedAmong ports) (onTable fun t => t.acknowledge port) :=
    Leads.onTable fun _ _ => id
  exact leads_resetSlot (queuedAmong_modifySlot fun _ => rfl) hcancel
    (queuedAmong_modifySlot fun _ => rfl) hack queuedAmong_emit (fun _ _ => queuedAmong_emit)
    (queuedAmong_modifySlot fun _ => rfl)

theorem leads_resetSlots (ports : List Port) : Leads AttendedUntil
    (fun s => Attended frames s ∧ QueuedAmong ports s) (resetSlots (c.platform depth) ports)
    fun reset s => Attended frames s ∧ (reset = .ok () → QueuedAmong [] s) := by
  induction ports with
  | nil => exact .pure fun s hs => ⟨hs.1, fun _ => hs.2⟩
  | cons port ports ih =>
    have hport : Leads AttendedUntil
        (fun s => Attended frames s ∧ QueuedAmong (port :: ports) s)
        (resetSlot (c.platform depth) port) fun _ s => Attended frames s ∧ QueuedAmong ports s :=
      (Leads.of_pre (slotIndifferent.resetSlot port) fun s hs => hs.1).and
        ((queuedAmong_resetSlot port ports).of_pre fun s hs => hs.2)
    apply hport.bind
    intro reset
    cases reset with
    | error e => exact .pure fun s hs => ⟨hs.1, nofun⟩
    | ok _ => exact ih

end Reset

theorem keeps_quiesce : Keeps AttendedUntil (Attended frames) (quiesce : Guest History Unit) :=
  Guest.keeps_quiesce keeps_maskInterrupts (keeps_modifyPage _)

theorem keeps_setSuspendPort (port : Option Port) :
    Keeps AttendedUntil (Attended frames) (setSuspendPort port) :=
  keeps_modifyChannels (fun _ => rfl) fun _ => rfl

theorem leads_resetTable : Leads AttendedUntil
    (fun s => Attended (.lifecycle false :: frames) s ∧ s.channels.interruptsMasked = true)
    (resetTable (c.platform depth)) fun reset s => match reset with
      | .ok _ => Attended (.lifecycle true :: frames) s
      | .error _ => Attended (.lifecycle false :: frames) s := by
  have hreset : Leads AttendedUntil
      (fun s => Attended (.lifecycle false :: frames) s ∧ QueuedAmong Port.all s)
      (resetTable (c.platform depth)) fun reset s => Attended (.lifecycle false :: frames) s ∧
        (reset = .ok () → QueuedAmong [] s) := leads_resetSlots Port.all
  apply hreset.weaken fun s hs => ⟨hs.1, hs.2, fun port _ => port.mem_all⟩
  rintro (e | _) s ⟨hs, hnone⟩
  · exact hs
  · obtain ⟨hmasked, hqueued⟩ := hnone rfl
    refine ⟨hs.attending.exchange rfl (fun _ _ => id) (fun _ _ _ => False.elim) fun _ => ?_,
      hs.always⟩
    refine ⟨hmasked, fun port => Bool.eq_false_iff.2 fun hport => ?_⟩
    exact absurd (hqueued port hport) List.not_mem_nil

theorem relax {s : System History} (hs : Attended (.lifecycle true :: frames) s) :
    Attended (.lifecycle false :: frames) s :=
  ⟨hs.attending.exchange rfl (fun _ _ => id) (fun _ _ _ => False.elim) nofun, hs.always⟩

/-- Delivery is enabled only while nothing is queued. -/
theorem leads_openInterrupts (hrest : .lifecycle true ∉ frames) : Leads AttendedUntil
    (Attended (.lifecycle true :: frames)) (setInterruptsMasked false) fun _ =>
    Attended (.lifecycle false :: frames) := by
  constructor
  rintro ⟨state, history⟩ hs
  have hnone := (hs.attending.calm List.mem_cons_self).2
  have habsurd {p : Prop} (port : Port) (hport : state.table.isQueued port = true) : p := by
    rw [hnone port] at hport
    cases hport
  exact ⟨⟨fun port hport => habsurd port hport, fun _ port hport => habsurd port hport,
    fun hmem => absurd ((List.mem_cons.1 hmem).resolve_left nofun) hrest,
    hs.attending.running, hs.attending.lifecycles⟩, hs.always⟩

section Calls

variable (hcall : ∀ frames r,
  Leads AttendedUntil (Ready frames r) (call (c.platform depth) r) fun _ => Attended frames)

include hcall

theorem parts : ChannelOperation.Parts (c.platform depth) AttendedUntil (Attended frames) :=
  slotIndifferent.channels (stable hcall) pageIndifferent

theorem keeps_init (hrest : .lifecycle true ∉ frames) :
    Keeps AttendedUntil (Attended (.lifecycle false :: frames)) (Guest.init (c.platform depth)) := by
  have hquiesce : Leads AttendedUntil (Attended (.lifecycle false :: frames))
      (quiesce : Guest History Unit) fun _ s =>
      Attended (.lifecycle false :: frames) s ∧ s.channels.interruptsMasked = true :=
    Leads.and keeps_quiesce ⟨fun _ _ => rfl⟩
  have hport (port : Option Port) : Keeps AttendedUntil (fun s =>
      Attended (.lifecycle false :: frames) s ∧ s.channels.interruptsMasked = true)
      (setSuspendPort port) := (keeps_setSuspendPort port).and ⟨fun _ => id⟩
  have hmaskAll : Keeps AttendedUntil (fun s =>
      Attended (.lifecycle false :: frames) s ∧ s.channels.interruptsMasked = true)
      (modifyPage fun s => s.maskAll) := (keeps_modifyPage _).and (Leads.modifyPage fun _ _ => id)
  have hreserve : Keeps AttendedUntil (Attended (.lifecycle false :: frames))
      (reserveSuspendPort (c.platform depth)) :=
    keeps_reserveSuspendPort (stable hcall) (fun port => slotIndifferent.publish port _)
      (parts hcall).unmask
  have hinit := leads_init hquiesce (hport none) hmaskAll leads_resetTable
    pageIndifferent.discardPending (fun value => hcall _ (.setParam .callbackIrq value))
    (keeps_modifyPage _) (leads_openInterrupts hrest) hreserve
    (fun port => keeps_setSuspendPort (some port)) keepsRemarks keeps_quiesce fun _ hs => hs.relax
  apply hinit.of_post
  rintro (e | port) s hs <;> exact hs

theorem keeps_ordinary {op : ChannelOperation} (hlifecycle : op.isLifecycle = false)
    (hdeferred : op ≠ .deferredPass) : Keeps AttendedUntil (Attended (.ordinary false :: frames))
      (op.run (c.platform depth)) := by
  apply (parts hcall).run
  · intro he
    rw [hlifecycle] at he
    cases he
  · exact ChannelOperation.keeps_line (stable hcall)
      (fun r _ => (hcall _ r).of_pre fun _ hs => hs.ready r)
      fun _ => keeps_modifyChannels (fun _ => rfl) fun _ => rfl
  · exact fun _ => keeps_scannerPass hcall
  · exact fun he => absurd he hdeferred
  · exact fun _ _ => keeps_onTable (fun _ _ => id) fun _ _ _ => rfl

theorem keeps_logged {op : Operation} (hop : op.leavesWork = true)
    (hrest : op.isLifecycle = true → frames.countP Frame.isLifecycle = 0) :
    Keeps AttendedUntil (Attended frames) (op.logged (c.platform depth) depth) := by
  have hbegan : Leads AttendedUntil (Attended frames) (record (.began depth op)) fun _ =>
      Attended (.opening op :: frames) :=
    leads_record (fun _ => rfl) fun _ _ hs => hs.began depth op
  have hended {frame : Frame} (hclass : frame.isLifecycle = op.isLifecycle)
      (hcaptured : ∀ port, ¬frame.captures port) (hawaited : ∀ port, ¬frame.awaits port)
      (result : Except ChannelError Report) : Leads AttendedUntil (Attended (frame :: frames))
        (record (.ended depth op result)) fun _ => Attended frames :=
    leads_record (fun _ => rfl) fun _ _ hs => hs.ended hclass hcaptured hawaited depth result
  by_cases hdeferred : op = .channels .deferredPass
  · subst hdeferred
    have hrun : Leads AttendedUntil (Attended (.draining (fun _ => False) (fun _ => True) :: frames))
        ((Operation.channels .deferredPass).run (c.platform depth)) fun _ =>
        Attended (.draining (fun _ => False) (fun _ => False) :: frames) :=
      (leads_deferredPass hcall).bind fun _ => .pure fun _ => id
    exact Operation.keeps_logged hbegan hrun (hended rfl (fun _ => id) fun _ => id)
  rw [Frame.opening_of_ne hdeferred] at hbegan
  cases hlifecycle : op.isLifecycle with
  | true =>
    rw [hlifecycle, if_pos rfl] at hbegan
    have hcalm : .lifecycle true ∉ frames := fun hmem =>
      absurd rfl (List.countP_eq_zero.1 (hrest hlifecycle) _ hmem)
    have hrun : Keeps AttendedUntil (Attended (.lifecycle false :: frames))
        (op.run (c.platform depth)) := by
      cases op with
      | page | vcpu | table => cases hlifecycle
      | channels op =>
        exact (parts hcall).lifecycle (keeps_init hcall hcalm) keeps_quiesce keeps_setSuspendPort
          hlifecycle
    exact Operation.keeps_logged hbegan hrun (hended hlifecycle.symm (fun _ => id) fun _ => id)
  | false =>
    rw [hlifecycle, if_neg Bool.false_ne_true] at hbegan
    have hrun : Keeps AttendedUntil (Attended (.ordinary false :: frames))
        (op.run (c.platform depth)) := by
      cases op with
      | page op => exact (pageIndifferent.run op).bind fun _ => .pure _
      | vcpu vcpu op => exact (VcpuOperation.keeps_run keeps_onPage vcpu op).bind fun _ => .pure _
      | table op => exact slotIndifferent.table_of_idle (stable hcall) (Bool.not_eq_true' _ ▸ hop)
      | channels op => exact keeps_ordinary hcall hlifecycle fun he => hdeferred (by rw [he])
    exact Operation.keeps_logged hbegan hrun
      (hended hlifecycle.symm (fun _ => id) fun _ => Bool.false_ne_true)

end Calls

theorem leads_called {r : Request} : Leads AttendedUntil (Ready frames r)
    (record (.called depth r)) fun _ => Attended frames := by
  cases r with
  | queueDeferred => exact leads_record (fun _ => rfl) fun _ _ hs => hs.requested depth
  | _ => exact leads_record (fun _ => rfl) fun _ _ hs => hs.cons (fun _ => rfl) id

theorem Ready.lifecycles {r : Request} {s : System History} (h : Ready frames r s) :
    s.outside.lifecycles = frames.countP Frame.isLifecycle := by
  cases r with
  | queueDeferred =>
    rw [h.attending.lifecycles]
    unfold Frame.owing
    split <;> rfl
  | _ => exact h.attending.lifecycles

theorem maintains
    (hc : ∀ r history, (c.respond r history).Within fun op =>
      op.leavesWork = true ∧ (op.isLifecycle = true → history.lifecycles = 0)) (limit : Nat) :
    c.Maintains limit AttendedUntil Attended Ready fun frames op => op.leavesWork = true ∧
      (op.isLifecycle = true → frames.countP Frame.isLifecycle = 0) where
  respond frames r s hs := by
    have hwithin := hc r s.outside
    rw [hs.lifecycles] at hwithin
    exact hwithin
  called _ _ _ := leads_called
  answered _ _ _ _ := leads_record (fun _ => rfl) fun _ _ hs => hs.cons (fun _ => rfl) id
  logged _ _ hcall _ _ hop := keeps_logged hcall hop.1 hop.2

end Attended

/-- No deferred work is stranded, however operations are nested, if it is left to the event channels
and they are not brought up or down while they are brought up or down. -/
theorem no_deferred_work_is_stranded {c : Client}
    (hc : ∀ r history, (c.respond r history).Within fun op =>
      op.leavesWork = true ∧ (op.isLifecycle = true → history.lifecycles = 0))
    (depth : Nat) {α : Type} {program : Program α}
    (hprogram : program.Within fun op => op.leavesWork = true) {page : SharedPage}
    {config : Config} {start : Channels} (hstart : Channels.ofPage page config = .ok start) :
    (c.history depth program start).Always Entry.StrandsNothing := by
  obtain ⟨_, rfl⟩ := Channels.eq_of_ofPage hstart
  have hnone (port : Port) (hport : ActionTable.powerOn.isQueued port = true) {p : Prop} : p := by
    rw [ActionTable.isQueued_powerOn] at hport
    cases hport
  have hattending : Attending [] ⟨page, .powerOn, config, true, false, none⟩ [] :=
    ⟨fun port hport => hnone port hport, fun _ port hport => hnone port hport, nofun, rfl, rfl⟩
  have hwithin := hprogram.mono fun op hop => And.intro hop fun _ : op.isLifecycle = true =>
    (List.countP_nil : [].countP Frame.isLifecycle = 0)
  exact (Attended.maintains hc (depth + 1)).holds [] hwithin ⟨hattending, .nil⟩ fun _ hs => hs.always

/-- A client whose handlers raise their event again and start both kinds of pass themselves. -/
def Client.rerunning : Client :=
  granting 3 fun
    | .handle _ _ port => [.page (.raise port 0), .channels .scannerPass, .channels .deferredPass]
    | .setParam _ _ => [.channels .scannerPass]
    | _ => []

theorem no_deferred_work_is_stranded_rerunning :
    (∀ r history, (Client.rerunning.respond r history).Within fun op =>
      op.leavesWork = true ∧ (op.isLifecycle = true → history.lifecycles = 0)) ∧
    (Client.rerunning.history 2
      (.sequence () [.channels .init, .channels (.bindDeferred ⟨7⟩ "service"),
        .page (.raise ⟨7⟩ 0), .channels .scannerPass, .channels .deferredPass, .channels .suspend])
      ⟨.zero, .powerOn, { callbackIrq := 5 }, true, false, none⟩).Always Entry.StrandsNothing := by
  have hc : ∀ r history, (Client.rerunning.respond r history).Within fun op =>
      op.leavesWork = true ∧ (op.isLifecycle = true → history.lifecycles = 0) := by
    intro r history
    apply Program.within_sequence.2
    cases r with
    | handle =>
      simp only [List.forall_mem_cons]
      exact ⟨⟨rfl, nofun⟩, ⟨rfl, nofun⟩, ⟨rfl, nofun⟩, nofun⟩
    | setParam =>
      simp only [List.forall_mem_cons]
      exact ⟨⟨rfl, nofun⟩, nofun⟩
    | _ => exact fun _ hop => absurd hop List.not_mem_nil
  have hprogram : (Program.sequence () [.channels .init, .channels (.bindDeferred ⟨7⟩ "service"),
      .page (.raise ⟨7⟩ 0), .channels .scannerPass, .channels .deferredPass,
      .channels .suspend]).Within fun op => op.leavesWork = true := by
    apply Program.within_sequence.2
    simp only [List.forall_mem_cons]
    exact ⟨rfl, rfl, rfl, rfl, rfl, rfl, nofun⟩
  have hstart : Channels.ofPage .zero { callbackIrq := 5 } =
      .ok ⟨.zero, .powerOn, { callbackIrq := 5 }, true, false, none⟩ := rfl
  exact ⟨hc, no_deferred_work_is_stranded hc 2 hprogram hstart⟩

end EventChannel
