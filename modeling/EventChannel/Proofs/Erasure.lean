import EventChannel.Proofs.Erasure.Steps
import EventChannel.Proofs.History

namespace EventChannel

open Guest

namespace History

/-- Whether a call was answered so. -/
def Answered (history : History) (r : Request) (reply : r.Reply) : Prop :=
  ∃ depth state, Entry.answered depth r reply state ∈ history

/-- Whatever call both histories have, it was answered alike. -/
def AnswersAlike (first second : History) : Prop :=
  ∀ r a b, first.Answered r a → second.Answered r b → a = b

/-- Every answer is one that the client gives to the call. -/
def AnsweredBy (history : History) (c : Client) : Prop :=
  ∀ r a, history.Answered r a → ∃ before, a = c.answer r before

variable {c : Client} {history : History} {r : Request} {reply : r.Reply}

theorem Answered.cons (h : history.Answered r reply) (entry : Entry) :
    Answered (entry :: history) r reply := by
  obtain ⟨depth, state, hmem⟩ := h
  exact ⟨depth, state, List.mem_cons_of_mem _ hmem⟩

theorem answered_saw {depth : Nat} {event : Event} {state : Channels} :
    Answered (.saw depth event state :: history) r reply ↔ history.Answered r reply := by
  constructor
  · rintro ⟨depth', state', hmem⟩
    exact ⟨depth', state', (List.mem_cons.1 hmem).resolve_left nofun⟩
  · exact fun h => h.cons _

theorem answeredBy_nil : AnsweredBy [] c := fun _ _ ⟨_, _, hmem⟩ => absurd hmem List.not_mem_nil

theorem AnsweredBy.saw (h : history.AnsweredBy c) (depth : Nat) (event : Event) (state : Channels) :
    AnsweredBy (.saw depth event state :: history) c :=
  fun r a ha => h r a (answered_saw.1 ha)

theorem AnsweredBy.answered (h : history.AnsweredBy c) (depth : Nat) (r : Request)
    (state : Channels) (before : History) :
    AnsweredBy (.answered depth r (c.answer r before) state :: .called depth r state :: history)
      c := by
  rintro r' a ⟨depth', state', hmem⟩
  rcases List.mem_cons.1 hmem with he | hmem
  · cases he
    exact ⟨before, rfl⟩
  · exact h r' a ⟨depth', state', (List.mem_cons.1 hmem).resolve_left nofun⟩

end History

/-- What initialisation returns for the answers to its request for upcalls and to its allocation. -/
def initOutcome (config : Config) :
    Except Errno Unit → Except Errno UInt32 → Except ChannelError Port
  | .error errno, _ => .error (.hypercall DomainParam.callbackIrq.setterName errno)
  | .ok _, .error errno => .error (.hypercall (Hypercall.bindIpi config.suspendVcpu).name errno)
  | .ok _, .ok number =>
    match Port.ofNumber? number with
    | some port => .ok port
    | none => .error (.portOutOfRange number)

/-- A result of initialisation is what it returns for the answers that it got. -/
structure History.Settles (history : History) (c : Client) (config : Config)
    (result : Except ChannelError Port) : Prop where
  answeredBy : history.AnsweredBy c
  outcome : ∃ set alloc,
    history.Answered (.setParam .callbackIrq config.callbackIrq.toUInt64) set ∧
    (set = .ok () → history.Answered (.hypercall (.bindIpi config.suspendVcpu)) alloc) ∧
    result = initOutcome config set alloc

/-- Answers that are alike settle the result alike. -/
theorem History.Settles.unique {first second : History} {c d : Client} {config : Config}
    {a b : Except ChannelError Port} (ha : first.Settles c config a)
    (hb : second.Settles d config b) (halike : first.AnswersAlike second) : a = b := by
  obtain ⟨set, alloc, hset, halloc, rfl⟩ := ha.outcome
  obtain ⟨set', alloc', hset', halloc', rfl⟩ := hb.outcome
  obtain rfl := halike _ _ _ hset hset'
  cases set with
  | error errno => rfl
  | ok _ =>
    obtain rfl := halike _ _ _ (halloc rfl) (halloc' rfl)
    rfl

namespace Channels

def HasNoReaders (c : Channels) : Prop := ∀ p, (c.table.slot p).readers = 0

/-- Nothing is left of what happened before: all is as after power-on, except that every bit is
masked, and a port for suspend broadcasts may have been bound and delivery enabled. -/
structure Erased (port? : Option Port) (c : Channels) : Prop where
  upcallPending : ∀ v, (c.page.vcpu v).upcallPending = 0
  upcallMask : ∀ v, (c.page.vcpu v).upcallMask = if port?.isSome then 0 else 1
  selector : ∀ v, (c.page.vcpu v).selector = .empty
  pending : c.page.pending = .replicate 64 .empty
  mask : c.page.mask = port?.elim (.replicate 64 .full) fun p =>
    (Bitmap.replicate 64 .full).erase p.pageWord p.bit
  table : c.table = port?.elim .powerOn fun p => ActionTable.powerOn.bindAt p .suspend
  interruptsMasked : c.interruptsMasked = port?.isNone
  suspendPort : c.suspendPort = port?

/-- Two states that serve events alike. -/
structure ServesAlike (c d : Channels) : Prop where
  upcallPending : ∀ v, (c.page.vcpu v).upcallPending = (d.page.vcpu v).upcallPending
  upcallMask : ∀ v, (c.page.vcpu v).upcallMask = (d.page.vcpu v).upcallMask
  selector : ∀ v, (c.page.vcpu v).selector = (d.page.vcpu v).selector
  pending : c.page.pending = d.page.pending
  mask : c.page.mask = d.page.mask
  table : c.table = d.table
  interruptsMasked : c.interruptsMasked = d.interruptsMasked
  suspendPort : c.suspendPort = d.suspendPort

/-- Delivery is enabled and nothing has happened but that a port was bound for suspend broadcasts. -/
structure Ready (p : Port) (c : Channels) : Prop where
  masked : ∀ w b, c.page.mask.test w b = true ↔ ¬(p.pageWord = w ∧ p.bit = b)
  pending : ∀ w b, c.page.pending.test w b = false
  selector : ∀ v, (c.page.vcpu v).selector = .empty
  upcall : ∀ v, (c.page.vcpu v).isUpcallPending = false ∧ (c.page.vcpu v).isUpcallMasked = false
  powerOn : ∀ q, p ≠ q → c.table.slot q = .powerOn
  bits : ∀ q, c.table.isOutstanding q = false ∧ c.table.isFlagged q = false
  kind : c.table.kind p = .suspend

theorem Erased.servesAlike {port? : Option Port} {c d : Channels} (hc : c.Erased port?)
    (hd : d.Erased port?) : c.ServesAlike d where
  upcallPending v := (hc.upcallPending v).trans (hd.upcallPending v).symm
  upcallMask v := (hc.upcallMask v).trans (hd.upcallMask v).symm
  selector v := (hc.selector v).trans (hd.selector v).symm
  pending := hc.pending.trans hd.pending.symm
  mask := hc.mask.trans hd.mask.symm
  table := hc.table.trans hd.table.symm
  interruptsMasked := hc.interruptsMasked.trans hd.interruptsMasked.symm
  suspendPort := hc.suspendPort.trans hd.suspendPort.symm

theorem Erased.ready {p : Port} {c : Channels} (h : c.Erased (some p)) : c.Ready p where
  masked w b := by
    rw [h.mask, Option.elim_some, Bitmap.test_erase, Bitmap.test_replicate, Word.test_full,
      Bool.and_true, Bool.not_eq_true', decide_eq_false_iff_not]
  pending w b := by rw [h.pending, Bitmap.test_replicate, Word.test_empty]
  selector := h.selector
  upcall v := by
    rw [VcpuSlot.isUpcallPending, VcpuSlot.isUpcallMasked, h.upcallPending, h.upcallMask]
    exact ⟨rfl, rfl⟩
  powerOn q hne := by
    rw [h.table, Option.elim_some, ActionTable.slot_bindAt, if_neg hne, ActionTable.slot_powerOn]
  bits q := by
    rw [h.table]
    exact ⟨ActionTable.isOutstanding_powerOn q, ActionTable.isFlagged_powerOn q⟩
  kind := by
    rw [h.table, Option.elim_some, ActionTable.kind, ActionTable.slot_bindAt, if_pos rfl]
    rfl

/-- The state in which initialisation asks for upcalls. -/
def blank (c : Channels) : Channels := { c with
  page := ((c.page.modifyVcpus fun v => v.maskUpcall true).maskAll.clearPendingAll).modifyVcpus
    fun v => v.reset.maskUpcall true
  table := .powerOn
  interruptsMasked := true
  suspendPort := none }

/-- The state in which initialisation asks for the port for suspend broadcasts. -/
def opened (c : Channels) : Channels := { c.blank with
  page := c.blank.page.modifyVcpus fun v => v.maskUpcall false
  interruptsMasked := false }

/-- The state in which initialisation succeeds. -/
def reserved (c : Channels) (p : Port) : Channels := { c.opened with
  page := c.opened.page.clearMask p.pageWord p.bit
  table := ActionTable.powerOn.bindAt p .suspend
  suspendPort := some p }

theorem erased_blank (c : Channels) : c.blank.Erased none := by
  refine ⟨?_, ?_, ?_, rfl, rfl, rfl, rfl, rfl⟩ <;> intro v <;>
    rw [blank, SharedPage.vcpu_modifyVcpus] <;> rfl

/-- Where no port is reserved, upcalls and interrupts are masked again. -/
theorem erased_quiet (c : Channels) : Erased none { c.opened with
    interruptsMasked := true, page := c.opened.page.modifyVcpus fun v => v.maskUpcall true } := by
  refine ⟨?_, ?_, ?_, rfl, rfl, rfl, rfl, rfl⟩ <;> intro v <;>
    rw [opened, blank, SharedPage.vcpu_modifyVcpus, SharedPage.vcpu_modifyVcpus,
      SharedPage.vcpu_modifyVcpus] <;> rfl

theorem erased_reserved (c : Channels) (p : Port) : (c.reserved p).Erased (some p) := by
  have hvcpu (v : Fin 32) : (c.reserved p).page.vcpu v = c.opened.page.vcpu v := rfl
  refine ⟨?_, ?_, ?_, rfl, rfl, rfl, rfl, rfl⟩ <;> intro v <;>
    rw [hvcpu, opened, blank, SharedPage.vcpu_modifyVcpus, SharedPage.vcpu_modifyVcpus] <;> rfl

end Channels

namespace Erasure

variable {c : Client} {lost : System History → Prop} {state : Channels} {config : Config}
  {history : History} {result : Except ChannelError Port}

/-- What is known of the history once the request for upcalls was granted. -/
structure Granted (c : Client) (config : Config) (history : History) : Prop where
  answeredBy : history.AnsweredBy c
  set : history.Answered (.setParam .callbackIrq config.callbackIrq.toUInt64) (.ok ())

/-- What is known of the history once the allocation was answered too: that settles the result. -/
structure Allotted (c : Client) (config : Config) (result : Except ChannelError Port)
    (history : History) : Prop extends Granted c config history where
  alloc : ∃ alloc, history.Answered (.hypercall (.bindIpi config.suspendVcpu)) alloc ∧
    result = initOutcome config (.ok ()) alloc

theorem Allotted.settles (h : Allotted c config result history) : history.Settles c config result := by
  obtain ⟨alloc, halloc, hresult⟩ := h.alloc
  exact ⟨h.answeredBy, .ok (), alloc, h.set, fun _ => halloc, hresult⟩

theorem granted_saw (event : Event) (state : Channels) (history : History)
    (h : Granted c config history) :
    Granted c config ((c.platform 0).observe event state history) :=
  ⟨h.answeredBy.saw 0 event state, h.set.cons _⟩

theorem Granted.answered (h : Granted c config history) (r : Request) (state : Channels) :
    Granted c config
      (.answered 0 r (c.answer r history) state :: .called 0 r state :: history) :=
  ⟨h.answeredBy.answered 0 r state history, (h.set.cons _).cons _⟩

theorem allotted_saw (event : Event) (state : Channels) (history : History)
    (h : Allotted c config result history) :
    Allotted c config result ((c.platform 0).observe event state history) := by
  obtain ⟨alloc, halloc, hresult⟩ := h.alloc
  exact ⟨granted_saw event state history h.toGranted, alloc, halloc.cons _, hresult⟩

theorem stable_allotted : Stable (c.platform 0) lost (Held (Allotted c config result) state) where
  call r _ _ _ := by
    apply Client.held_call
    intro before h
    obtain ⟨alloc, halloc, hresult⟩ := h.alloc
    exact ⟨h.toGranted.answered r state, alloc, (halloc.cons _).cons _, hresult⟩
  note n _ := held_emit allotted_saw (.noticed n)

theorem leads_allocIpi : Leads lost (Held (Granted c config) state)
    (allocIpi (c.platform 0) config.suspendVcpu) fun result =>
      Held (Allotted c config result) state := by
  have hcall : Leads lost (Held (Granted c config) state)
      (call (c.platform 0) (.hypercall (.bindIpi config.suspendVcpu))) fun reply =>
      Held (Allotted c config (initOutcome config (.ok ()) reply)) state :=
    Client.held_call fun before h =>
      ⟨h.answered _ state, _, ⟨0, state, List.mem_cons_self⟩, rfl⟩
  apply leads_allocate hcall fun _ _ => id
  intro number
  rw [adopt, initOutcome]
  cases Port.ofNumber? number with
  | some port => exact .pure fun _ => id
  | none =>
    exact Leads.bind (stable_allotted.note _ rfl) fun _ =>
      Leads.bind (keeps_giveBack stable_allotted number) fun _ => .pure fun _ => id

/-- The state once the port for suspend broadcasts was allocated, and bound if there is one. -/
def allotted (c : Channels) : Except ChannelError Port → Channels
  | .error _ => c.opened
  | .ok port => { c.opened with
    table := ActionTable.powerOn.bindAt port .suspend
    page := c.opened.page.clearMask port.pageWord port.bit }

theorem leads_reserveSuspendPort (hconfig : state.config = config) :
    Leads lost (Held (Granted c config) state.opened) (reserveSuspendPort (c.platform 0))
      fun result => Held (Allotted c config result) (allotted state result) := by
  have hallocate (config' : Config) : Leads lost
      (fun s => Held (Granted c config) state.opened s ∧ s.channels.config = config')
      (allocIpi (c.platform 0) config'.suspendVcpu) fun result =>
      Held (Allotted c config result) state.opened := by
    constructor
    rintro s ⟨hs, rfl⟩
    have he : s.channels.config = config := (congrArg Channels.config hs.channels).trans hconfig
    rw [he]
    exact leads_allocIpi.run s hs
  have hattach (port : Port) : Leads lost (Held (Allotted c config (.ok port)) state.opened)
      (attach (c.platform 0) port .suspend) fun attached s =>
      attached = .ok () ∧ Held (Allotted c config (.ok port)) (allotted state (.ok port)) s := by
    have hreaders : (state.opened.table.slot port).readers = 0 :=
      congrArg Slot.readers (ActionTable.slot_powerOn port)
    have hpending : state.opened.page.isPending port = false := by
      exact (Bitmap.test_replicate _ _ _).trans (Word.test_empty _)
    exact held_attach allotted_saw hreaders hpending .suspend
  apply Guest.leads_reserveSuspendPort hallocate (fun _ _ => id) hattach (fun _ _ hs => hs.2)
  intro port e
  constructor
  rintro s ⟨he, _⟩
  cases he

/-- What the answer to the request for upcalls leaves to be settled. -/
structure Answered (c : Client) (config : Config) (reply : Except Errno Unit) (history : History) :
    Prop where
  answeredBy : history.AnsweredBy c
  set : history.Answered (.setParam .callbackIrq config.callbackIrq.toUInt64) reply

theorem Answered.settles {errno : Errno} (h : Answered c config (.error errno) history) :
    history.Settles c config (.error (.hypercall DomainParam.callbackIrq.setterName errno)) :=
  ⟨h.answeredBy, .error errno, .error errno, h.set, nofun, rfl⟩

/-- Initialisation leaves nothing of what was before, and its answers settle the result. -/
theorem leads_init (hreaders : state.HasNoReaders) :
    Leads lost (Held (fun history => history.AnsweredBy c) state) (init (c.platform 0))
      fun result s => s.channels.Erased result.toOption ∧
        s.outside.Settles c state.config result := by
  have hseen (event : Event) (state : Channels) (history : History) (h : history.AnsweredBy c) :
      ((c.platform 0).observe event state history).AnsweredBy c := h.saw 0 event state
  have hcall (config : Config) : Leads lost (fun s =>
      Held (fun history => history.AnsweredBy c) state.blank s ∧ s.channels.config = config)
      (call (c.platform 0) (.setParam .callbackIrq config.callbackIrq.toUInt64))
      fun reply : Except Errno Unit => Held (Answered c state.config reply) state.blank := by
    constructor
    rintro s ⟨hs, rfl⟩
    have he : s.channels.config = state.blank.config := congrArg Channels.config hs.channels
    have hanswer : Leads lost (Held (fun history => history.AnsweredBy c) state.blank)
        (call (c.platform 0) (.setParam .callbackIrq state.config.callbackIrq.toUInt64))
        fun reply => Held (Answered c state.config reply) state.blank :=
      Client.held_call fun before h =>
        ⟨h.answered 0 _ state.blank before, ⟨0, state.blank, List.mem_cons_self⟩⟩
    rw [he]
    exact hanswer.run s hs
  have hopened : Leads lost (Held (Answered c state.config (.ok ())) { state.blank with
        page := state.blank.page.modifyVcpus fun v => v.maskUpcall false })
      (setInterruptsMasked false) fun _ => Held (Granted c state.config) state.opened :=
    held_modifyChannels.of_post fun _ _ hs => ⟨hs.channels, hs.outside.answeredBy, hs.outside.set⟩
  have hquiet (e : ChannelError) : Leads lost
      (Held (Allotted c state.config (.error e)) (allotted state (.error e))) quiesce
      fun _ s => s.channels.Erased none ∧ s.outside.Settles c state.config (.error e) := by
    apply held_quiesce.of_post
    rintro _ s ⟨hs, hout⟩
    rw [hs]
    exact ⟨state.erased_quiet, hout.settles⟩
  have hnote (callbackIrq : UInt32) (port : Port) : Leads lost
      (Held (Allotted c state.config (.ok port)) (state.reserved port))
      (note (c.platform 0) (.initialised callbackIrq port))
      fun _ s => s.channels.Erased (some port) ∧ s.outside.Settles c state.config (.ok port) := by
    apply Leads.of_post (held_emit allotted_saw (.noticed (.initialised callbackIrq port)))
    rintro _ s ⟨hs, hout⟩
    rw [hs]
    exact ⟨state.erased_reserved port, hout.settles⟩
  apply leads_init_of_steps held_quiesce held_modifyChannels held_modifyPage
    (held_resetTable hseen hreaders)
  case hbusy =>
    rintro e s ⟨he, _⟩
    cases he
  case hdiscard => exact Leads.of_pre (held_discardPending hseen) fun _ hs => hs.2
  case hcall => exact hcall
  case hrefused =>
    rintro errno s ⟨hs, hout⟩
    rw [hs]
    exact ⟨state.erased_blank, hout.settles⟩
  case hupcalls => exact held_modifyPage
  case hmasked => exact hopened
  case hreserve => exact leads_reserveSuspendPort rfl
  case hrequiesce => exact hquiet
  case hreserved => exact fun port => held_modifyChannels
  case hnote => exact hnote

/-- Initialisation ends like this the first time and after a restore. -/
theorem leads_run {op : ChannelOperation} (hop : op = .init ∨ op = .resume)
    (hreaders : state.HasNoReaders) :
    Leads lost (Held (fun history => history.AnsweredBy c) state) (op.run (c.platform 0))
      fun report s => ∃ result, report = Report.ofPort result ∧
        s.channels.Erased result.toOption ∧ s.outside.Settles c state.config result := by
  have hreport {m : Guest History (Except ChannelError Port)}
      (hm : Leads lost (Held (fun history => history.AnsweredBy c) state) m fun result s =>
        s.channels.Erased result.toOption ∧ s.outside.Settles c state.config result) :
      Leads lost (Held (fun history => history.AnsweredBy c) state)
        (m >>= fun result => Pure.pure (Report.ofPort result)) fun report s =>
        ∃ result, report = Report.ofPort result ∧
          s.channels.Erased result.toOption ∧ s.outside.Settles c state.config result :=
    hm.bind fun result => .pure fun s hs => ⟨result, rfl, hs⟩
  have hseen (event : Event) (state : Channels) (history : History) (h : history.AnsweredBy c) :
      ((c.platform 0).observe event state history).AnsweredBy c := h.saw 0 event state
  rcases hop with rfl | rfl
  · exact hreport (leads_init hreaders)
  · exact hreport (Leads.bind (held_emit hseen (.noticed .resuming)) fun _ => leads_init hreaders)

end Erasure

/-- Initialisation erases history. However differently two guests with the same configuration came to
their states, if no action has readers, no call comes back and the hypervisor answers alike, then the
initialisation of either returns the same and leaves the same; and where it succeeds, all is as after
power-on but for the port for suspend broadcasts, and every other bit is masked. -/
theorem init_erases_history {op : ChannelOperation} (hop : op = .init ∨ op = .resume) (c d : Client)
    {first second : Channels} (hconfig : first.config = second.config)
    (hfirst : first.HasNoReaders) (hsecond : second.HasNoReaders) :
    ∃ a b s t, op.run (c.platform 0) ⟨first, []⟩ = .ok a s ∧
      op.run (d.platform 0) ⟨second, []⟩ = .ok b t ∧
      (s.outside.AnswersAlike t.outside → a = b ∧ s.channels.ServesAlike t.channels) ∧
      ∀ p : Port, a = .ok (.number p.index) → s.channels.Ready p := by
  have hnil (c : Client) (state : Channels) :
      Held (fun history : History => history.AnsweredBy c) state ⟨state, []⟩ :=
    ⟨rfl, History.answeredBy_nil⟩
  obtain ⟨_, s, hs, a, rfl, hserases, hssettles⟩ :=
    (Erasure.leads_run hop hfirst).exists_ok (hnil c first)
  obtain ⟨_, t, ht, b, rfl, hterases, htsettles⟩ :=
    (Erasure.leads_run hop hsecond).exists_ok (hnil d second)
  refine ⟨_, _, s, t, hs, ht, ?_, ?_⟩
  · intro halike
    obtain rfl := hssettles.unique (hconfig ▸ htsettles) halike
    exact ⟨rfl, hserases.servesAlike hterases⟩
  · intro p hp
    cases a with
    | error e => cases hp
    | ok port =>
      have hindex : port.index.val = p.index.val := by
        simpa only [Report.ofPort, Except.ok.injEq, Report.number.injEq] using hp
      obtain rfl : port = p := Port.ext (Fin.ext hindex)
      exact hserases.ready

theorem init_erases_history_granted :
    ∃ s t,
      ChannelOperation.init.run ((Client.granting 3 fun _ => []).platform 0)
        ⟨⟨.zero, .powerOn, { callbackIrq := 5 }, true, false, none⟩, []⟩ = .ok (.ok (.number 3)) s ∧
      ChannelOperation.init.run ((Client.granting 3 fun _ => []).platform 0)
        ⟨⟨SharedPage.zero.setPending 0 7, (ActionTable.powerOn.enqueue ⟨7⟩).2, { callbackIrq := 5 },
          false, true, some ⟨2⟩⟩, []⟩ = .ok (.ok (.number 3)) t ∧
      s.channels.ServesAlike t.channels ∧ s.channels.Ready ⟨3⟩ := by
  have hfirst : Channels.HasNoReaders
      ⟨.zero, .powerOn, { callbackIrq := 5 }, true, false, none⟩ := by
    intro p
    rw [ActionTable.slot_powerOn]
    rfl
  have hsecond : Channels.HasNoReaders ⟨SharedPage.zero.setPending 0 7,
      (ActionTable.powerOn.enqueue ⟨7⟩).2, { callbackIrq := 5 }, false, true, some ⟨2⟩⟩ := by
    intro p
    have hreaders : ((ActionTable.powerOn.setWork ⟨7⟩ ⟨true⟩).slot p).readers =
        (ActionTable.powerOn.slot p).readers :=
      ActionTable.powerOn.field_modifySlot ⟨7⟩ p fun _ => rfl
    rw [ActionTable.slot_enqueue]
    exact hreaders.trans (hfirst p)
  obtain ⟨a, b, s, t, hs, ht, hsame, hready⟩ := init_erases_history (.inl rfl)
    (Client.granting 3 fun _ => []) (Client.granting 3 fun _ => []) (by rfl) hfirst hsecond
  -- The answers of this client do not depend on the history, so they are alike and the result is known.
  have hsettles {state : Channels} (hreaders : state.HasNoReaders) {report : Except ChannelError Report}
      {s : System History} (hs : ChannelOperation.init.run
        ((Client.granting 3 fun _ => []).platform 0) ⟨state, []⟩ = .ok report s) :
      report = .ok (.number 3) ∧ s.outside.AnsweredBy (Client.granting 3 fun _ => []) := by
    have hled : Leads (fun _ => False) _ _ _ :=
      Erasure.leads_run (c := Client.granting 3 fun _ => []) (.inl rfl) hreaders
    obtain ⟨result, rfl, -, hsettles⟩ := hled.of_ok ⟨rfl, History.answeredBy_nil⟩ hs
    obtain ⟨set, alloc, hset, halloc, rfl⟩ := hsettles.outcome
    obtain ⟨_, rfl⟩ := hsettles.answeredBy _ _ hset
    obtain ⟨_, rfl⟩ := hsettles.answeredBy _ _ (halloc rfl)
    exact ⟨rfl, hsettles.answeredBy⟩
  obtain ⟨rfl, hsanswers⟩ := hsettles hfirst hs
  obtain ⟨rfl, htanswers⟩ := hsettles hsecond ht
  have halike : s.outside.AnswersAlike t.outside := by
    intro r x y hx hy
    obtain ⟨_, rfl⟩ := hsanswers r x hx
    obtain ⟨_, rfl⟩ := htanswers r y hy
    rfl
  exact ⟨s, t, hs, ht, (hsame halike).2, hready ⟨3⟩ rfl⟩

end EventChannel
