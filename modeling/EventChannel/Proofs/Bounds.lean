import EventChannel.Proofs.Conservation.Deliveries
import Mathlib.Algebra.Group.Nat.Defs

namespace EventChannel

open Guest

/-- Whether the words and processors that an operation is given exist in the shared page. -/
def PageOperation.InRange : PageOperation → Prop
  | unmaskAt word _ | clearAt word _ | ready word => word < 64
  | alert _ vcpu | raise _ vcpu => vcpu < 32
  | raiseAt word _ vcpu => word < 64 ∧ vcpu < 32
  | mask _ | unmask _ | isMasked _ | isPending _ | clear _ | maskAll | clearAll => True

/-- Whether the indices that an operation is given are in range. Those operations that are given
ports only always are. -/
def Operation.InRange : Operation → Prop
  | page op => op.InRange
  | vcpu v _ => v < 32
  | table (.runWordAt word) => word < 16
  | table _ | channels _ => True

/-- A counter has room for one more delivery, unless there were too many deliveries. -/
def Entry.LeavesRoom (entry : Entry) (before : History) : Prop :=
  ∀ port, ¬History.CountedDirectly port (entry :: before) →
    History.dispatches port (entry :: before) < 2 ^ 64 - 1 →
    (entry.state.table.slot port).deliveries.toNat < 2 ^ 64 - 1

theorem Entry.Tallies.leavesRoom {entry : Entry} {before : History} (h : entry.Tallies before) :
    entry.LeavesRoom before := by
  intro port hnot hfew
  rw [h port hnot, UInt64.toNat_ofNat_of_lt' (Nat.lt_of_lt_of_le hfew (by decide))]
  exact hfew

namespace PageM

variable {α β : Type}

/-- A computation on the page never faults. -/
def Total (m : PageM α) : Prop := ∀ s, ∃ a t, m s = .ok a t

variable {m : PageM α} {f : α → PageM β}

theorem Total.bind (hm : Total m) (hf : ∀ a, Total (f a)) : Total (m >>= f) := by
  intro s
  obtain ⟨a, t, hrun⟩ := hm s
  obtain ⟨b, u, hnext⟩ := hf a t
  refine ⟨b, u, ?_⟩
  change EStateM.bind m f s = _
  simp only [EStateM.bind, hrun, hnext]

theorem Total.checkIndex {n i : Nat} (h : i < n) : Total (Fault.checkIndex n i : PageM (Fin n)) :=
  fun s => ⟨⟨i, h⟩, s, Fault.checkIndex_of_lt h s⟩

theorem Total.pure (a : α) : Total (Pure.pure a : PageM α) := fun s => ⟨a, s, rfl⟩

theorem Total.get : Total (MonadState.get : PageM SharedPage) := fun s => ⟨s, s, rfl⟩

theorem Total.modify (f : SharedPage → SharedPage) : Total (modify f : PageM Unit) :=
  fun s => ⟨(), f s, rfl⟩

theorem total_mask (port : Port) : Total (mask port) :=
  .bind .get fun _ => .bind (.modify _) fun _ => .pure _

theorem total_unmaskAt {word : Nat} (hword : word < 64) (bit : Fin 64) :
    Total (unmaskAt word bit) :=
  .bind (.checkIndex hword) fun _ => .bind .get fun _ => .bind (.modify _) fun _ => .pure _

theorem total_clearAt {word : Nat} (hword : word < 64) (bit : Fin 64) : Total (clearAt word bit) :=
  .bind (.checkIndex hword) fun _ => .bind .get fun _ => .bind (.modify _) fun _ => .pure _

theorem total_ready {word : Nat} (hword : word < 64) : Total (ready word) :=
  .bind (.checkIndex hword) fun _ => .bind .get fun _ => .pure _

section Vcpus

variable {vcpu : Nat} (hvcpu : vcpu < 32)

include hvcpu

theorem total_readVcpu : Total (readVcpu vcpu) :=
  .bind (.checkIndex hvcpu) fun _ => .bind .get fun _ => .pure _

theorem total_updateVcpu (f : VcpuSlot → VcpuSlot) : Total (updateVcpu vcpu f) :=
  .bind (.checkIndex hvcpu) fun _ => .modify _

theorem total_drainSelector : Total (drainSelector vcpu) :=
  .bind (.checkIndex hvcpu) fun _ => .bind .get fun _ => .bind (.modify _) fun _ => .pure _

theorem total_flagWord (word : Fin 64) : Total (flagWord word vcpu) :=
  .bind (.checkIndex hvcpu) fun _ => .bind .get fun _ => .bind (.modify _) fun _ => .pure _

theorem total_alertWord (word : Fin 64) : Total (alertWord word vcpu) :=
  .bind (.checkIndex hvcpu) fun _ => .modify _

theorem total_raiseAt {word : Nat} (hword : word < 64) (bit : Fin 64) :
    Total (raiseAt word bit vcpu) := by
  apply Total.bind (.checkIndex hword)
  intro w
  apply Total.bind .get
  intro s
  split
  · exact .pure _
  · apply Total.bind (.modify _)
    intro _
    apply Total.bind .get
    intro t
    dsimp only
    split
    · exact .pure _
    · exact .bind (total_alertWord hvcpu w) fun _ => .pure _

end Vcpus

end PageM

theorem Port.shiftRight_number (port : Port) : port.number.toNat >>> 6 = port.word := by
  rw [toNat_number, Nat.shiftRight_eq_div_pow]
  rfl

theorem Port.and_number (port : Port) : port.number.toNat &&& 63 = port.bit := by
  rw [toNat_number]
  exact Nat.and_two_pow_sub_one_eq_mod _ 6

theorem Port.word_lt (port : Port) : port.word.val < 64 :=
  Nat.lt_of_lt_of_le port.word.isLt words_le_pageWords

/-- The configuration names an existing processor. -/
def Bounded (s : System History) : Prop := s.channels.config.upcallVcpu < 32

namespace Bounded

variable {c : Client} {depth : Nat} {α : Type} {port : Port}

theorem keeps_emit (e : Event) : Keeps (fun _ => False) Bounded (emit (c.platform depth) e) :=
  Client.leads_emit fun _ _ => id

theorem keepsRemarks : KeepsRemarks (c.platform depth) (fun _ => False) Bounded :=
  fun n _ => keeps_emit (.noticed n)

theorem keeps_modifyTable (f : ActionTable → ActionTable) :
    Keeps (fun _ => False) Bounded (modifyTable f) := Leads.modifyTable fun _ _ => id

theorem keeps_onTable (f : ActionTable → α × ActionTable) :
    Keeps (fun _ => False) Bounded (onTable f) := Leads.onTable fun _ _ => id

theorem keeps_modifyPage (f : SharedPage → SharedPage) :
    Keeps (fun _ => False) Bounded (modifyPage f) := Leads.modifyPage fun _ _ => id

theorem keeps_onPage {m : PageM α} (h : m.Total) : Keeps (fun _ => False) Bounded (onPage m) := by
  apply Leads.onPage
  intro state history hs
  obtain ⟨a, page, hrun⟩ := h state.page
  rw [hrun]
  exact hs

theorem keeps_mask (port : Port) : Keeps (fun _ => False) Bounded (Guest.mask port) :=
  (keeps_onPage (PageM.total_mask port)).discard

theorem keeps_unmask (port : Port) : Keeps (fun _ => False) Bounded (Guest.unmask port) :=
  Guest.keeps_unmask (· < 32) (fun _ => id)
    (keeps_onPage (PageM.total_unmaskAt port.word_lt port.bit)) fun _ hvcpu =>
      keeps_onPage (PageM.total_alertWord hvcpu port.pageWord)

theorem keeps_page {op : PageOperation} (hop : op.InRange) :
    Keeps (fun _ => False) Bounded (op.run (c.platform depth)) := by
  apply PageOperation.keeps_run _ (keeps_modifyPage _) (keeps_modifyPage _)
    (fun _ _ => ⟨keeps_emit _, keeps_emit _⟩) fun _ => keeps_emit _
  cases op with
  | mask port => exact keeps_onPage (PageM.total_mask port)
  | unmask port => exact keeps_onPage (PageM.total_unmaskAt port.word_lt port.bit)
  | clear port => exact keeps_onPage (PageM.total_clearAt port.word_lt port.bit)
  | unmaskAt word bit => exact keeps_onPage (PageM.total_unmaskAt hop bit)
  | clearAt word bit => exact keeps_onPage (PageM.total_clearAt hop bit)
  | ready word => exact keeps_onPage (PageM.total_ready hop)
  | alert port vcpu => exact keeps_onPage (PageM.total_alertWord hop port.pageWord)
  | raise port vcpu => exact keeps_onPage (PageM.total_raiseAt hop port.word_lt port.bit)
  | raiseAt word bit vcpu => exact keeps_onPage (PageM.total_raiseAt hop.2 hop.1 bit)
  | isMasked | isPending | maskAll | clearAll => trivial

theorem keeps_vcpu {vcpu : Nat} (hvcpu : vcpu < 32) (op : VcpuOperation) :
    Keeps (fun _ => False) Bounded (op.run vcpu : Guest History Report) := by
  apply VcpuOperation.keeps_run_of
  cases op with
  | isUpcallPending | isUpcallMasked | selector => exact keeps_onPage (PageM.total_readVcpu hvcpu)
  | clearUpcall | raiseUpcall | maskUpcall | reset =>
    exact keeps_onPage (PageM.total_updateVcpu hvcpu _)
  | drainSelector => exact keeps_onPage (PageM.total_drainSelector hvcpu)
  | flagWord word => exact keeps_onPage (PageM.total_flagWord hvcpu word)

theorem keeps_cancel (port : Port) :
    Keeps (fun _ => False) Bounded (cancel (c.platform depth) port) :=
  Guest.keeps_cancel (keeps_onTable _) fun _ => keeps_emit _

theorem keeps_enqueue (port : Port) :
    Keeps (fun _ => False) Bounded (enqueue (c.platform depth) port) :=
  Guest.keeps_enqueue (keeps_onTable _) fun _ => keeps_emit _

theorem slotIndifferent : SlotIndifferent (c.platform depth) (fun _ => False) Bounded where
  modifySlot _ := keeps_modifyTable _
  cancel := keeps_cancel
  setOutstanding _ := keeps_onTable _
  acknowledge _ := keeps_onTable _
  note := keepsRemarks
  actionDropped _ _ _ := keeps_emit _
  published _ _ := keeps_emit _
  slotReset _ := keeps_emit _
  readerTaken _ := keeps_emit _
  readerReleased _ := keeps_emit _

section Calls

variable (hcall : ∀ r, Keeps (fun _ => False) Bounded (call (c.platform depth) r))

include hcall

theorem stable : Stable (c.platform depth) (fun _ => False) Bounded :=
  ⟨fun r _ _ _ => hcall r, keepsRemarks⟩

theorem parts : ChannelOperation.Parts (c.platform depth) (fun _ => False) Bounded where
  stable := stable hcall
  publish := slotIndifferent.publish
  dropAction := slotIndifferent.dropAction
  cancel := keeps_cancel
  mask := keeps_mask
  unmask := keeps_unmask

/-- The word and the bit come from the loops of the pass, and the port from its table. -/
theorem keeps_consume (word bit : Fin 64) :
    Keeps (fun _ => False) Bounded (consume (c.platform depth) word bit) := by
  have hdeliver (port : Port) : Keeps (fun _ => False) Bounded (deliver (c.platform depth) port) :=
    keeps_deliver_of_starts (stable hcall) (hcall _) (fun _ => hcall _) (keeps_onTable _)
      (fun _ _ => keeps_emit _) (fun _ => keeps_onTable _) keeps_enqueue
  exact Guest.keeps_consume (stable hcall) (keeps_onPage (PageM.total_clearAt word.isLt bit))
    (keeps_emit _) hdeliver

theorem keeps_scannerPass :
    Keeps (fun _ => False) Bounded (scannerPass (c.platform depth)) := by
  apply keeps_scannerPass_of_sound (stable hcall) (· < 32) fun _ => id
  · exact fun vcpu hvcpu => keeps_onPage (PageM.total_updateVcpu hvcpu _)
  · exact fun vcpu hvcpu => keeps_onPage (PageM.total_drainSelector hvcpu)
  · exact fun word bit => Leads.of_pre (keeps_consume hcall word bit) fun _ hs => hs.1

theorem keeps_runWord (word : Fin 16) :
    Keeps (fun _ => False) Bounded (runWord (c.platform depth) word) := by
  apply Guest.keeps_runWord (fun _ => keeps_onTable _)
  intro port
  exact leads_runItem (stable hcall) (keeps_onTable _) (keeps_emit _) fun _ => hcall _

theorem keeps_channels (op : ChannelOperation) :
    Keeps (fun _ => False) Bounded (op.run (c.platform depth)) := by
  have hport (port : Option Port) :
      Keeps (fun _ => False) Bounded (setSuspendPort port : Guest History Unit) := ⟨fun _ => id⟩
  have hconnected (connected : Bool) :
      Keeps (fun _ => False) Bounded (setConnected connected : Guest History Unit) := ⟨fun _ => id⟩
  have hmasked (masked : Bool) :
      Keeps (fun _ => False) Bounded (setInterruptsMasked masked : Guest History Unit) :=
    ⟨fun _ => id⟩
  have hupcalls (masked : Bool) :
      Keeps (fun _ => False) Bounded (maskUpcalls masked : Guest History Unit) := keeps_modifyPage _
  have hquiesce : Keeps (fun _ => False) Bounded (quiesce : Guest History Unit) :=
    keeps_quiesce (hmasked true) (hupcalls true)
  have hdiscard : Keeps (fun _ => False) Bounded (discardPending (c.platform depth)) :=
    Keeps.channels.bind fun _ => (keeps_modifyPage _).bind fun _ => (keeps_emit _).bind fun _ =>
      keeps_modifyPage _
  have hinit : Keeps (fun _ => False) Bounded (Guest.init (c.platform depth)) :=
    keeps_init (stable hcall) hquiesce hport (keeps_modifyPage _)
      (keeps_resetTable slotIndifferent.resetSlot) hdiscard (hupcalls false) (hmasked false)
      (keeps_reserveSuspendPort (stable hcall) (fun port => slotIndifferent.publish port _)
        keeps_unmask)
  apply (parts hcall).run
  · exact (parts hcall).lifecycle hinit hquiesce hport
  · exact ChannelOperation.keeps_line (stable hcall) (fun r _ => hcall r) hconnected
  · exact fun _ => keeps_scannerPass hcall
  · exact fun _ => keeps_deferredPass (stable hcall) (keeps_runWord hcall)
  · exact fun _ _ => keeps_onTable _

theorem keeps_table {op : TableOperation} (hop : (Operation.table op).InRange) :
    Keeps (fun _ => False) Bounded (op.run (c.platform depth)) := by
  apply slotIndifferent.table (stable hcall)
  intro hwork
  cases op with
  | runWordAt word =>
    have hrun : runWordAt (c.platform depth) word = runWord (c.platform depth) ⟨word, hop⟩ := by
      rw [runWordAt, Fault.checkIndex_bind hop]
    rw [TableOperation.run, hrun]
    exact (keeps_runWord hcall ⟨word, hop⟩).bind fun _ => .pure _
  | enqueue port => exact (keeps_enqueue port).bind fun _ => .pure _
  | broadcast =>
    have hbroadcast : Keeps (fun _ => False) Bounded (Guest.broadcast (c.platform depth)) :=
      keeps_broadcast fun port => keeps_renew (keeps_onTable _) (keeps_enqueue port)
    exact hbroadcast.bind fun _ => .pure _
  | _ => cases hwork

theorem keeps_logged {op : Operation} (hop : op.InRange) :
    Keeps (fun _ => False) Bounded (op.logged (c.platform depth) depth) := by
  have hentry {entry : Channels → Entry} : Keeps (fun _ => False) Bounded (record entry) :=
    Leads.record fun _ _ => id
  have hrun : Keeps (fun _ => False) Bounded (op.run (c.platform depth)) := by
    cases op with
    | page op => exact (keeps_page hop).bind fun _ => .pure _
    | vcpu vcpu op => exact (keeps_vcpu hop op).bind fun _ => .pure _
    | table op => exact keeps_table hcall hop
    | channels op => exact keeps_channels hcall op
  exact Operation.keeps_logged hentry hrun fun _ => hentry

end Calls

theorem maintains {c : Client}
    (hc : ∀ r history, (c.respond r history).Within Operation.InRange) (limit : Nat) :
    c.Maintains limit (fun _ => False) (fun _ : Unit => Bounded) (fun _ _ => Bounded)
      fun _ => Operation.InRange where
  respond _ r s _ := hc r s.outside
  called _ _ _ := Leads.record fun _ _ => id
  answered _ _ _ _ := Leads.record fun _ _ => id
  logged _ _ hcall _ _ hop := keeps_logged (hcall ()) hop

end Bounded

/-- Nothing that the shared page holds, that the hypervisor or the host answers or that handlers run
makes an operation fault: every table access is in range, every shift count is below the width of a
word, and no subtraction overflows. Neither do the delivery counters, short of too many deliveries,
and the indices of a port are those that shifting and masking its number gives. -/
theorem no_operation_faults {c : Client}
    (hc : ∀ r history, (c.respond r history).Within Operation.InRange) (depth : Nat) {α : Type}
    {program : Program α} (hprogram : program.Within Operation.InRange) {page : SharedPage}
    {config : Config} {start : Channels} (hstart : Channels.ofPage page config = .ok start) :
    (∃ result s, program.run (c.platform depth) depth ⟨start, []⟩ = .ok result s) ∧
    (c.history depth program start).Always Entry.LeavesRoom ∧
    ∀ port : Port, port.number.toNat >>> 6 = port.word ∧ port.number.toNat &&& 63 = port.bit := by
  obtain ⟨hvcpu, hstart⟩ := Channels.eq_of_ofPage hstart
  have htable : start.table = .powerOn := by rw [hstart]
  have hbounded : Bounded ⟨start, []⟩ := by
    rw [hstart]
    exact hvcpu
  refine ⟨?_, ?_, fun port => ⟨port.shiftRight_number, port.and_number⟩⟩
  · have hkeeps : Keeps (fun _ => False) Bounded (program.run (c.platform depth) depth) :=
      (Bounded.maintains hc (depth + 1)).sustains.keeps_run () hprogram
    obtain ⟨result, s, hrun, -⟩ := Leads.exists_ok hkeeps hbounded
    exact ⟨result, s, hrun⟩
  · exact (c.always_tallies depth program htable).mono fun _ _ h => h.leavesRoom

/-- Events are pending on words that hold no port, and are raised there again. -/
theorem no_operation_faults_reraising :
    (∀ r history, (Client.reraising.respond r history).Within Operation.InRange) ∧
    ∃ result s, (Program.sequence () [.channels .init, .channels (.bindInline ⟨7⟩ "service"),
        .page (.raise ⟨7⟩ 0), .page (.raiseAt 63 63 0), .channels .scannerPass,
        .table (.runWordAt 15)]).run (Client.reraising.platform 2) 2
      ⟨⟨SharedPage.zero.setPending 20 9, .powerOn, { callbackIrq := 5 }, true, false, none⟩, []⟩ =
        .ok result s := by
  have hc : ∀ r history, (Client.reraising.respond r history).Within Operation.InRange :=
    Client.within_reraising (fun _ => Nat.zero_lt_succ 31) trivial
  have hprogram : (Program.sequence () [.channels .init, .channels (.bindInline ⟨7⟩ "service"),
      .page (.raise ⟨7⟩ 0), .page (.raiseAt 63 63 0), .channels .scannerPass,
      .table (.runWordAt 15)]).Within Operation.InRange := by
    apply Program.within_sequence.2
    simp only [List.forall_mem_cons]
    exact ⟨trivial, trivial, Nat.zero_lt_succ 31, ⟨by decide, Nat.zero_lt_succ 31⟩, trivial,
      Nat.lt_succ_self 15, nofun⟩
  have hstart : Channels.ofPage (SharedPage.zero.setPending 20 9) { callbackIrq := 5 } =
      .ok ⟨SharedPage.zero.setPending 20 9, .powerOn, { callbackIrq := 5 }, true, false, none⟩ := rfl
  exact ⟨hc, (no_operation_faults hc 2 hprogram hstart).1⟩

end EventChannel
