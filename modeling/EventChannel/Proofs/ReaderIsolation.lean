import EventChannel.Proofs.ReaderIsolation.Table

namespace EventChannel

open Guest

namespace Reading

variable {c : Client} {depth : Nat} {port : Port} {readings : Port → List Action}

/-- A reader has started or ended, and only the history does not tell so yet. -/
structure Untold (e : Event) (s : System History) : Prop where
  retains : ∀ depth port, s.channels.table.Retains port
    (History.readings port (.saw depth e s.channels :: s.outside))
  always : s.outside.Always Entry.Isolates

theorem leads_told {e : Event} :
    Leads Isolated (Untold e) (emit (c.platform depth) e) fun _ => Isolated := by
  apply Client.leads_emit
  intro state o hs
  have hretains := hs.retains depth
  exact ⟨_, hretains, fun _ => rfl, .cons ⟨hretains, trivial⟩ hs.always⟩

theorem leads_takeReader : Leads Isolated Isolated
    ((TableOperation.takeReader port).run (c.platform depth)) fun result s =>
      Isolated s ∧ (Operation.table (.takeReader port)).Heeds result s.outside := by
  have hwrite : Leads Isolated Isolated (modifyTable fun t => t.takeReader port) fun _ =>
      Untold (.readerTaken port) := by
    apply Leads.modifyTable
    rintro state o ⟨readings, hs⟩
    refine ⟨fun depth q => ?_, hs.always⟩
    rw [History.readings, hs.known]
    split
    next he =>
      subst he
      rw [ActionTable.takeReader, ActionTable.action_setReaders]
      exact (hs.retains port).taken
    next hne => exact (hs.retains q).setReaders_of_ne hne _
  have hseen : Leads Isolated (Untold (.readerTaken port))
      (emit (c.platform depth) (.readerTaken port)) fun _ s => Isolated s ∧ s.outside.Taken port :=
    leads_told.and (Client.leads_emit fun _ _ _ => .intro)
  exact hwrite.bind fun _ => hseen.bind fun _ => .pure fun _ hs => ⟨hs.1, hs.2, rfl⟩

/-- A reader that ends gets what it found as it started. -/
theorem leads_releaseReader : Leads Isolated Isolated
    ((TableOperation.releaseReader port).run (c.platform depth)) fun result s =>
      Isolated s ∧ (Operation.table (.releaseReader port)).Heeds result s.outside := by
  apply Leads.of_exists
  intro readings
  apply Leads.table.bind
  intro t
  have hretains (s : System History) (hs : Reading readings s ∧ s.channels.table = t) :
      (Reading readings s ∧ s.channels.table = t) ∧ t.Retains port (readings port) := by
    refine ⟨hs, ?_⟩
    obtain ⟨hs, rfl⟩ := hs
    exact hs.retains port
  refine Leads.of_pre (Leads.assume fun hport => ?_) hretains
  split
  next hnone =>
    have hfree := hport.eq_nil_iff.2 (ActionTable.releaseReader?_eq_none hnone)
    exact .pure fun _ hs => ⟨hs.1.isolated, .inl ⟨rfl, (hs.1.known port).trans hfree⟩⟩
  next details t' hrelease =>
    obtain ⟨n, hn, hdetails, rfl⟩ := ActionTable.releaseReader?_eq_some hrelease
    cases hlist : readings port with
    | nil =>
      rw [hlist] at hport
      exact absurd (hport.counted.symm.trans hn) (Nat.succ_ne_zero n).symm
    | cons reading others =>
      rw [hlist] at hport
      have hwrite : Leads Isolated (fun s => Reading readings s ∧ s.channels.table = t)
          (modifyTable fun _ => t.setReaders port n) fun _ s =>
          Untold (.readerReleased port) s ∧ s.outside.readings port = reading :: others := by
        apply Leads.modifyTable
        intro state o hs
        obtain ⟨hs, rfl⟩ := hs
        refine ⟨⟨fun depth q => ?_, hs.always⟩, (hs.known port).trans hlist⟩
        rw [History.readings, hs.known]
        split
        next he =>
          rw [← he, hlist]
          exact hport.released hn
        next hne => exact (hs.retains q).setReaders_of_ne hne _
      have hseen : Leads Isolated (fun s => Untold (.readerReleased port) s ∧
          s.outside.readings port = reading :: others)
          (emit (c.platform depth) (.readerReleased port)) fun _ s =>
          Isolated s ∧ s.outside.Released port reading := by
        apply Leads.and (leads_told.of_pre fun _ hs => hs.1)
        apply Client.leads_emit
        intro state o hs
        exact .intro hs.2
      have hresult : details = reading.irqDetails? :=
        hdetails.trans (hport.details reading List.mem_cons_self)
      apply hwrite.bind
      intro _
      apply hseen.bind
      intro _
      exact .pure fun _ hs => ⟨hs.1, .inr ⟨reading, hs.2, by rw [hresult]⟩⟩

/-- An operation that writes the action of a port heeds the readers of the port. -/
theorem leads_written {op : Operation} {m : Guest History (Except ChannelError Unit)}
    (hm : ∀ readings, Leads Isolated (Reading readings) m fun result s =>
      Reading readings s ∧ result = port.written (readings port))
    (hop : ∀ before, op.Heeds (Report.ofUnit (port.written (before.readings port))) before) :
    Leads Isolated Isolated (do return Report.ofUnit (← m)) fun result s =>
      Isolated s ∧ op.Heeds result s.outside := by
  apply (Leads.exists hm).bind
  intro result
  apply Leads.pure
  intro s hs
  obtain ⟨readings, hs, rfl⟩ := hs
  rw [← hs.known]
  exact ⟨hs.isolated, hop s.outside⟩

section Calls

variable (hcall : ∀ r, Keeps Isolated Isolated (call (c.platform depth) r))

include hcall

theorem stable : Stable (c.platform depth) Isolated Isolated :=
  ⟨fun r _ _ _ => hcall r, fun n _ => .exists fun _ => keeps_note n⟩

theorem leads_callHandler {kind : Kind} : Leads Isolated Isolated
    ((TableOperation.callHandler port kind).run (c.platform depth)) fun result s =>
      Isolated s ∧ (Operation.table (.callHandler port kind)).Heeds result s.outside := by
  apply Leads.table.bind
  intro t
  split
  next handler hhandler =>
    have hstart : Leads Isolated (fun s => Isolated s ∧ s.channels.table = t)
        (call (c.platform depth) (.handle .direct handler port)) fun _ => Isolated :=
      Leads.of_pre (hcall _) fun _ hs => hs.1
    exact hstart.bind fun _ => .pure fun _ hs => ⟨hs, fun _ _ _ _ => rfl⟩
  next hnone =>
    apply Leads.pure
    intro s hs
    obtain ⟨⟨readings, hs⟩, rfl⟩ := hs
    refine ⟨hs.isolated, fun reading hreading hkind hsome => ?_⟩
    rw [hs.known] at hreading
    have hfound := (hs.retains port).handler reading hreading
    rw [hkind, hnone] at hfound
    rw [← hfound] at hsome
    cases hsome

theorem keeps_deliver (port : Port) : Keeps Isolated Isolated (deliver (c.platform depth) port) :=
  keeps_deliver_of_starts (stable hcall) (hcall _) (fun _ => hcall _)
    (.exists fun _ => keeps_countDelivery) (fun _ _ => .exists fun _ => keeps_note _)
    (fun _ => .exists fun _ => keeps_onTable fun _ _ => ⟨rfl, rfl⟩)
    fun port => .exists fun _ => keeps_enqueue port

theorem keeps_runItem (port : Port) : Keeps Isolated Isolated (runItem (c.platform depth) port) := by
  have hclaim : Keeps Isolated Isolated (onTable fun t => t.claim port) :=
    .exists fun _ => keeps_onTable fun t q =>
      ⟨t.field_modifySlot _ _ fun _ => rfl, t.field_modifySlot _ _ fun _ => rfl⟩
  exact leads_runItem (stable hcall) hclaim (.exists fun _ => keeps_emit fun _ => rfl)
    fun _ => hcall _

theorem parts : Operation.Parts (c.platform depth) Isolated Isolated where
  stable := stable hcall
  line r _ := hcall r
  page := ⟨fun m => .exists fun _ => keeps_onPage m,
    fun f => .exists fun _ => keeps_modifyPage f,
    fun _ _ => .exists fun _ => keeps_emit fun _ => rfl,
    fun _ _ => .exists fun _ => keeps_emit fun _ => rfl,
    fun _ => .exists fun _ => keeps_emit fun _ => rfl⟩
  setInterruptsMasked _ := .exists fun _ => ⟨fun _ hs => ⟨hs.retains, hs.known, hs.always⟩⟩
  setConnected _ := .exists fun _ => ⟨fun _ hs => ⟨hs.retains, hs.known, hs.always⟩⟩
  setSuspendPort _ := .exists fun _ => ⟨fun _ hs => ⟨hs.retains, hs.known, hs.always⟩⟩
  publish _ _ := .exists fun _ => leads_publish.of_post fun _ _ hs => hs.1
  dropAction _ := .exists fun _ => leads_dropAction.of_post fun _ _ hs => hs.1
  resetSlot _ := .exists fun _ => leads_resetSlot.of_post fun _ _ hs => hs.1
  enqueue port := .exists fun _ => keeps_enqueue port
  cancel port := .exists fun _ => keeps_cancel port
  takeWord _ := .exists fun _ => keeps_onTable fun _ _ => ⟨rfl, rfl⟩
  setOutstanding _ := .exists fun _ => keeps_onTable fun _ _ => ⟨rfl, rfl⟩
  acknowledge _ := .exists fun _ => keeps_onTable fun _ _ => ⟨rfl, rfl⟩
  reader op hop := by
    cases op with
    | takeReader port => exact leads_takeReader.of_post fun _ _ hs => hs.1
    | releaseReader port => exact leads_releaseReader.of_post fun _ _ hs => hs.1
    | _ => cases hop
  consume word bit := keeps_consume (stable hcall) (.exists fun _ => keeps_onPage _)
    (.exists fun _ => keeps_emit fun _ => rfl) (keeps_deliver hcall)
  runItem := keeps_runItem hcall

theorem leads_table (op : TableOperation) :
    Leads Isolated Isolated (op.run (c.platform depth)) fun result s =>
      Isolated s ∧ (Operation.table op).Heeds result s.outside := by
  cases op with
  | publish port action => exact leads_written (fun _ => leads_publish) fun _ => rfl
  | dropAction port => exact leads_written (fun _ => leads_dropAction) fun _ => rfl
  | resetSlot port => exact leads_written (fun _ => leads_resetSlot) fun _ => rfl
  | reset =>
    have hreset (readings : Port → List Action) : Leads Isolated (Reading readings)
        (resetTable (c.platform depth)) fun result s =>
          Reading readings s ∧ result = forM Port.all fun port => port.written (readings port) :=
      leads_resetSlots Port.all
    apply (Leads.exists hreset).bind
    intro result
    apply Leads.pure
    intro s hs
    obtain ⟨readings, hs, hresult⟩ := hs
    refine ⟨hs.isolated, ?_⟩
    change _ = Report.ofUnit (forM Port.all fun port => port.written (s.outside.readings port))
    simp only [hresult, hs.known]
  | callHandler port kind => exact leads_callHandler hcall
  | irqDetails port =>
    apply Leads.table.bind
    intro t
    apply Leads.pure
    intro s hs
    obtain ⟨⟨readings, hs⟩, rfl⟩ := hs
    refine ⟨hs.isolated, fun reading hreading => ?_⟩
    rw [hs.known] at hreading
    rw [(hs.retains port).details reading hreading]
  | takeReader port => exact leads_takeReader
  | releaseReader port => exact leads_releaseReader
  | _ =>
    apply ((parts hcall).ofTable (fun _ => id) _).of_post
    · exact fun _ _ hs => ⟨hs, trivial⟩
    · exact fun port _ => .exists fun _ => keeps_countDelivery

theorem leads_channels (op : ChannelOperation) :
    Leads Isolated Isolated (op.run (c.platform depth)) fun result s =>
      Isolated s ∧ (Operation.channels op).Heeds result s.outside := by
  cases op with
  | bindInline port handler => exact leads_written (fun _ => leads_attach) fun _ => rfl
  | bindDeferred port handler => exact leads_written (fun _ => leads_attach) fun _ => rfl
  | bindIrq port vector description handler =>
    exact leads_written (fun _ => leads_attach) fun _ => rfl
  | unbind port => exact leads_written (fun _ => leads_unbind) fun _ => rfl
  | _ => exact Leads.of_post ((parts hcall).ofChannels _) fun _ _ hs => ⟨hs, trivial⟩

theorem keeps_logged (op : Operation) :
    Keeps Isolated Isolated (op.logged (c.platform depth) depth) := by
  have hrun : Leads Isolated Isolated (op.run (c.platform depth)) fun result s =>
      Isolated s ∧ op.Heeds result s.outside := by
    cases op with
    | table op => exact leads_table hcall op
    | channels op => exact leads_channels hcall op
    | page op | vcpu vcpu op =>
      exact Leads.of_post ((parts hcall).run (fun _ => id) fun _ he => nomatch he)
        fun _ _ hs => ⟨hs, trivial⟩
  apply Operation.keeps_logged _ hrun
  · intro result
    apply Leads.record
    intro state o hs
    obtain ⟨⟨readings, hs⟩, hheeds⟩ := hs
    have hended : Reading readings ⟨state, .ended depth op result state :: o⟩ :=
      hs.cons rfl rfl hheeds
    exact hended.isolated
  · exact .exists fun _ => keeps_record (fun _ => rfl) (fun _ => rfl) fun _ _ => trivial

end Calls

theorem maintains (c : Client) (limit : Nat) :
    c.Maintains limit Isolated (fun _ : Unit => Isolated) (fun _ _ => Isolated) fun _ _ => True where
  respond _ _ _ _ := Program.within_of_forall fun _ => trivial
  called _ _ _ := .exists fun _ => keeps_record (fun _ => rfl) (fun _ => rfl) fun _ _ => trivial
  answered _ _ _ _ := .exists fun _ => keeps_record (fun _ => rfl) (fun _ => rfl) fun _ _ => trivial
  logged _ _ hcall _ op _ := keeps_logged (hcall ()) op

end Reading

/-- Whatever operations are run and however they are nested, the action of a port stays what its
readers found until the last of them has ended. Meanwhile writing it is refused, and what is looked
up is found; once there are no readers it can be written. -/
theorem readers_are_isolated (c : Client) (depth : Nat) {α : Type} (program : Program α)
    {page : SharedPage} {config : Config} {start : Channels}
    (hstart : Channels.ofPage page config = .ok start) :
    (∀ port, (c.finish depth program start).channels.table.Retains port
      ((c.history depth program start).readings port)) ∧
    (c.history depth program start).Always Entry.Isolates := by
  obtain ⟨_, rfl⟩ := Channels.eq_of_ofPage hstart
  have hretains (port : Port) : ActionTable.powerOn.Retains port [] := by
    apply ActionTable.Retains.of_no_readers
    rw [ActionTable.slot_powerOn]
    rfl
  have hwithin : program.Within fun _ => True := Program.within_of_forall fun _ => trivial
  have hbegin : Isolated ⟨⟨page, .powerOn, config, true, false, none⟩, []⟩ :=
    ⟨fun _ => [], hretains, fun _ => rfl, .nil⟩
  obtain ⟨readings, hs⟩ := (Reading.maintains c (depth + 1)).holds () hwithin hbegin fun _ hs => hs
  refine ⟨fun port => ?_, hs.always⟩
  rw [Client.history, hs.known]
  exact hs.retains port

/-- A client whose handlers read their own action and try to replace it meanwhile. -/
def Client.rereading : Client :=
  granting 3 fun
    | .handle _ _ port => [.table (.takeReader port), .channels (.bindDeferred port "later"),
        .table (.resetSlot port), .table (.irqDetails port), .table (.releaseReader port)]
    | _ => []

theorem readers_are_isolated_rereading :
    let program := Program.sequence () [.channels (.bindIrq ⟨7⟩ 9 "keyboard" "first"),
      .table (.takeReader ⟨7⟩), .table (.callHandler ⟨7⟩ .deferredHardwareIrq),
      .channels (.unbind ⟨7⟩), .channels (.bindInline ⟨6⟩ "timer"), .table (.takeReader ⟨6⟩),
      .table (.resetSlot ⟨6⟩)]
    let start : Channels := ⟨.zero, .powerOn, { callbackIrq := 5 }, true, false, none⟩
    let found (port : Port) := (Client.rereading.history 1 program start).readings port
    Channels.ofPage .zero { callbackIrq := 5 } = .ok start ∧
    found ⟨7⟩ = [.deferredHardwareIrq ⟨"first", 9, "keyboard"⟩] ∧ found ⟨6⟩ = [.normal "timer"] ∧
    (∀ port, (Client.rereading.finish 1 program start).channels.table.Retains port (found port)) ∧
    (Client.rereading.history 1 program start).Always Entry.Isolates := by
  intro program start found
  have hstart : Channels.ofPage .zero { callbackIrq := 5 } = .ok start := rfl
  have hirq : found ⟨7⟩ = [.deferredHardwareIrq ⟨"first", 9, "keyboard"⟩] := by decide +kernel
  have hinline : found ⟨6⟩ = [.normal "timer"] := by decide +kernel
  obtain ⟨hretains, halways⟩ := readers_are_isolated Client.rereading 1 program hstart
  exact ⟨hstart, hirq, hinline, hretains, halways⟩

end EventChannel
