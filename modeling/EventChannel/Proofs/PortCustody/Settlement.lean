import EventChannel.Proofs.InterruptedReset
import EventChannel.Proofs.PortCustody.Account

namespace EventChannel

open Guest

/-- How the ports that an operation is granted, and those that it gives back, go with its result. Only
an operation that binds the port as well gives back one that is within the table. -/
inductive Settled (binds : Bool) :
    List UInt32 → List UInt32 → Except ChannelError Port → Prop where
  | kept (port : Port) : Settled binds [port.number] [] (.ok port)
  | refused {e : ChannelError} (h : ∀ number, e ≠ .portOutOfRange number) :
    Settled binds [] [] (.error e)
  | beyond {number : UInt32} (h : 1024 ≤ number.toNat) :
    Settled binds [number] [number] (.error (.portOutOfRange number))
  | busy (port : Port) (h : binds = true) :
    Settled binds [port.number] [port.number] (.error (.slotBusy port))

theorem Settled.eq_of_ok {binds : Bool} {granted closed : List UInt32} {port : Port}
    (h : Settled binds granted closed (.ok port)) : granted = [port.number] ∧ closed = [] := by
  cases h
  exact ⟨rfl, rfl⟩

/-- A number beyond the table is given back. -/
theorem Settled.of_beyond {binds : Bool} {number : UInt32} {closed : List UInt32}
    {result : Except ChannelError Port} (h : Settled binds [number] closed result)
    (hbeyond : 1024 ≤ number.toNat) : result = .error (.portOutOfRange number) ∧ closed = [number] := by
  have hwithin (port : Port) : number ≠ port.number := by
    rintro rfl
    rw [Port.toNat_number] at hbeyond
    exact Nat.not_lt.2 hbeyond port.index.isLt
  generalize hgranted : [number] = granted at h
  cases h with
  | kept port => exact absurd (List.cons.inj hgranted).1 (hwithin port)
  | refused h => cases hgranted
  | beyond h =>
    cases hgranted
    exact ⟨rfl, rfl⟩
  | busy port _ => exact absurd (List.cons.inj hgranted).1 (hwithin port)

theorem Settled.binding {binds : Bool} {granted closed : List UInt32}
    {result : Except ChannelError Port} (h : Settled binds granted closed result) :
    Settled true granted closed result := by
  cases h with
  | kept port => exact .kept port
  | refused h => exact .refused h
  | beyond h => exact .beyond h
  | busy port _ => exact .busy port rfl

/-- Since the history was `base`, ports have been granted and given back as goes with a result. -/
abbrev SettledSince (base : History) (binds : Bool) (result : Except ChannelError Port) :
    System History → Prop :=
  Surrounded fun history =>
    ∃ granted closed, Settled binds granted closed result ∧ base.Moved granted closed history

section Refusals

variable {σ : Type} {P : Platform σ} {lost pre : System σ → Prop} {port : Port} {action : Action}

/-- A port is published or refused since its action has readers. -/
theorem leads_publish_refusal : Leads lost pre (publish P port action) fun result _ =>
    ∀ e, result = .error e → e = .slotBusy port := by
  have hwrite (f : ActionTable → ActionTable) (J : System σ → Prop) :
      Leads lost J (modifyTable f) fun _ _ => True := Leads.modifyTable fun _ _ _ => trivial
  have hrestore (former : Kind) (e : ChannelError) :
      Leads lost (fun _ => ∀ e', Except.error (α := Action) e = .error e' → e' = .slotBusy port)
        (restoreKind port former) fun _ _ =>
          ∀ e', Except.error (α := Unit) e = .error e' → e' = .slotBusy port :=
    Leads.modifyTable fun _ _ hs e' he => hs e' (congrArg Except.error (Except.error.inj he))
  exact leads_publish_of_replaceAction (fun _ _ => True) (fun _ => hwrite _ _)
    (fun _ => Leads.emit fun _ _ _ => trivial) (fun _ => leads_replaceAction_refusal) hrestore
    (fun _ _ => hwrite _ _) fun _ => Leads.emit fun _ _ _ => nofun

theorem leads_attach_refusal : Leads (fun _ => True) pre (attach P port action) fun result _ =>
    ∀ e, result = .error e → e = .slotBusy port :=
  leads_attach_of_publish leads_publish_refusal (fun _ _ => id)
    (Leads.trivial.of_pre fun _ _ => True.intro) (Leads.trivial.of_post fun _ _ _ => nofun)

theorem leads_resetTable_refusal : Leads lost pre (resetTable P) fun result _ =>
    ∀ e, result = .error e → ∃ k, e = .slotBusy k := by
  have hseen (e : Event) (c : Channels) (o : σ) (_ : True) : True := trivial
  apply Leads.of_held
  intro c
  by_cases hfree : ∀ p, (c.table.slot p).readers = 0
  · have hreset : Leads lost (Held (fun _ => True) c) (resetTable P) _ := held_resetTable hseen hfree
    apply hreset.weaken fun _ hs => ⟨hs.channels, trivial⟩
    rintro _ _ ⟨rfl, -⟩
    exact nofun
  · obtain ⟨p, hp⟩ := Classical.not_forall.1 hfree
    obtain ⟨k, hk⟩ := ActionTable.exists_lowestRead hp
    obtain ⟨_, -, hreset⟩ := held_resetTable_busy (P := P) hseen hk
    apply hreset.weaken fun _ hs => ⟨hs.channels, trivial⟩
    rintro _ _ ⟨rfl, -⟩ e he
    exact ⟨k, (Except.error.inj he).symm⟩

end Refusals

variable {c : Client} {depth : Nat} {base : History} {granted closed : List UInt32} {binds : Bool}

theorem Moved.pageIndifferent :
    PageIndifferent (c.platform depth) (fun _ => True) (Moved base granted closed) :=
  Surrounded.pageIndifferent (fun _ => keeps_emit) fun _ _ => trivial

theorem Moved.slotIndifferent :
    SlotIndifferent (c.platform depth) (fun _ => True) (Moved base granted closed) :=
  Surrounded.slotIndifferent fun _ => keeps_emit

theorem Moved.keeps_attach (port : Port) (action : Action) :
    Keeps (fun _ => True) (Moved base granted closed) (attach (c.platform depth) port action) := by
  have hpages : PageIndifferent (c.platform depth) (fun _ => True) (Moved base granted closed) :=
    pageIndifferent
  exact Guest.keeps_attach (fun _ _ => keeps_emit) (slotIndifferent.publish port action)
    (hpages.unmask port)

section Clients

variable (hc : c.LeavesPorts)

include hc

namespace Moved

theorem leads_giveBack (number : UInt32) : Leads (fun _ => True) (Moved base granted closed)
    (giveBack (c.platform depth) number) fun _ => Moved base granted (number :: closed) := by
  have hcall : Leads (fun _ => True) (Moved base granted closed)
      (call (c.platform depth) (.hypercall (.close number))) fun _ =>
      Moved base granted (number :: closed) := leads_call hc _
  apply hcall.bind
  intro reply
  split
  · exact keeps_emit
  · exact .pure fun _ => id

/-- A number beyond the table is given back, and no other. -/
theorem leads_adopt (number : UInt32) : Leads (fun _ => True) (Moved base [number] [])
    (adopt (c.platform depth) number) (SettledSince base binds) := by
  unfold adopt
  split
  next port hport =>
    apply Leads.pure
    intro s hs
    obtain rfl := Port.ofNumber?_eq_some hport
    exact ⟨_, _, .kept port, hs⟩
  next hnone =>
    have hbeyond : 1024 ≤ number.toNat := Port.ofNumber?_eq_none hnone
    apply Leads.bind keeps_emit
    intro _
    apply (leads_giveBack hc number).bind
    intro _
    exact .pure fun _ hs => ⟨_, _, .beyond hbeyond, hs⟩

theorem leads_allocate {op : Hypercall}
    (hgranted : ∀ reply, (Request.hypercall op).granted? reply = reply.toOption)
    (hclosed : (Request.hypercall op).closed? = none) :
    Leads (fun _ => True) (Moved base [] []) (allocate (c.platform depth) op)
      (SettledSince base binds) := by
  have hcall : Leads (fun _ => True) (Moved base [] [])
      (call (c.platform depth) (.hypercall op)) fun reply => Moved base reply.toOption.toList [] := by
    apply (leads_call hc (.hypercall op)).of_post
    intro reply s hs
    rw [hgranted, hclosed, List.append_nil] at hs
    exact hs
  exact Guest.leads_allocate hcall (fun _ _ hs => ⟨_, _, .refused nofun, hs⟩) (leads_adopt hc)

theorem leads_allocIpi (vcpu : UInt32) : Leads (fun _ => True) (Moved base [] [])
    (allocIpi (c.platform depth) vcpu) (SettledSince base binds) :=
  leads_allocate hc (fun reply => by cases reply <;> rfl) rfl

theorem leads_allocUnbound (remote : DomainId) : Leads (fun _ => True) (Moved base [] [])
    (allocUnbound (c.platform depth) remote) (SettledSince base binds) :=
  leads_allocate hc (fun reply => by cases reply <;> rfl) rfl

/-- The port for suspend broadcasts is kept once it is bound. -/
theorem leads_reserveSuspendPort : Leads (fun _ => True) (Moved base [] [])
    (reserveSuspendPort (c.platform depth)) (SettledSince base true) := by
  have hattach (port : Port) : Leads (fun _ => True) (SettledSince base false (.ok port))
      (attach (c.platform depth) port .suspend) fun result s =>
      Moved base [port.number] [] s ∧ ∀ e, result = .error e → e = .slotBusy port := by
    apply (Leads.and (keeps_attach port .suspend) leads_attach_refusal).of_pre
    rintro s ⟨granted, closed, hsettled, hs⟩
    obtain ⟨rfl, rfl⟩ := hsettled.eq_of_ok
    exact hs
  apply Guest.leads_reserveSuspendPort _ _ hattach
  · exact fun port s hs => ⟨_, _, .kept port, hs.1⟩
  · intro port e
    apply Leads.assume
    intro he
    obtain rfl := he e rfl
    apply (leads_giveBack hc port.number).of_post
    exact fun _ s hs => ⟨_, _, .busy port rfl, hs⟩
  · exact fun config => (leads_allocIpi hc config.suspendVcpu).of_pre fun _ hs => hs.1
  · rintro e s ⟨_, _, hsettled, hs⟩
    exact ⟨_, _, hsettled.binding, hs⟩

/-- An initialisation that is refused earlier has been granted no port. -/
theorem leads_init : Leads (fun _ => True) (Moved base [] []) (init (c.platform depth))
    (SettledSince base true) := by
  have hwrite {K : History → Prop} (f : Channels → Channels) :
      Keeps (fun _ => True) (Surrounded K) (modifyChannels f) := ⟨fun _ => id⟩
  have hquiesce {K : History → Prop} :
      Keeps (fun _ => True) (Surrounded K) (quiesce : Guest History Unit) := ⟨fun _ => id⟩
  have hreset : Leads (fun _ => True) (Moved base [] []) (resetTable (c.platform depth))
      fun result s => Moved base [] [] s ∧ ∀ e, result = .error e → ∃ k, e = .slotBusy k := by
    have hkeeps : Keeps (fun _ => True) (Moved base [] []) (resetTable (c.platform depth)) :=
      keeps_resetTable slotIndifferent.resetSlot
    exact Leads.and hkeeps leads_resetTable_refusal
  have hcall (config : Config) :
      Leads (fun _ => True) (fun s => Moved base [] [] s ∧ s.channels.config = config)
        (call (c.platform depth) (.setParam .callbackIrq config.callbackIrq.toUInt64))
        fun _ : Except Errno Unit => Moved base [] [] :=
    Leads.of_pre (leads_call hc _) fun _ hs => hs.1
  have hnote (callbackIrq : UInt32) (port : Port) :
      Leads (fun _ => True) (SettledSince base true (.ok port))
        (note (c.platform depth) (.initialised callbackIrq port)) fun _ =>
        SettledSince base true (.ok port) := by
    apply Client.leads_emit
    rintro state o ⟨granted, closed, hsettled, hs⟩
    exact ⟨granted, closed, hsettled, hs.cons _⟩
  have hupcalls : Keeps (fun _ => True) (Moved base [] []) (maskUpcalls false : Guest History Unit) :=
    ⟨fun _ => id⟩
  have hrequiesce (e : ChannelError) : Keeps (fun _ => True) (SettledSince base true (.error e))
      (quiesce : Guest History Unit) := hquiesce
  have hbusy (e : ChannelError) (s : System History)
      (hs : Moved base [] [] s ∧ ∀ e', (.error e : Except ChannelError Unit) = .error e' →
        ∃ k, e' = .slotBusy k) : SettledSince base true (.error e) s := by
    obtain ⟨k, rfl⟩ := hs.2 e rfl
    exact ⟨_, _, .refused nofun, hs.1⟩
  exact leads_init_of_steps hquiesce (hwrite _) (hwrite _) hreset hbusy
    (Leads.of_pre pageIndifferent.discardPending fun _ hs => hs.1) hcall
    (fun _ _ hs => ⟨_, _, .refused nofun, hs⟩) hupcalls (hwrite _) (leads_reserveSuspendPort hc)
    hrequiesce (fun _ => hwrite _) hnote

end Moved

end Clients

end EventChannel
