import EventChannel.Proofs.Bounds
import EventChannel.Proofs.PortCustody.Answer
import EventChannel.Proofs.PortCustody.Settlement

namespace EventChannel

open Guest

namespace ChannelOperation

/-- Whether an operation returns a port that the hypervisor has granted it. -/
def obtainsPort : ChannelOperation → Bool
  | init | resume | allocUnbound _ | allocIpi _ => true
  | _ => false

/-- Whether an operation binds a port that the hypervisor has granted it. -/
def bindsPort : ChannelOperation → Bool
  | init | resume => true
  | _ => false

theorem leads_obtained {c : Client} (hc : c.LeavesPorts) {depth : Nat} {base : History}
    {op : ChannelOperation} (hop : op.obtainsPort = true) :
    Leads (fun _ => True) (Moved base [] []) (op.run (c.platform depth)) fun report s =>
      ∃ result, report = Report.ofPort result ∧ SettledSince base op.bindsPort result s := by
  cases op with
  | init => exact (Moved.leads_init hc).bind fun result => .pure fun _ hs => ⟨result, rfl, hs⟩
  | resume =>
    have hresume : Leads (fun _ => True) (Moved base [] []) (Guest.resume (c.platform depth))
        (SettledSince base true) := Leads.bind Moved.keeps_emit fun _ => Moved.leads_init hc
    exact hresume.bind fun result => .pure fun _ hs => ⟨result, rfl, hs⟩
  | allocUnbound remote =>
    exact (Moved.leads_allocUnbound hc remote).bind fun result => .pure fun _ hs => ⟨result, rfl, hs⟩
  | allocIpi vcpu =>
    exact (Moved.leads_allocIpi hc vcpu).bind fun result => .pure fun _ hs => ⟨result, rfl, hs⟩
  | _ => cases hop

theorem alike_obtained {σ : Type} {P Q : Platform σ} (h : P.TakesBackAlike Q) {op : ChannelOperation}
    (hop : op.obtainsPort = true) : Alike (op.run P) (op.run Q) := by
  have hreport {m m' : Guest σ (Except ChannelError Port)} (hm : Alike m m') :
      Alike (m >>= fun result => pure (Report.ofPort result))
        (m' >>= fun result => pure (Report.ofPort result)) :=
    hm.bind (fun _ => .refl _) fun _ => .pure _
  cases op with
  | init => exact hreport h.init
  | resume =>
    have hresume : Alike (Guest.resume P) (Guest.resume Q) := by
      unfold Guest.resume
      rw [h.note_eq]
      exact .bind_left fun _ => h.init
    exact hreport hresume
  | allocUnbound remote => exact hreport (h.allocate rfl)
  | allocIpi vcpu => exact hreport (h.allocate rfl)
  | _ => cases hop

end ChannelOperation

/-- No port leaks where an operation fails. A port that is returned has been granted, and none is given
back; an operation that fails gives back what it has been granted, once, and nothing if it has been
granted nothing. Operations that run meanwhile make no difference, if they leave ports alone, and
neither does the answer when a port is given back. -/
theorem no_port_leaks {c : Client} (hc : c.LeavesPorts) (depth : Nat) {op : ChannelOperation}
    (hop : op.obtainsPort = true) (s : System History) :
    (∀ report s', op.run (c.platform depth) s = .ok report s' → ∃ (result : Except ChannelError Port)
      (during : History), report = Report.ofPort result ∧ s'.outside = during ++ s.outside ∧
      Settled op.bindsPort during.granted during.closed result) ∧
    (∀ answer : UInt32 → History → Except Errno UInt32,
      upshot (op.run ((c.answeringClose answer).platform depth) s) =
        upshot (op.run (c.platform depth) s)) ∧
    ((∀ r history, (c.respond r history).Within Operation.InRange) →
      s.channels.config.upcallVcpu < 32 → ∃ report s', op.run (c.platform depth) s = .ok report s') := by
  refine ⟨fun report s' hrun => ?_, fun answer => ?_, fun hrange hvcpu => ?_⟩
  · have hstart : Moved s.outside [] [] s := .nil
    obtain ⟨result, rfl, _, _, hsettled, during, hduring, rfl, rfl⟩ :=
      (ChannelOperation.leads_obtained hc hop).of_ok hstart hrun
    exact ⟨result, during, rfl, hduring, hsettled⟩
  · exact ((ChannelOperation.alike_obtained (Client.takesBackAlike hc depth) hop) s).symm
  · have hcall (r : Request) : Keeps (fun _ => False) Bounded (call (c.platform depth) r) :=
      (Bounded.maintains hrange depth).call (Nat.le_refl depth) () r
    obtain ⟨report, s', hrun, -⟩ := Leads.exists_ok (Bounded.keeps_channels hcall op) hvcpu
    exact ⟨report, s', hrun⟩

/-- The hypervisor grants a number beyond the table, and each time that it is called another context
binds port 3 and begins to read its description. That the number cannot be given back makes no
difference. -/
theorem no_port_leaks_beyond_table :
    let client : Client := .granting 5000 fun
      | .hypercall _ => [.channels (.bindIrq ⟨3⟩ 9 "card" "nic"), .table (.takeReader ⟨3⟩)]
      | _ => []
    let refusing : Client := client.answeringClose fun _ _ => .error ⟨9⟩
    let start : Channels := ⟨.zero, .powerOn, { callbackIrq := 5 }, false, true, none⟩
    client.LeavesPorts ∧ ∃ s : System History,
      (ChannelOperation.allocIpi 0).run (client.platform 1) ⟨start, []⟩ =
        .ok (.error (.portOutOfRange 5000)) s ∧
      s.outside.granted = [5000] ∧ s.outside.closed = [5000] ∧
      (s.channels.table.slot ⟨3⟩).readers = 2 ∧
      upshot ((ChannelOperation.allocIpi 0).run (refusing.platform 1) ⟨start, []⟩) =
        (.ok (.error (.portOutOfRange 5000)), s.channels) := by
  intro client refusing start
  have hops (r : Request) (history : History) (allowed : Operation → Prop)
      (hbind : allowed (.channels (.bindIrq ⟨3⟩ 9 "card" "nic")))
      (hread : allowed (.table (.takeReader ⟨3⟩))) : (client.respond r history).Within allowed := by
    apply Program.within_sequence.2
    cases r with
    | hypercall op => exact List.forall_mem_cons.2 ⟨hbind, List.forall_mem_cons.2 ⟨hread, nofun⟩⟩
    | _ => exact nofun
  have hc : client.LeavesPorts := fun r history => hops r history _ rfl rfl
  have hrange (r : Request) (history : History) : (client.respond r history).Within Operation.InRange :=
    hops r history _ trivial trivial
  have hoffer : (match (ChannelOperation.allocIpi 0).run (client.platform 1) ⟨start, []⟩ with
      | .ok _ s | .error _ s => s.outside.granted) = [5000] := by decide +kernel
  have hreaders : ((upshot ((ChannelOperation.allocIpi 0).run (client.platform 1)
      ⟨start, []⟩)).2.table.slot ⟨3⟩).readers = 2 := by decide +kernel
  have hop : (ChannelOperation.allocIpi 0).obtainsPort = true := rfl
  obtain ⟨hobtained, halike, hreturns⟩ := no_port_leaks hc 1 hop ⟨start, []⟩
  obtain ⟨report, s, hrun⟩ := hreturns hrange (Nat.zero_lt_succ 31)
  obtain ⟨result, during, rfl, hduring, hsettled⟩ := hobtained report s hrun
  have hrefusing := halike fun _ _ => .error ⟨9⟩
  rw [hrun] at hoffer hreaders hrefusing
  have hgranted : s.outside.granted = [5000] := hoffer
  obtain rfl : during = s.outside := by rw [hduring, List.append_nil]
  rw [hgranted] at hsettled
  obtain ⟨rfl, hclosed⟩ := hsettled.of_beyond (by decide)
  exact ⟨hc, s, hrun, hgranted, hclosed, hreaders, hrefusing⟩

end EventChannel
