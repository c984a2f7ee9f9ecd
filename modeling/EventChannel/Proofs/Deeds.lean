import EventChannel.Proofs.Deeds.Steps

namespace EventChannel

open Guest

variable {c : Client} {depth : Nat} {K : List Deed → History → Prop}

namespace Follows

variable (h : Follows depth K)

include h

/-- An operation on the table that binds or takes bindings back does what the function behind it does. -/
theorem leads_rebinding {op : TableOperation} (hop : (Operation.table op).rebinds = true) :
    Leads (fun _ => True) (Surrounded (K [])) (op.run (c.platform depth)) fun result =>
      Done K [] (Operation.Does (.table op) result) := by
  cases op with
  | publish port action =>
    apply h.leads_publish.bind
    intro result
    exact .pure fun s hs => ⟨_, hs, (Deed.unlessRefused_ofUnit _ result).symm⟩
  | dropAction port =>
    apply h.leads_dropAction.bind
    intro result
    exact .pure fun s hs => ⟨_, hs, (Deed.unlessRefused_ofUnit _ result).symm⟩
  | resetSlot port =>
    apply h.leads_resetSlot.bind
    intro result
    exact .pure fun s hs => hs.mono fun _ hmore => ⟨result, rfl, hmore⟩
  | reset =>
    apply h.leads_resetTable.bind
    intro result
    exact .pure fun s hs => hs.mono fun _ hmore => ⟨result, rfl, hmore⟩
  | _ => cases hop

theorem leads_rebindingChannels {op : ChannelOperation} (hop : op.rebinds = true) :
    Leads (fun _ => True) (Surrounded (K [])) (op.run (c.platform depth)) fun result =>
      Done K [] (Operation.Does (.channels op) result) := by
  have hattach (port : Port) (action : Action) : Leads (fun _ => True) (Surrounded (K []))
      (attach (c.platform depth) port action >>= fun result => pure (Report.ofUnit result))
      fun result => Done K [] fun more => more = (Deed.bound port action).unlessRefused result := by
    apply h.leads_attach.bind
    intro result
    exact .pure fun s hs => ⟨_, hs, (Deed.unlessRefused_ofUnit _ result).symm⟩
  cases op with
  | bindInline port handler => exact hattach port _
  | bindDeferred port handler => exact hattach port _
  | bindIrq port vector description handler => exact hattach port _
  | unbind port =>
    apply h.leads_unbind.bind
    intro result
    apply Leads.pure
    intro s hs
    apply hs.mono
    rintro _ ⟨found, rfl⟩
    exact ⟨found, congrArg (· ++ _) (Deed.unlessRefused_ofUnit _ result).symm⟩
  | _ => cases hop

section Calls

variable (hcall : KeptByCalls c depth K)

include hcall

theorem leads_lifecycle {op : ChannelOperation} (hop : op.isLifecycle = true) :
    Leads (fun _ => True) (Surrounded (K [])) (op.run (c.platform depth)) fun result =>
      Done K [] (Operation.Does (.channels op) result) := by
  have hstable : Stable (c.platform depth) (fun _ => True) (Surrounded (K [])) := h.stable hcall
  have hinit : Leads (fun _ => True) (Surrounded (K []))
      (init (c.platform depth) >>= fun result => pure (Report.ofPort result)) fun result =>
        Done K [] fun more => ∃ r, result = Report.ofPort r ∧ Initialises r more := by
    apply (h.leads_init hcall).bind
    intro result
    exact .pure fun s hs => hs.mono fun _ hmore => ⟨result, rfl, hmore⟩
  have hquiesce : Keeps (fun _ => True) (Surrounded (K [])) quiesce :=
    keeps_quiesce (keeps_modifyChannels _) (keeps_modifyPage _)
  have hdrained : KeepsRemarks (c.platform depth) (fun _ => True) (Done K [] Drains) :=
    fun n hn => Done.keeps fun _ => h.keepsRemarks n hn
  cases op with
  | init => exact hinit
  | resume =>
    have hresume := Leads.bind (h.keepsRemarks (c := c) (.resuming) rfl) fun _ => hinit
    rw [← bind_assoc] at hresume
    exact hresume
  | suspend =>
    exact (leads_suspend hquiesce (h.leads_emptyQueue hcall) hdrained).bind fun _ => .pure fun _ => id
  | shutdown =>
    exact (leads_shutdown hstable hquiesce (h.leads_emptyQueue hcall) hdrained).bind fun _ =>
      .pure fun _ => id
  | _ => cases hop

theorem leads_channels (op : ChannelOperation) : Leads (fun _ => True) (Surrounded (K []))
    (op.run (c.platform depth)) fun result => Done K [] (Operation.Does (.channels op) result) := by
  have hpages : PageIndifferent (c.platform depth) (fun _ => True) (Surrounded (K [])) :=
    h.pageIndifferent
  have hidle (hrebinds : op.rebinds = false) (hlifecycle : op.isLifecycle = false)
      (hscan : op ≠ .scannerPass) : Keeps (fun _ => True) (Surrounded (K []))
        (op.run (c.platform depth)) :=
    ChannelOperation.keeps_run (h.stable hcall) (fun he => absurd (hrebinds.symm.trans he) nofun)
      (fun _ => (hpages.page _).discard) hpages.unmask
      (fun he => absurd (hlifecycle.symm.trans he) nofun)
      (ChannelOperation.keeps_line (h.stable hcall) (fun r _ => hcall [] r)
        fun _ => keeps_modifyChannels _)
      (fun he => absurd he hscan)
      (fun _ => keeps_deferredPass (h.stable hcall) (h.keeps_runWord hcall))
      fun _ _ => keeps_onTable _
  cases op with
  | init | resume | suspend | shutdown => exact h.leads_lifecycle hcall rfl
  | bindInline | bindDeferred | bindIrq | unbind => exact h.leads_rebindingChannels rfl
  | scannerPass =>
    exact (h.leads_scannerPass hcall).bind fun _ => .pure fun _ => id
  | _ => exact (hidle rfl rfl nofun).of_post fun _ _ hs => .of_nil hs rfl

theorem leads_table (op : TableOperation) : Leads (fun _ => True) (Surrounded (K []))
    (op.run (c.platform depth)) fun result => Done K [] (Operation.Does (.table op) result) := by
  have hidle (hslot : op.writesSlot = false) (hwork : op.movesWork = false) :
      Keeps (fun _ => True) (Surrounded (K [])) (op.run (c.platform depth)) :=
    TableOperation.keeps_run (h.stable hcall) (fun he => absurd (hslot.symm.trans he) nofun)
      (fun he => absurd (hwork.symm.trans he) nofun)
      (TableOperation.keeps_moveReader (fun _ _ => keeps_modifyTable _) (fun _ => h.keeps_emit rfl)
        fun _ => h.keeps_emit rfl)
      (fun _ => keeps_onTable _) (fun _ _ => keeps_onTable _) fun _ _ => keeps_onTable _
  cases op with
  | publish | dropAction | resetSlot | reset => exact h.leads_rebinding rfl
  | enqueue port =>
    apply h.leads_enqueue.bind
    intro fresh
    exact .pure fun s hs => ⟨_, hs, fresh, rfl, rfl⟩
  | cancel port =>
    apply h.leads_cancel.bind
    intro found
    exact .pure fun s hs => ⟨_, hs, found, rfl, rfl⟩
  | cancelAll =>
    apply h.leads_cancelAll.bind
    intro n
    exact .pure fun s hs => hs.mono fun _ hmore => ⟨n, rfl, hmore⟩
  | broadcast =>
    have hbroadcast : Leads (fun _ => True) (Surrounded (K [])) (Guest.broadcast (c.platform depth))
        fun counts => Done K [] fun more =>
          ∃ fresh : List Port, more = fresh.map .queued ∧ counts.2 = fresh.length :=
      h.leads_broadcastTo _
    apply hbroadcast.bind
    rintro ⟨marked, queued⟩
    apply Leads.pure
    intro s hs
    apply hs.mono
    rintro _ ⟨fresh, rfl, rfl⟩
    exact ⟨marked, fresh, rfl, rfl⟩
  | runWordAt word =>
    have hword : Keeps (fun _ => True) (Surrounded (K [])) (Guest.runWordAt (c.platform depth) word) :=
      keeps_runWordAt (h.keeps_runWord hcall) (fun _ _ => trivial) word
    exact Leads.bind hword fun _ => .pure fun _ hs => .of_nil hs rfl
  | _ => exact (hidle rfl rfl).of_post fun _ _ hs => .of_nil hs rfl

theorem leads_run (op : Operation) : Leads (fun _ => True) (Surrounded (K []))
    (op.run (c.platform depth)) fun result => Done K [] (op.Does result) := by
  have hpages : PageIndifferent (c.platform depth) (fun _ => True) (Surrounded (K [])) :=
    h.pageIndifferent
  cases op with
  | page op => exact Leads.bind (hpages.run op) fun _ => .pure fun _ hs => .of_nil hs rfl
  | vcpu vcpu op =>
    exact Leads.bind (VcpuOperation.keeps_run hpages.page vcpu op) fun _ =>
      .pure fun _ hs => .of_nil hs rfl
  | table op => exact h.leads_table hcall op
  | channels op => exact h.leads_channels hcall op

end Calls

/-- An operation that makes no call does what it does in one piece. -/
theorem leads_run_of_rebinds {op : Operation} (hop : op.rebinds = true) :
    Leads (fun _ => True) (Surrounded (K [])) (op.run (c.platform depth)) fun result =>
      Done K [] (op.Does result) := by
  cases op with
  | table op => exact h.leads_rebinding hop
  | channels op => exact h.leads_rebindingChannels hop
  | _ => cases hop

end Follows

namespace History

theorem follows_deeds (depth : Nat) :
    Follows depth fun deeds history => history.deeds depth = deeds := by
  rintro _ e state before rfl
  exact if_pos rfl

/-- What is done in a call is not done by the operation that calls. -/
theorem deeds_keptByCalls (c : Client) (depth : Nat) :
    KeptByCalls c depth fun deeds history => history.deeds depth = deeds := by
  intro deeds r
  have hbelow (entry : Entry) (before : History) (hentry : entry.depth < depth)
      (hbefore : before.deeds depth = deeds) : History.deeds depth (entry :: before) = deeds :=
    (deeds_cons_of_ne (Nat.ne_of_lt hentry) before).trans hbefore
  exact Client.leads_call_of_below (fun _ _ => id) hbelow (fun _ _ => trivial) fun _ _ _ => id

end History

/-- Whatever operations are run and however they are nested, each that ends has done what its result
tells of. -/
theorem Client.always_tellsDeeds (c : Client) (depth : Nat) {α : Type} (program : Program α)
    (start : Channels) : (c.history depth program start).Always Entry.TellsDeeds := by
  apply c.always_of_ended
  · intro entry before hentry
    cases entry with
    | ended depth op result state => exact absurd rfl (hentry depth op result state)
    | _ => trivial
  · intro depth op
    have hrun := (History.follows_deeds depth).leads_run (History.deeds_keptByCalls c depth) op
    apply hrun.weaken fun _ hs => hs.deeds
    rintro result s ⟨_, rfl, hdoes⟩ state
    exact hdoes

end EventChannel
