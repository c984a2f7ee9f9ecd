import EventChannel.Proofs.CurrentBinding.Settlement
import EventChannel.Proofs.CurrentBinding.Table

namespace EventChannel

open Guest

namespace Steady

/-- Before a call a handler that it starts is current. -/
def Ready (r : Request) (s : System History) : Prop :=
  Steady s ∧ ∀ depth, (Entry.called depth r s.channels).StartsCurrent s.outside

variable {c : Client} {depth : Nat} {port : Port}

theorem keeps_record {entry : Channels → Entry} (hstate : ∀ state, (entry state).state = state)
    (hentry : ∀ state, (entry state).changesBinding = false)
    (hstarts : ∀ state before, (entry state).StartsCurrent before) :
    Keeps SteadyUntil Steady (record entry) :=
  Leads.record fun state _ hs => hs.cons (hstate state) (hentry state) (hstarts state _)

section Calls

variable (hcall : ∀ r, Leads SteadyUntil (Ready r) (call (c.platform depth) r) fun _ => Steady)

include hcall

theorem keeps_call {r : Request} (hr : r.startsHandler = false) :
    Keeps SteadyUntil Steady (call (c.platform depth) r) := by
  apply (hcall r).of_pre
  intro s hs
  refine ⟨hs, fun _ => ?_⟩
  cases r with
  | handle context handler port =>
    cases context with
    | «inline» | deferred => cases hr
    | direct => trivial
  | _ => trivial

theorem stable : Stable (c.platform depth) SteadyUntil Steady :=
  ⟨fun _ hr _ _ => keeps_call hcall hr, keepsRemarks⟩

theorem leads_service_normal : Leads SteadyUntil
    (fun s => Steady s ∧ s.channels.table.kind port = .normal)
    (service (c.platform depth) port .normal) fun _ => Steady := by
  apply Guest.leads_service_normal
  · intro handler
    apply (hcall _).of_pre
    intro s hs
    obtain ⟨⟨hs, hkind⟩, hhandler⟩ := hs
    rw [← hkind] at hhandler
    have hinstalled := hs.bound.installed hhandler
    rw [hkind] at hinstalled
    exact ⟨hs, fun _ => hinstalled⟩
  · exact Leads.of_pre (keepsRemarks _ rfl) fun s hs => hs.1.1

theorem leads_service (kind : Kind) : Leads SteadyUntil
    (fun s => Steady s ∧ s.channels.table.kind port = kind)
    (service (c.platform depth) port kind) fun _ => Steady := by
  by_cases hnormal : kind = .normal
  · subst hnormal
    exact leads_service_normal hcall
  · have hservice : Keeps SteadyUntil Steady (service (c.platform depth) port kind) :=
      keeps_service (stable hcall) (keeps_call hcall rfl) (fun he => absurd he hnormal)
        (fun _ => keeps_onTable fun _ _ => ⟨rfl, rfl⟩) keeps_enqueue
    exact Leads.of_pre hservice fun s hs => hs.1

theorem keeps_deliver (port : Port) : Keeps SteadyUntil Steady (deliver (c.platform depth) port) := by
  have hcount : Keeps SteadyUntil Steady (onTable fun t => t.countDelivery port) :=
    keeps_onTable fun t q =>
      ⟨t.field_modifySlot _ _ fun _ => rfl, t.field_modifySlot _ _ fun _ => rfl⟩
  apply Leads.bind hcount
  intro deliveries
  apply Leads.table.bind
  intro t
  have hseen : Leads SteadyUntil (fun s => Steady s ∧ s.channels.table = t)
      (note (c.platform depth) (.delivering port (t.kind port) deliveries)) fun _ s =>
      Steady s ∧ s.channels.table.kind port = t.kind port := by
    apply Client.leads_emit
    intro state o hs
    obtain ⟨hs, rfl⟩ := hs
    exact ⟨hs.cons rfl rfl trivial, rfl⟩
  exact hseen.bind fun _ => leads_service hcall _

theorem keeps_runItem (port : Port) : Keeps SteadyUntil Steady (runItem (c.platform depth) port) := by
  have hclaim : Keeps SteadyUntil Steady (onTable fun t => t.claim port) :=
    keeps_onTable fun t q =>
      ⟨t.field_modifySlot _ _ fun _ => rfl, t.field_modifySlot _ _ fun _ => rfl⟩
  apply leads_runItem_of_found (stable hcall) hclaim (keeps_emit fun _ => rfl)
  intro handler
  apply (hcall _).of_pre
  intro s hs
  obtain ⟨hs, hdeferred, hhandler⟩ := hs
  exact ⟨hs, fun _ => ⟨_, hdeferred, hs.bound.installed hhandler⟩⟩

theorem parts : Operation.Parts (c.platform depth) SteadyUntil Steady where
  stable := stable hcall
  line _ hline := keeps_call hcall (Request.startsHandler_of_line hline)
  page := ⟨keeps_onPage, fun _ => Leads.modifyPage fun _ _ hs => ⟨hs.bound, hs.always⟩,
    fun _ _ => keeps_emit fun _ => rfl, fun _ _ => keeps_emit fun _ => rfl,
    fun _ => keeps_emit fun _ => rfl⟩
  setInterruptsMasked _ := ⟨fun _ hs => ⟨hs.bound, hs.always⟩⟩
  setConnected _ := ⟨fun _ hs => ⟨hs.bound, hs.always⟩⟩
  setSuspendPort _ := ⟨fun _ hs => ⟨hs.bound, hs.always⟩⟩
  publish := keeps_publish
  dropAction := keeps_dropAction
  resetSlot := keeps_resetSlot
  enqueue := keeps_enqueue
  cancel := keeps_cancel
  takeWord _ := keeps_onTable fun _ _ => ⟨rfl, rfl⟩
  setOutstanding _ := keeps_onTable fun _ _ => ⟨rfl, rfl⟩
  acknowledge _ := keeps_onTable fun _ _ => ⟨rfl, rfl⟩
  reader _ hop := TableOperation.keeps_moveReader
    (fun _ _ => keeps_modifySlot fun _ _ => ⟨rfl, rfl⟩) (fun _ => keeps_emit fun _ => rfl)
    (fun _ => keeps_emit fun _ => rfl) hop
  consume _ _ := keeps_consume (stable hcall) (keeps_onPage _) (keeps_emit fun _ => rfl)
    (keeps_deliver hcall)
  runItem := keeps_runItem hcall

theorem keeps_logged (op : Operation) :
    Keeps SteadyUntil Steady (op.logged (c.platform depth) depth) := by
  have hcount (port : Port) : Keeps SteadyUntil Steady (onTable fun t => t.countDelivery port) :=
    keeps_onTable fun t q =>
      ⟨t.field_modifySlot _ _ fun _ => rfl, t.field_modifySlot _ _ fun _ => rfl⟩
  have hrun : Keeps SteadyUntil Steady (op.run (c.platform depth)) :=
    (parts hcall).run (fun _ hs => hs.steadyUntil) fun port _ => hcount port
  apply Operation.keeps_logged _ hrun
  · exact fun result => keeps_record (fun _ => rfl) (fun _ => rfl) fun _ _ => trivial
  · exact keeps_record (fun _ => rfl) (fun _ => rfl) fun _ _ => trivial

end Calls

theorem maintains (c : Client) (limit : Nat) :
    c.Maintains limit SteadyUntil (fun _ : Unit => Steady) (fun _ => Ready) fun _ _ => True where
  respond _ _ _ _ := Program.within_of_forall fun _ => trivial
  called _ depth _ := Leads.record fun _ _ hs => hs.1.cons rfl rfl (hs.2 depth)
  answered _ _ _ _ := keeps_record (fun _ => rfl) (fun _ => rfl) fun _ _ => trivial
  logged _ _ hcall _ op _ := keeps_logged (hcall ()) op

end Steady

/-- A handler that is started inline or by a deferred run is that of the binding in force, and
published kinds agree with actions throughout, whatever operations are run and however they are
nested. The binding in force is what the results of operations settle, those of initialisation
included. -/
theorem only_current_bindings_run (c : Client) (depth : Nat) {α : Type} (program : Program α)
    {page : SharedPage} {config : Config} {start : Channels}
    (hstart : Channels.ofPage page config = .ok start) :
    (c.finish depth program start).channels.table.Agrees ∧
    (c.history depth program start).Always Entry.RunsCurrent ∧
    (c.history depth program start).Always Entry.SettlesBindings ∧
    (c.history depth program start).Always Entry.TellsDeeds := by
  obtain ⟨_, rfl⟩ := Channels.eq_of_ofPage hstart
  have hbound : Bound ActionTable.powerOn [] := by
    intro port
    rw [ActionTable.kind, ActionTable.slot_powerOn]
    exact Steady.sound_empty_kind
  have hwithin : program.Within fun _ => True := Program.within_of_forall fun _ => trivial
  have hbegin : Steady ⟨⟨page, .powerOn, config, true, false, none⟩, []⟩ := ⟨hbound, .nil⟩
  obtain ⟨hagrees, halways⟩ := (Steady.maintains c (depth + 1)).holds () hwithin hbegin
    fun _ hs => hs.steadyUntil
  exact ⟨hagrees, halways, c.always_settlesBindings depth program _,
    c.always_tellsDeeds depth program _⟩

/-- A client whose handlers bind another in their own place, queue work for it and reset the
port. -/
def Client.rebinding : Client :=
  granting 3 fun
    | .handle _ _ port => [.channels (.bindDeferred port "later"), .page (.raise port 0),
        .channels .scannerPass, .table (.resetSlot port)]
    | _ => []

/-- A reset that is refused, since the inline binding has a reader, comes before the port is bound
again. -/
theorem only_current_bindings_run_rebinding :
    Channels.ofPage .zero { callbackIrq := 5 } =
      .ok ⟨.zero, .powerOn, { callbackIrq := 5 }, true, false, none⟩ ∧
    (Client.rebinding.history 2
      (.sequence () [.channels .init, .channels (.bindInline ⟨7⟩ "former"),
        .table (.takeReader ⟨7⟩), .table (.resetSlot ⟨7⟩), .table (.releaseReader ⟨7⟩),
        .channels (.bindInline ⟨7⟩ "first"), .page (.raise ⟨7⟩ 0), .channels .scannerPass,
        .channels .deferredPass])
      ⟨.zero, .powerOn, { callbackIrq := 5 }, true, false, none⟩).Always Entry.RunsCurrent := by
  have hstart : Channels.ofPage .zero { callbackIrq := 5 } =
      .ok ⟨.zero, .powerOn, { callbackIrq := 5 }, true, false, none⟩ := rfl
  exact ⟨hstart, (only_current_bindings_run _ 2 _ hstart).2.1⟩

end EventChannel
