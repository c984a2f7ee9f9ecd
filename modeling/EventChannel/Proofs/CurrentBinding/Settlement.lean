import EventChannel.Proofs.CurrentBinding.Invariant
import EventChannel.Proofs.Deeds

namespace EventChannel

open Guest

/-- What a deed makes of the binding of a port. -/
def Deed.rebind (port : Port) (binding : Option Action) : Deed → Option Action
  | bound p action => if p = port then some action else binding
  | dropped p | reset p => if p = port then none else binding
  | queued _ | cancelled .. => binding

/-- What the result of an operation settles about the binding of a port, which had been `former` as
the operation began. -/
def Operation.Settles (op : Operation) (result : Except ChannelError Report) (port : Port)
    (former binding : Option Action) : Prop :=
  match op with
  | .table (.publish p action) =>
    binding = if result.isOk ∧ p = port then some action else former
  | .channels (.bindInline p handler) =>
    binding = if result.isOk ∧ p = port then some (.normal handler) else former
  | .channels (.bindDeferred p handler) =>
    binding = if result.isOk ∧ p = port then some (.deferredProcedure handler) else former
  | .channels (.bindIrq p vector description handler) =>
    let irq := IrqBinding.ofDescription handler vector description
    binding = if result.isOk ∧ p = port then some (.deferredHardwareIrq irq) else former
  | .table (.dropAction p) | .channels (.unbind p) =>
    binding = if result.isOk ∧ p = port then none else former
  | .table (.resetSlot p) => binding = if p = port then none else former
  | .table .reset => ∃ reached untouched, Port.all = reached ++ untouched ∧
    (binding = if port ∈ reached then none else former) ∧
    match result with
    | .ok _ => untouched = []
    | .error e => ∃ p, e = .slotBusy p ∧ reached.getLast? = some p
  | _ => True

/-- An operation that ends has settled the bindings as its result tells. -/
def Entry.SettlesBindings : Entry → History → Prop
  | ended depth op result _, before => ∀ port,
    op.Settles result port ((before.outset depth).binding port) (before.binding port)
  | _, _ => True

theorem Deed.foldl_unlessRefused {deed : Deed} {p port : Port} {new : Option Action}
    (hdeed : ∀ former, deed.rebind port former = if p = port then new else former)
    (result : Except ChannelError Report) (former : Option Action) :
    (deed.unlessRefused result).foldl (Deed.rebind port) former =
      if result.isOk ∧ p = port then new else former := by
  cases result with
  | error e => exact (if_neg fun h => Bool.false_ne_true h.1).symm
  | ok report =>
    have hdone : (Except.ok (ε := ChannelError) report).isOk = true := rfl
    simp only [hdone, true_and]
    exact hdeed former

/-- A reset takes the bindings of the ports that it comes to. -/
theorem Resets.rebind {ports : List Port} {result : Except ChannelError Unit} {deeds : List Deed}
    (h : Resets ports result deeds) (port : Port) (former : Option Action) :
    ∃ reached untouched, ports = reached ++ untouched ∧
      (deeds.foldl (Deed.rebind port) former = if port ∈ reached then none else former) ∧
      match Report.ofUnit result with
      | .ok _ => untouched = []
      | .error e => ∃ p, e = .slotBusy p ∧ reached.getLast? = some p := by
  induction h generalizing former with
  | done => exact ⟨[], [], rfl, rfl, rfl⟩
  | @refused p ports found =>
    refine ⟨[p], ports, rfl, ?_, p, rfl, rfl⟩
    change (if p = port then none else former) = _
    simp only [List.mem_singleton, eq_comm]
  | @next p ports result deeds found later ih =>
    obtain ⟨reached, untouched, hports, hfold, hend⟩ := ih (if p = port then none else former)
    refine ⟨p :: reached, untouched, congrArg _ hports, ?_, ?_⟩
    · refine hfold.trans ?_
      by_cases he : p = port
      · simp only [he, if_true, List.mem_cons, true_or, ite_self]
      · simp only [he, if_false, List.mem_cons, Ne.symm he, false_or]
    · cases result with
      | error e =>
        obtain ⟨q, rfl, hlast⟩ := hend
        exact ⟨q, rfl, by rw [List.getLast?_cons, hlast]; rfl⟩
      | ok _ => exact hend

theorem Operation.Does.settles {op : Operation} {result : Except ChannelError Report}
    {deeds : List Deed} (h : op.Does result deeds) (hop : op.rebinds = true) (port : Port)
    (former : Option Action) : op.Settles result port former (deeds.foldl (Deed.rebind port) former) := by
  cases op with
  | table op =>
    cases op with
    | publish | dropAction =>
      obtain rfl := h
      exact Deed.foldl_unlessRefused (fun _ => rfl) result former
    | resetSlot p =>
      obtain ⟨r, -, hresets⟩ := h
      cases hresets with
      | refused => rfl
      | next _ later =>
        cases later with
        | done => rfl
    | reset =>
      obtain ⟨r, rfl, hresets⟩ := h
      exact hresets.rebind port former
    | _ => cases hop
  | channels op =>
    cases op with
    | bindInline | bindDeferred | bindIrq =>
      obtain rfl := h
      exact Deed.foldl_unlessRefused (fun _ => rfl) result former
    | unbind p =>
      obtain ⟨found, rfl⟩ := h
      rw [List.foldl_append]
      exact Deed.foldl_unlessRefused (fun _ => rfl) result former
    | _ => cases hop
  | _ => cases hop

namespace History

theorem binding_saw (depth : Nat) (e : Event) (state : Channels) (before : History) (port : Port) :
    binding port (.saw depth e state :: before) =
      e.deed?.toList.foldl (Deed.rebind port) (before.binding port) := by
  cases e with
  | noticed n => cases n <;> rfl
  | _ => rfl

theorem follows_binding (depth : Nat) : Follows depth fun deeds history => ∀ port,
    history.binding port = deeds.foldl (Deed.rebind port) ((history.outset depth).binding port) := by
  intro deeds e state before hbefore port
  rw [binding_saw, List.foldl_append, hbefore]
  rfl

end History

/-- Whatever operations are run and however they are nested, each that ends has settled the bindings
as its result tells. -/
theorem Client.always_settlesBindings (c : Client) (depth : Nat) {α : Type} (program : Program α)
    (start : Channels) : (c.history depth program start).Always Entry.SettlesBindings := by
  apply c.always_of_ended
  · intro entry before hentry
    cases entry with
    | ended depth op result state => exact absurd rfl (hentry depth op result state)
    | _ => trivial
  · intro depth op
    by_cases hop : op.rebinds = true
    · have hrun := (History.follows_binding depth).leads_run_of_rebinds (c := c) hop
      apply hrun.weaken
      · rintro s ⟨state, before, hs⟩ port
        have houtset : History.outset depth (.began depth op state :: before) = before := if_pos rfl
        rw [hs, houtset]
        rfl
      · rintro result s ⟨deeds, hs, hdoes⟩ state port
        rw [hs port]
        exact hdoes.settles hop port _
    · apply Leads.trivial.of_post
      intro result s _ state port
      cases op with
      | table op =>
        cases op with
        | publish | dropAction | resetSlot | reset => exact absurd rfl hop
        | _ => trivial
      | channels op =>
        cases op with
        | bindInline | bindDeferred | bindIrq | unbind => exact absurd rfl hop
        | _ => trivial
      | _ => trivial

end EventChannel
