import EventChannel.Proofs.ActionTable
import EventChannel.Proofs.Keeping.Operation
import EventChannel.Proofs.History

namespace EventChannel

open Guest

/-- The legacy interrupt that an operation with this result has bound a port to. -/
def Operation.boundIrq? (port : Port) :
    Operation → Except ChannelError Report → Option IrqBinding
  | channels (.bindIrq p vector description handler), .ok _ =>
    if p = port then some (.ofDescription handler vector description) else none
  | _, _ => none

namespace Entry

/-- The legacy interrupt that a port has been bound to. -/
def boundIrq? (port : Port) : Entry → Option IrqBinding
  | ended _ op result _ => op.boundIrq? port result
  | began .. | saw .. | called .. | answered .. => none

/-- Whether an entry tells that the action of a port has been replaced or dropped, or that the port
has been reset. A reset leaves an action that has readers. -/
def overwrites (port : Port) : Entry → Bool
  | saw _ (.published p _) _ | saw _ (.noticed (.actionDropped p _ _)) _ => p = port
  | saw _ (.slotReset p) state => p = port && (state.table.slot p).readers = 0
  | _ => false

end Entry

/-- The legacy interrupt that a port was bound to last, unless that has been overwritten since. -/
def History.standing (port : Port) : History → Option IrqBinding
  | [] => none
  | entry :: before =>
    match entry.boundIrq? port with
    | some irq => some irq
    | none => if entry.overwrites port then none else standing port before

/-- An operation that looks up a binding shows that which stands. -/
def Operation.Shows (op : Operation) (result : Except ChannelError Report) (before : History) : Prop :=
  match op with
  | .table (.irqDetails port) => ∀ irq, before.standing port = some irq →
    result = .ok (.irqDetails (some (irq.vector, irq.description)))
  | .channels (.portSnapshot port) => ∀ irq, before.standing port = some irq →
    ∃ snapshot, result = .ok (.portSnapshot snapshot) ∧ snapshot.vector = some irq.vector ∧
      snapshot.description = some irq.description
  | _ => True

def Entry.Shows : Entry → History → Prop
  | ended _ op result _, before => op.Shows result before
  | _, _ => True

/-- The actions of all ports, but perhaps of one, are those that stand. -/
def ActionTable.Upholds (t : ActionTable) (except? : Option Port) (history : History) : Prop :=
  ∀ port irq, except? ≠ some port → history.standing port = some irq →
    (t.slot port).action = .deferredHardwareIrq irq

/-- At an entry every standing binding is in force, and it is shown. -/
def Entry.Upholds (entry : Entry) (before : History) : Prop :=
  entry.state.table.Upholds none (entry :: before) ∧ entry.Shows before

/-- Every standing binding is in force, but perhaps that of one port, and was so far. -/
structure UpheldBut (except? : Option Port) (s : System History) : Prop where
  now : s.channels.table.Upholds except? s.outside
  always : s.outside.Always Entry.Upholds

/-- Every standing binding is in force, and was so far. -/
abbrev Upheld : System History → Prop := UpheldBut none

namespace History

variable {port : Port} {irq : IrqBinding} {entry : Entry} {before : History}

/-- What stands after an entry that is no bind stood before, and was not overwritten. -/
theorem standing_of_cons (hentry : entry.boundIrq? port = none)
    (h : standing port (entry :: before) = some irq) :
    before.standing port = some irq ∧ entry.overwrites port = false := by
  rw [standing, hentry] at h
  cases hoverwrites : entry.overwrites port with
  | true =>
    rw [hoverwrites] at h
    cases h
  | false =>
    rw [hoverwrites] at h
    exact ⟨h, rfl⟩

theorem standing_cons_of_bound (hentry : entry.boundIrq? port = some irq) :
    standing port (entry :: before) = some irq := by
  rw [standing, hentry]

end History

namespace ActionTable.Upholds

variable {t u : ActionTable} {except? : Option Port} {history : History}

/-- Without a change to an action, what stands is upheld. -/
theorem of_actions (h : t.Upholds except? history)
    (hactions : ∀ p, (u.slot p).action = (t.slot p).action) : u.Upholds except? history := by
  intro port irq hport hstanding
  rw [hactions]
  exact h port irq hport hstanding

/-- The action of a port that is not accounted for may be set. -/
theorem setAction {port : Port} (h : t.Upholds none history) (action : Action) :
    (t.setAction port action).Upholds (some port) history := by
  intro q irq hq hstanding
  have hne : port ≠ q := fun he => hq (congrArg some he)
  rw [action_setAction, if_neg hne]
  exact h q irq nofun hstanding

/-- The action of a port for which nothing stands may be set. -/
theorem setAction_of_none {port : Port} (h : t.Upholds none history)
    (hnone : history.standing port = none) (action : Action) :
    (t.setAction port action).Upholds none history := by
  intro q irq _ hstanding
  have hne : port ≠ q := by
    rintro rfl
    rw [hnone] at hstanding
    cases hstanding
  rw [action_setAction, if_neg hne]
  exact h q irq nofun hstanding

/-- What is upheld remains so at an entry that is no bind. -/
theorem cons {entry : Entry} (h : t.Upholds none history) (hentry : ∀ p, entry.boundIrq? p = none) :
    t.Upholds none (entry :: history) := fun port irq _ hstanding =>
  h port irq nofun (History.standing_of_cons (hentry port) hstanding).1

/-- An entry accounts for the port that it tells to be overwritten. -/
theorem cons_overwritten {entry : Entry} {port : Port} (h : t.Upholds (some port) history)
    (hentry : ∀ p, entry.boundIrq? p = none) (hoverwrites : entry.overwrites port = true) :
    t.Upholds none (entry :: history) := by
  intro q irq _ hstanding
  obtain ⟨hbefore, hleft⟩ := History.standing_of_cons (hentry q) hstanding
  have hne : some port ≠ some q := by
    rintro ⟨⟩
    rw [hoverwrites] at hleft
    cases hleft
  exact h q irq hne hbefore

/-- An entry that tells of binds is accounted for where the ports have been bound. -/
theorem cons_bound {entry : Entry} (h : t.Upholds none history)
    (hbound : ∀ p irq, entry.boundIrq? p = some irq →
      (t.slot p).action = .deferredHardwareIrq irq) : t.Upholds none (entry :: history) := by
  intro q irq _ hstanding
  cases hentry : entry.boundIrq? q with
  | none => exact h q irq nofun (History.standing_of_cons hentry hstanding).1
  | some irq' =>
    rw [History.standing_cons_of_bound hentry] at hstanding
    cases hstanding
    exact hbound q irq hentry

end ActionTable.Upholds

end EventChannel
