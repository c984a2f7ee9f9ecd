import EventChannel.Proofs.ActionTable
import EventChannel.Proofs.History
import EventChannel.Proofs.Keeping.Operation

namespace EventChannel

open Guest

namespace History

/-- The action that was published last on a port, unless it was dropped or the port reset since. -/
def binding (port : Port) : History → Option Action
  | [] => none
  | .saw _ (.published p action) _ :: before =>
    if p = port then some action else binding port before
  | .saw _ (.slotReset p) _ :: before | .saw _ (.noticed (.actionDropped p _ _)) _ :: before =>
    if p = port then none else binding port before
  | _ :: before => binding port before

/-- The handler of a port is that of its current binding, under the kind it was published with. -/
structure Installed (port : Port) (handler : HandlerName) (kind : Kind) (t : ActionTable)
    (history : History) : Prop where
  action : (t.slot port).action.handler? = some handler
  current : history.binding port = some (t.slot port).action
  published : (t.slot port).action.kind = kind
  tagged : t.kind port = kind

end History

/-- A handler that is started inline or by a deferred run is installed, and under a kind that suits
the context. -/
def Entry.StartsCurrent : Entry → History → Prop
  | called _ (.handle .inline handler port) state, before =>
    before.Installed port handler .normal state.table
  | called _ (.handle .deferred handler port) state, before =>
    ∃ kind, kind.isDeferred = true ∧ before.Installed port handler kind state.table
  | _, _ => True

/-- Published kinds and actions agree, unless one of them is empty. -/
def ActionTable.Agrees (t : ActionTable) : Prop :=
  ∀ port, t.kind port = (t.slot port).action.kind ∨ (t.slot port).action = .empty ∨
    t.kind port = .empty

def Entry.RunsCurrent (entry : Entry) (before : History) : Prop :=
  entry.state.table.Agrees ∧ entry.StartsCurrent before

/-- A kind and an action that are not empty are those of the binding. -/
def Sound (kind : Kind) (action : Action) (binding : Option Action) : Prop :=
  kind ≠ .empty → action ≠ .empty → binding = some action ∧ kind = action.kind

def Bound (t : ActionTable) (history : History) : Prop :=
  ∀ port, Sound (t.kind port) (t.slot port).action (history.binding port)

theorem Bound.agrees {t : ActionTable} {history : History} (h : Bound t history) : t.Agrees := by
  intro port
  by_cases hkind : t.kind port = .empty
  · exact .inr (.inr hkind)
  by_cases haction : (t.slot port).action = .empty
  · exact .inr (.inl haction)
  · exact .inl (h port hkind haction).2

/-- Looking up the handler under the published kind finds the current binding. -/
theorem Bound.installed {t : ActionTable} {history : History} (h : Bound t history) {port : Port}
    {handler : HandlerName} (hhandler : t.handler? port (t.kind port) = some handler) :
    history.Installed port handler (t.kind port) t := by
  unfold ActionTable.handler? Slot.handler? at hhandler
  split at hhandler
  next hkind =>
    have haction : (t.slot port).action ≠ .empty := by
      intro he
      rw [he] at hhandler
      cases hhandler
    have hempty : t.kind port ≠ .empty := by
      intro he
      rw [he] at hkind
      cases ha : (t.slot port).action with
      | empty => exact haction ha
      | _ =>
        rw [ha] at hkind
        cases hkind
    exact ⟨hhandler, (h port hempty haction).1, hkind, rfl⟩
  · cases hhandler

/-- Whether an entry tells of a change to a binding. -/
def Entry.changesBinding : Entry → Bool
  | saw _ (.published ..) _ | saw _ (.slotReset _) _
  | saw _ (.noticed (.actionDropped ..)) _ => true
  | _ => false

theorem History.binding_cons {entry : Entry} (h : entry.changesBinding = false) (port : Port)
    (before : History) : binding port (entry :: before) = before.binding port := by
  unfold Entry.changesBinding at h
  split at h
  · cases h
  · cases h
  · cases h
  next hpublished hreset hdropped =>
    rw [binding]
    · exact hpublished
    · exact hreset
    · exact hdropped

end EventChannel
