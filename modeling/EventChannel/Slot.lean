import EventChannel.Action

namespace EventChannel

/-- The deferred work of one port, which is queued at most once. -/
structure WorkItem where
  queued : Bool := false
deriving DecidableEq

namespace WorkItem

def new : WorkItem := ⟨false⟩

instance : Inhabited WorkItem := ⟨{}⟩

/-- Puts the item on the queue; says whether it was not there before. -/
def put (w : WorkItem) : Bool × WorkItem := (!w.queued, ⟨true⟩)

/-- Takes the item off the queue; says whether it was there. -/
def take (w : WorkItem) : Bool × WorkItem := (w.queued, ⟨false⟩)

end WorkItem

/-- The entry of one port in the action table.

The published kind and the action are separate: while a binding is replaced, and after one was
dropped, they differ. The action cannot be written while it has readers. -/
structure Slot where
  kind : Kind
  action : Action
  readers : Nat
  work : WorkItem
  deliveries : UInt64
deriving DecidableEq

namespace Slot

def powerOn : Slot := ⟨.empty, .empty, 0, .new, 0⟩

instance : Inhabited Slot := ⟨powerOn⟩

/-- The handler of the slot's action, if the action has the expected kind. -/
def handler? (s : Slot) (expected : Kind) : Option HandlerName :=
  if s.action.kind = expected then s.action.handler? else none

/-- Whether a lookup of the handler under the published kind succeeds. -/
def isBound (s : Slot) : Bool := (s.handler? s.kind).isSome

end Slot

end EventChannel
