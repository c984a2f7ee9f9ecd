import EventChannel.Text.Prefix
import EventChannel.Text.Quoted

namespace EventChannel

/-- The name under which a service routine was bound. -/
abbrev HandlerName := String

/-- What kind of service a port gets. -/
inductive Kind where
  | empty
  | normal
  | deferredProcedure
  | deferredHardwareIrq
  | suspend
deriving DecidableEq, Repr

namespace Kind

/-- The tag byte that stands for the kind. -/
def tag : Kind → UInt8
  | empty => 0
  | normal => 1
  | deferredProcedure => 2
  | deferredHardwareIrq => 3
  | suspend => 4

def ofTag? (tag : UInt8) : Option Kind :=
  match tag.toNat with
  | 0 => some empty
  | 1 => some normal
  | 2 => some deferredProcedure
  | 3 => some deferredHardwareIrq
  | 4 => some suspend
  | _ => none

/-- Whether the kind hands its work to the deferred pass. -/
def isDeferred : Kind → Bool
  | deferredProcedure | deferredHardwareIrq => true
  | empty | normal | suspend => false

def name : Kind → String
  | empty => "Empty"
  | normal => "Normal"
  | deferredProcedure => "DeferredProcedure"
  | deferredHardwareIrq => "DeferredHardwareIrq"
  | suspend => "Suspend"

def ofName? : String → Option Kind
  | "Empty" => some empty
  | "Normal" => some normal
  | "DeferredProcedure" => some deferredProcedure
  | "DeferredHardwareIrq" => some deferredHardwareIrq
  | "Suspend" => some suspend
  | _ => none

@[simp] theorem ofTag?_tag (k : Kind) : ofTag? k.tag = some k := by
  cases k <;> rfl

end Kind

/-- The most bytes that the description of a legacy interrupt may have. -/
def descriptionLimit : Nat := 128

/-- A legacy interrupt emulated on top of an event channel. -/
structure IrqBinding where
  handler : HandlerName
  vector : UInt32
  description : String
deriving DecidableEq

namespace IrqBinding

/-- A binding whose description is cut to the permitted length. -/
def ofDescription (handler : HandlerName) (vector : UInt32) (description : String) : IrqBinding :=
  ⟨handler, vector, Text.truncate descriptionLimit description⟩

end IrqBinding

/-- What to do when a port fires. -/
inductive Action where
  | empty
  /-- The handler runs inline in the scanner. -/
  | normal (handler : HandlerName)
  /-- The handler runs from the port's deferred work item. -/
  | deferredProcedure (handler : HandlerName)
  /-- The port is marked outstanding and the handler runs from the deferred work item. -/
  | deferredHardwareIrq (irq : IrqBinding)
  /-- The reserved port, which triggers every legacy interrupt port again. -/
  | suspend
deriving DecidableEq

namespace Action

def kind : Action → Kind
  | empty => .empty
  | normal _ => .normal
  | deferredProcedure _ => .deferredProcedure
  | deferredHardwareIrq _ => .deferredHardwareIrq
  | suspend => .suspend

def handler? : Action → Option HandlerName
  | normal handler | deferredProcedure handler => some handler
  | deferredHardwareIrq irq => some irq.handler
  | empty | suspend => none

/-- The vector and the description of a legacy interrupt. -/
def irqDetails? : Action → Option (UInt32 × String)
  | deferredHardwareIrq irq => some (irq.vector, irq.description)
  | _ => none

/-- The text of an action in the log, which leaves out the handler. -/
def text : Action → String
  | deferredHardwareIrq irq =>
      "DeferredHardwareIrq \x7b vector: " ++ toString irq.vector.toNat ++ ", description: " ++
        Text.quote irq.description ++ ", .. \x7d"
  | action => action.kind.name

end Action

end EventChannel
