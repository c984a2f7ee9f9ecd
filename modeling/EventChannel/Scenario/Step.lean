import EventChannel.Operation
import EventChannel.Platform

namespace EventChannel.Scenario

/-- A port as a step names it. -/
inductive PortRef where
  | number (n : UInt32)
  /-- The port of the handler, of the hypercall or of the round that the step belongs to. -/
  | self
deriving DecidableEq

namespace PortRef

def resolve? (self : Option Port) : PortRef → Option Port
  | number n => Port.ofNumber? n
  | PortRef.self => self

end PortRef

/-- A change to how the bench answers the calls it gets. -/
inductive Setting where
  | nextPort (number : UInt32)
  | grants (numbers : List UInt32)
  | failAlloc (errno : Option Errno)
  | failSetParam (errno : Option Errno)
  | failPortOps (errno : Option Errno)
  | failConnect (status : Option HostStatus)
deriving DecidableEq

/-- One step of a scenario. -/
inductive Step where
  | malformed
  | run (op : Operation)
  /-- An operation on a port; without an operation the step is malformed unless there is no such
  port. -/
  | onPort (port : PortRef) (op : Option (Port → Operation))
  | script (settings : List Setting)
  /-- Runs the steps once for every `stride`-th port from `first` to `last`. -/
  | each (first last stride : UInt32) (steps : List Step)

instance : Inhabited Step := ⟨.malformed⟩

/-- The ports of the rounds of a repeated step; a stride of zero counts as one. -/
def roundPorts (first last stride : UInt32) : List Port :=
  let stride := if stride = 0 then 1 else stride.toNat
  Port.all.filter fun p =>
    first.toNat ≤ p.index.val && p.index.val ≤ last.toNat && (p.index.val - first.toNat) % stride = 0

/-- The calls to the hypervisor and the host at which a routine can be hooked in. -/
inductive Hook where
  | close
  | send
  | allocUnbound
  | bindIpi
  | setParam
  | connect
  | disconnect
  | queueDeferred
  | flushDeferred
deriving DecidableEq

namespace Hook

def name : Hook → String
  | close => "close"
  | send => "send"
  | allocUnbound => "alloc_unbound"
  | bindIpi => "bind_ipi"
  | setParam => "set_param"
  | connect => "connect"
  | disconnect => "disconnect"
  | queueDeferred => "queue_deferred"
  | flushDeferred => "flush_deferred"

def all : List Hook :=
  [close, send, allocUnbound, bindIpi, setParam, connect, disconnect, queueDeferred, flushDeferred]

end Hook

/-- What a routine belongs to. -/
inductive RoutineKey where
  | handler (name : HandlerName)
  | hook (hook : Hook)
deriving DecidableEq

namespace RoutineKey

/-- The routine that a call runs. -/
def ofRequest : Request → RoutineKey
  | .hypercall (.close _) => hook .close
  | .hypercall (.send _) => hook .send
  | .hypercall (.allocUnbound _ _) => hook .allocUnbound
  | .hypercall (.bindIpi _) => hook .bindIpi
  | .setParam _ _ => hook .setParam
  | .connect _ => hook .connect
  | .disconnect _ => hook .disconnect
  | .queueDeferred => hook .queueDeferred
  | .flushDeferred => hook .flushDeferred
  | .handle _ name _ => handler name

end RoutineKey

/-- Steps that run inside a call, on its first `times` occurrences. -/
structure Routine where
  times : Nat
  steps : List Step

end EventChannel.Scenario
