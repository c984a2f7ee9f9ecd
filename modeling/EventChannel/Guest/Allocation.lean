import EventChannel.Platform

namespace EventChannel.Guest

variable {σ : Type} (P : Platform σ)

/-- Signals the remote end of a port. -/
def signal (port : Port) : Guest σ Unit := do
  match ← call P (.hypercall (.send port)) with
  | .error errno => note P (.sendFailed port errno)
  | .ok _ => return

/-- Hands a port number back to the hypervisor. -/
def giveBack (number : UInt32) : Guest σ Unit := do
  match ← call P (.hypercall (.close number)) with
  | .error errno => note P (.closeFailed number errno)
  | .ok _ => return

def close (port : Port) : Guest σ Unit := giveBack P port.number

/-- Takes a number that the hypervisor granted. One beyond the action table is handed back. -/
def adopt (number : UInt32) : Guest σ (Except ChannelError Port) := do
  match Port.ofNumber? number with
  | some port => return .ok port
  | none =>
    note P (.portBeyondTable number)
    giveBack P number
    return .error (.portOutOfRange number)

/-- Has the hypervisor allocate a port. -/
def allocate (op : Hypercall) : Guest σ (Except ChannelError Port) := do
  match ← call P (.hypercall op) with
  | .error errno => return .error (.hypercall op.name errno)
  | .ok number => adopt P number

/-- Allocates a port that another domain can bind to. -/
def allocUnbound (remote : DomainId) : Guest σ (Except ChannelError Port) :=
  allocate P (.allocUnbound .self remote)

/-- Allocates a port for signalling a virtual processor. -/
def allocIpi (vcpu : UInt32) : Guest σ (Except ChannelError Port) :=
  allocate P (.bindIpi vcpu)

end EventChannel.Guest
