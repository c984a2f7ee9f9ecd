import EventChannel.Hypercall
import EventChannel.InterruptLine

namespace EventChannel

/-- What a configuration gets wrong. -/
inductive ConfigFlaw where
  | zeroCallbackIrq
  | upcallVcpuWithoutSlot
  | suspendVcpuWithoutSlot
deriving DecidableEq

namespace ConfigFlaw

def text : ConfigFlaw → String
  | zeroCallbackIrq => "callback_irq 0 would disable upcall delivery"
  | upcallVcpuWithoutSlot => "upcall_vcpu has no vcpu_info slot in the shared page"
  | suspendVcpuWithoutSlot => "suspend_vcpu has no vcpu_info slot in the shared page"

end ConfigFlaw

/-- Why an operation on event channels was refused. -/
inductive ChannelError where
  | portOutOfRange (number : UInt32)
  /-- Another context reads the port's action. -/
  | slotBusy (port : Port)
  | hypercall (call : String) (errno : Errno)
  | connect (status : HostStatus)
  | alreadyConnected
  | invalidConfig (why : String)
deriving DecidableEq

namespace ChannelError

def name : ChannelError → String
  | portOutOfRange _ => "PortOutOfRange"
  | slotBusy _ => "SlotBusy"
  | hypercall _ _ => "Hypercall"
  | connect _ => "Connect"
  | alreadyConnected => "AlreadyConnected"
  | invalidConfig _ => "InvalidConfig"

def message : ChannelError → String
  | portOutOfRange number =>
      "event channel port " ++ toString number.toNat ++ " is outside the action table"
  | slotBusy port => "action slot of port " ++ port.text ++ " is busy"
  | hypercall call _ => call ++ " failed"
  | connect _ => "failed to connect the event channel interrupt"
  | alreadyConnected => "event channel interrupt is already connected"
  | invalidConfig why => "invalid event channel configuration: " ++ why

/-- The message of the failure that caused the error. -/
def source? : ChannelError → Option String
  | hypercall _ errno => some errno.message
  | connect status => some status.message
  | portOutOfRange _ | slotBusy _ | alreadyConnected | invalidConfig _ => none

end ChannelError

end EventChannel
