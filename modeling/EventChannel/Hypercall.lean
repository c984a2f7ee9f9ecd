import EventChannel.Port

namespace EventChannel

structure DomainId where
  id : UInt16
deriving DecidableEq

namespace DomainId

/-- The number by which a domain refers to itself. -/
def self : DomainId := ⟨0x7FF0⟩

end DomainId

/-- A request to the hypervisor about event channels. -/
inductive Hypercall where
  /-- Names the port by its number, so that a port the guest cannot track can be given back. -/
  | close (port : UInt32)
  | send (port : Port)
  | allocUnbound (dom remote : DomainId)
  | bindIpi (vcpu : UInt32)
deriving DecidableEq

namespace Hypercall

def closeCommand : UInt32 := 3

def sendCommand : UInt32 := 4

def allocUnboundCommand : UInt32 := 6

def bindIpiCommand : UInt32 := 7

/-- The command number of a request. -/
def command : Hypercall → UInt32
  | close _ => closeCommand
  | send _ => sendCommand
  | allocUnbound _ _ => allocUnboundCommand
  | bindIpi _ => bindIpiCommand

def name : Hypercall → String
  | close _ => "EVTCHNOP_close"
  | send _ => "EVTCHNOP_send"
  | allocUnbound _ _ => "EVTCHNOP_alloc_unbound"
  | bindIpi _ => "EVTCHNOP_bind_ipi"

/-- The port that a request is about, if the guest keeps an action for it. -/
def port? : Hypercall → Option Port
  | close port => Port.ofNumber? port
  | send port => some port
  | allocUnbound _ _ | bindIpi _ => none

end Hypercall

/-- A parameter of the domain that the guest sets. -/
inductive DomainParam where
  /-- The interrupt by which upcalls are delivered; zero stops their delivery. -/
  | callbackIrq
deriving DecidableEq

namespace DomainParam

def index : DomainParam → UInt32
  | callbackIrq => 0

/-- The name of the call that sets the parameter. -/
def setterName : DomainParam → String
  | callbackIrq => "hvm_set_param(CALLBACK_IRQ)"

/-- The parameter's name in the log. -/
def name : DomainParam → String
  | callbackIrq => "HVM_PARAM_CALLBACK_IRQ"

end DomainParam

/-- The error number of a hypercall that failed. -/
structure Errno where
  value : Int32
deriving DecidableEq

namespace Errno

def message (e : Errno) : String := "hypercall failed with errno " ++ toString e.value.toInt

end Errno

end EventChannel
