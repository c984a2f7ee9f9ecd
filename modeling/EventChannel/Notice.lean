import EventChannel.Action
import EventChannel.Hypercall

namespace EventChannel

inductive Severity where
  | trace
  | debug
  | info
  | warn
  | error
deriving DecidableEq

namespace Severity

def name : Severity → String
  | trace => "TRACE"
  | debug => "DEBUG"
  | info => "INFO"
  | warn => "WARN"
  | error => "ERROR"

def ofName? : String → Option Severity
  | "trace" => some trace
  | "debug" => some debug
  | "info" => some info
  | "warn" => some warn
  | "error" => some error
  | _ => none

def rank : Severity → Nat
  | trace => 0
  | debug => 1
  | info => 2
  | warn => 3
  | error => 4

end Severity

/-- Something worth a line in the log. -/
inductive Notice where
  | interruptWhileMasked
  | delivering (port : Port) (kind : Kind) (deliveries : UInt64)
  | deferredWorkDropped (port : Port)
  | deferredPassStopped (word : Fin 16)
  | actionDropped (port : Port) (kind : Kind) (old : Action)
  | portNoLongerDeferred (port : Port) (kind : Kind)
  | deferredHandlerGone (port : Port) (kind : Kind)
  | portBound (port : Port) (kind : Kind)
  | replacing (port : Port) (previous : Kind)
  | cancelledOnUnbind (port : Port)
  | noHandlerBound (port : Port)
  | suspendBroadcast (port : Port) (marked : Nat)
  | lineConnected (vector : UInt32)
  | lineDisconnected (vector : UInt32)
  | deferredWorkDrained (cancelled : Nat)
  | initialised (callbackIrq : UInt32) (suspendPort : Port)
  | shutDown
  | suspended
  | resuming
  | slotStayedLocked (port : Port)
  | sendFailed (port : Port) (errno : Errno)
  | closeFailed (number : UInt32) (errno : Errno)
  | portBeyondTable (number : UInt32)
  | eventBeyondTable (word bit : Fin 64)
  | eventOnUnboundPort (port : Port)
  | callbackNotCleared (errno : Errno)
deriving DecidableEq

namespace Notice

def severity : Notice → Severity
  | interruptWhileMasked | delivering .. | deferredWorkDropped .. | deferredPassStopped ..
  | actionDropped .. | portNoLongerDeferred .. | deferredHandlerGone .. => .trace
  | portBound .. | replacing .. | cancelledOnUnbind .. | noHandlerBound .. | suspendBroadcast ..
  | lineConnected .. | lineDisconnected .. | deferredWorkDrained .. => .debug
  | initialised .. | shutDown | suspended | resuming => .info
  | slotStayedLocked .. | sendFailed .. | closeFailed .. | portBeyondTable ..
  | eventBeyondTable .. | eventOnUnboundPort .. | callbackNotCleared .. => .warn

def message : Notice → String
  | interruptWhileMasked => "event channel interrupt while masked"
  | delivering .. => "dispatching event"
  | deferredWorkDropped .. => "deferred work dropped, event channels are shutting down"
  | deferredPassStopped .. => "deferred run stopped, event channels are masked"
  | actionDropped .. => "binding cleared"
  | portNoLongerDeferred .. => "stale work item, port no longer deferred"
  | deferredHandlerGone .. => "stale work item, handler gone"
  | portBound .. => "port bound"
  | replacing .. => "handler already registered, replacing"
  | cancelledOnUnbind .. => "cancelled queued work on unbind"
  | noHandlerBound .. => "no handler bound, event dropped"
  | suspendBroadcast .. => "suspend event, re-triggering legacy interrupt ports"
  | lineConnected .. => "event channel interrupt connected"
  | lineDisconnected .. => "event channel interrupt disconnected"
  | deferredWorkDrained .. => "deferred work drained"
  | initialised .. => "event channels initialised"
  | shutDown => "event channels shut down"
  | suspended => "event channels suspended"
  | resuming => "resuming event channels"
  | slotStayedLocked .. => "action slot stayed locked, giving up"
  | sendFailed port _ => (Hypercall.send port).name ++ " failed"
  | closeFailed number _ => (Hypercall.close number).name ++ " failed"
  | portBeyondTable .. => "hypervisor allocated a port beyond the action table"
  | eventBeyondTable .. => "event on a port beyond the action table dropped"
  | eventOnUnboundPort .. => "event on unbound port dropped"
  | callbackNotCleared _ => "failed to clear " ++ DomainParam.callbackIrq.name

private def portField (port : Port) : String × String := ("port", port.text)

private def kindField (kind : Kind) : String × String := ("kind", kind.name)

/-- The named values that follow the message. -/
def fields : Notice → List (String × String)
  | interruptWhileMasked | shutDown | suspended | resuming => []
  | delivering port kind deliveries =>
      [portField port, kindField kind, ("deliveries", toString deliveries.toNat)]
  | deferredWorkDropped port | cancelledOnUnbind port | noHandlerBound port
  | slotStayedLocked port | eventOnUnboundPort port => [portField port]
  | deferredPassStopped word => [("word", toString word.val)]
  | actionDropped port kind old =>
      [portField port, ("kind", toString kind.tag.toNat), ("old", old.text)]
  | portNoLongerDeferred port kind => [portField port, ("other", "Some(" ++ kind.name ++ ")")]
  | deferredHandlerGone port kind => [portField port, kindField kind]
  | portBound port kind => [portField port, kindField kind]
  | replacing port previous => [portField port, ("previous", toString previous.tag.toNat)]
  | suspendBroadcast port marked => [portField port, ("marked", toString marked)]
  | lineConnected vector | lineDisconnected vector => [("vector", toString vector.toNat)]
  | deferredWorkDrained cancelled => [("cancelled", toString cancelled)]
  | initialised callbackIrq suspendPort =>
      [("callback_irq", toString callbackIrq.toNat), ("suspend_port", suspendPort.text)]
  | sendFailed port errno => [portField port, ("err", errno.message)]
  | closeFailed number errno => [("port", toString number.toNat), ("err", errno.message)]
  | portBeyondTable number => [("port", toString number.toNat)]
  | eventBeyondTable word bit => [("word", toString word.val), ("bit", toString bit.val)]
  | callbackNotCleared errno => [("err", errno.message)]

/-- The line that a notice makes in the log. -/
def line (n : Notice) : String :=
  n.fields.foldl (fun line field => line ++ " " ++ field.1 ++ "=" ++ field.2)
    (n.severity.name ++ " " ++ n.message)

end Notice

end EventChannel
