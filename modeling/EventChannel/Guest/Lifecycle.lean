import EventChannel.Guest.Allocation
import EventChannel.Guest.Binding

namespace EventChannel.Guest

variable {σ : Type} (P : Platform σ)

def maskUpcalls (masked : Bool) : Guest σ Unit :=
  modifyPage fun s => s.modifyVcpus fun v => v.maskUpcall masked

/-- Stops the delivery of events: the scanner is disabled and every upcall masked. -/
def quiesce : Guest σ Unit := do
  setInterruptsMasked true
  maskUpcalls true

/-- Allocates the port for suspend broadcasts and binds it. A port that cannot be bound is handed
back. -/
def reserveSuspendPort : Guest σ (Except ChannelError Port) := do
  match ← allocIpi P (← config).suspendVcpu with
  | .error e => return .error e
  | .ok port =>
    match ← attach P port .suspend with
    | .error e =>
      close P port
      return .error e
    | .ok _ => return .ok port

/-- Clears the pending bitmap and the upcalls and selectors of all virtual processors. -/
def discardPending : Guest σ Unit := do
  let pending := (← channels).page.pending
  modifyPage fun s => s.clearPendingAll
  emit P (.pendingDropped pending)
  modifyPage fun s => s.modifyVcpus fun v => v.reset.maskUpcall true

/-- Brings the event channels to a clean, running state and reserves the port for suspend
broadcasts, which is returned.

Every port is masked, every binding dropped and all pending state discarded. On failure the scanner
stays disabled and every upcall masked. -/
def init : Guest σ (Except ChannelError Port) := do
  quiesce
  setSuspendPort none
  modifyPage fun s => s.maskAll
  match ← resetTable P with
  | .error e => return .error e
  | .ok _ =>
    discardPending P
    let callbackIrq := (← config).callbackIrq
    match ← call P (.setParam .callbackIrq callbackIrq.toUInt64) with
    | .error errno => return .error (.hypercall DomainParam.callbackIrq.setterName errno)
    | .ok _ =>
      maskUpcalls false
      setInterruptsMasked false
      match ← reserveSuspendPort P with
      | .error e =>
        quiesce
        return .error e
      | .ok port =>
        setSuspendPort (some port)
        note P (.initialised callbackIrq port)
        return .ok port

/-- Hands the interrupt line to the host. -/
def connectLine : Guest σ (Except ChannelError Unit) := do
  let connected := (← channels).connected
  setConnected true
  if connected then
    return .error .alreadyConnected
  let line := (← config).line
  match ← call P (.connect line) with
  | .error status =>
    setConnected false
    return .error (.connect status)
  | .ok _ =>
    note P (.lineConnected line.vector)
    return .ok ()

def disconnectLine : Guest σ Unit := do
  let connected := (← channels).connected
  setConnected false
  if connected then
    let line := (← config).line
    call P (.disconnect line)
    note P (.lineDisconnected line.vector)

/-- Empties the queue of deferred work, waits for the runs requested so far, and empties it once
more of what they have queued. -/
def emptyQueue : Guest σ Unit := do
  let before ← cancelAll P
  call P .flushDeferred
  let after ← cancelAll P
  setSuspendPort none
  note P (.deferredWorkDrained (before + after))

/-- Stops event delivery for good. -/
def shutdown : Guest σ Unit := do
  quiesce
  match ← call P (.setParam .callbackIrq 0) with
  | .error errno => note P (.callbackNotCleared errno)
  | .ok _ => pure ()
  emptyQueue P
  note P .shutDown

/-- Stops event delivery ahead of a save; the callback interrupt stays registered. -/
def suspend : Guest σ Unit := do
  quiesce
  emptyQueue P
  note P .suspended

/-- Initialises again after the domain was restored. -/
def resume : Guest σ (Except ChannelError Port) := do
  note P .resuming
  init P

end EventChannel.Guest
