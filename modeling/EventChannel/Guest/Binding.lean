import EventChannel.Guest.Queue

namespace EventChannel.Guest

variable {σ : Type} (P : Platform σ)

/-- Replaces the action of a port and returns the old one; refused while the action has readers. -/
def replaceAction (port : Port) (action : Action) :
    Guest σ (Except ChannelError Action) := do
  let slot := (← table).slot port
  if slot.readers = 0 then
    modifyTable fun t => t.setAction port action
    return .ok slot.action
  else
    note P (.slotStayedLocked port)
    return .error (.slotBusy port)

/-- Puts a published kind back, unless another kind has been published since. -/
def restoreKind (port : Port) (kind : Kind) : Guest σ Unit :=
  modifyTable fun t => if t.kind port = .empty then t.setKind port kind else t

/-- Puts an action in force on a port.

The published kind is empty while the action is replaced, and the new kind is published last. If
the action cannot be replaced, the previous binding stays in place. -/
def publish (port : Port) (action : Action) : Guest σ (Except ChannelError Unit) := do
  let previous := (← table).kind port
  modifyTable fun t => t.setKind port .empty
  if previous ≠ .empty then
    note P (.replacing port previous)
  match ← replaceAction P port action with
  | .error e =>
    restoreKind port previous
    return .error e
  | .ok _ =>
    modifyTable fun t => t.setKind port action.kind
    emit P (.published port action)
    return .ok ()

/-- Drops the action of a port but leaves the published kind alone, so that later events find no
handler. -/
def dropAction (port : Port) : Guest σ (Except ChannelError Unit) := do
  let kind := (← table).kind port
  match ← replaceAction P port .empty with
  | .error e => return .error e
  | .ok old =>
    note P (.actionDropped port kind old)
    return .ok ()

/-- Returns a port to its power-on state. While its action has readers, the action stays and the
rest is reset. -/
def resetSlot (port : Port) : Guest σ (Except ChannelError Unit) := do
  modifyTable fun t => t.setKind port .empty
  discard <| cancel P port
  modifyTable fun t => t.setDeliveries port 0
  discard <| onTable fun t => t.acknowledge port
  emit P (.slotReset port)
  match ← replaceAction P port .empty with
  | .error e => return .error e
  | .ok _ => return .ok ()

/-- Resets the ports of a list in turn, up to the first that is refused. -/
def resetSlots : List Port → Guest σ (Except ChannelError Unit)
  | [] => return .ok ()
  | port :: ports => do
    match ← resetSlot P port with
    | .error e => return .error e
    | .ok _ => resetSlots ports

def resetTable : Guest σ (Except ChannelError Unit) := resetSlots P Port.all

def mask (port : Port) : Guest σ Unit := discard <| onPage (PageM.mask port)

/-- Unmasks a port. An event that arrived while the port was masked is flagged in the selector
again, so that the next interrupt services it. -/
def unmask (port : Port) : Guest σ Unit := do
  discard <| onPage (PageM.unmask port)
  if (← channels).page.isPending port then
    onPage (PageM.alert port (← config).upcallVcpu)

/-- Publishes an action on a port and unmasks the port. -/
def attach (port : Port) (action : Action) : Guest σ (Except ChannelError Unit) := do
  match ← publish P port action with
  | .error e => return .error e
  | .ok _ =>
    unmask port
    note P (.portBound port action.kind)
    return .ok ()

/-- Binds a handler that runs inline, at interrupt level, for every event on the port. -/
def bindInline (port : Port) (handler : HandlerName) : Guest σ (Except ChannelError Unit) :=
  attach P port (.normal handler)

/-- Binds a handler that runs from the port's deferred work item. -/
def bindDeferred (port : Port) (handler : HandlerName) : Guest σ (Except ChannelError Unit) :=
  attach P port (.deferredProcedure handler)

/-- Binds the port as an emulated legacy interrupt. -/
def bindIrq (port : Port) (vector : UInt32) (description : String) (handler : HandlerName) :
    Guest σ (Except ChannelError Unit) :=
  attach P port (.deferredHardwareIrq (.ofDescription handler vector description))

/-- Masks a port, drops its handler and cancels its queued work. If the handler cannot be dropped,
the port stays masked with the handler still attached. -/
def unbind (port : Port) : Guest σ (Except ChannelError Unit) := do
  mask port
  let cleared ← dropAction P port
  if ← cancel P port then
    note P (.cancelledOnUnbind port)
  return cleared

/-- Removes the outstanding mark of a legacy interrupt port; says whether it was there. -/
def acknowledge (port : Port) : Guest σ Bool := onTable fun t => t.acknowledge port

end EventChannel.Guest
