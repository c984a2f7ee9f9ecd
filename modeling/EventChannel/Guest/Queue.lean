import EventChannel.Platform

namespace EventChannel.Guest

variable {σ : Type} (P : Platform σ)

/-- Queues the port's work item; says whether it was not queued before. -/
def enqueue (port : Port) : Guest σ Bool := do
  let fresh ← onTable fun t => t.enqueue port
  if fresh then
    emit P (.workQueued port ((← table).kind port))
  return fresh

/-- Takes the port's work item off the queue; says whether it was queued. -/
def cancel (port : Port) : Guest σ Bool := do
  let found ← onTable fun t => t.cancel port
  emit P (.workCancelled port found)
  return found

/-- Counts the ports of a list whose work item was queued, taking all of them off the queue. -/
def cancelEach : List Port → Guest σ Nat
  | [] => return 0
  | port :: ports => do
    let found ← cancel P port
    let count ← cancelEach ports
    return if found then count + 1 else count

/-- Takes every work item off the queue and returns how many were queued. -/
def cancelAll : Guest σ Nat := cancelEach P Port.all

/-- Marks a port outstanding and queues its work item, as if an event had just arrived; says
whether the item was not queued before. -/
def renew (port : Port) : Guest σ Bool := do
  discard <| onTable fun t => t.setOutstanding port
  enqueue P port

/-- Triggers again the legacy interrupt ports of a list; counts them, and those newly queued. -/
def broadcastTo : List Port → Guest σ (Nat × Nat)
  | [] => return (0, 0)
  | port :: ports => do
    if (← table).kind port = .deferredHardwareIrq then
      let fresh ← renew P port
      let (marked, queued) ← broadcastTo ports
      return (marked + 1, if fresh then queued + 1 else queued)
    else
      broadcastTo ports

/-- Triggers every legacy interrupt port again; returns how many there are and how many of their
work items were newly queued. -/
def broadcast : Guest σ (Nat × Nat) := broadcastTo P Port.all

end EventChannel.Guest
