import EventChannel.Bitmap
import EventChannel.Notice

namespace EventChannel

/-- Something that happened inside the event channels, for whoever observes them. -/
inductive Event where
  /-- A pending bit went from clear to set. -/
  | raised (word bit : Fin 64)
  /-- A scanner pass took a pending bit. -/
  | consumed (word bit : Fin 64)
  /-- A pending bit was cleared outside a scanner pass. -/
  | discarded (word bit : Fin 64)
  /-- The pending bitmap, given as it was, was cleared as a whole. -/
  | pendingDropped (pending : Bitmap 64)
  /-- An action was published on a port. -/
  | published (port : Port) (action : Action)
  /-- A port was returned to its power-on state, its action perhaps excepted. -/
  | slotReset (port : Port)
  /-- A work item was queued under the given published kind. -/
  | workQueued (port : Port) (kind : Kind)
  /-- A work item was taken for running. -/
  | workClaimed (port : Port)
  /-- A work item was cancelled, whether it was queued or not. -/
  | workCancelled (port : Port) (found : Bool)
  /-- Another context started reading a port's action. -/
  | readerTaken (port : Port)
  /-- Another context stopped reading a port's action. -/
  | readerReleased (port : Port)
  | noticed (notice : Notice)
deriving DecidableEq

end EventChannel
