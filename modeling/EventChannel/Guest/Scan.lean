import EventChannel.Guest.Queue
import EventChannel.PassOutcome

namespace EventChannel.Guest

variable {σ : Type} (P : Platform σ)

/-- Queues the port's work item and requests a deferred run if it was not queued; does nothing
while interrupts are masked. -/
def postpone (port : Port) : Guest σ Unit := do
  if ← interruptsMasked then
    note P (.deferredWorkDropped port)
  else if ← enqueue P port then
    call P .queueDeferred

/-- Services an event on a port by the kind that is published there. -/
def service (port : Port) : Kind → Guest σ PassOutcome
  | .empty => do
    note P (.eventOnUnboundPort port)
    return .onlyHandled
  | .normal => do
    match (← table).handler? port .normal with
    | some handler => call P (.handle .inline handler port)
    | none => note P (.noHandlerBound port)
    return .onlyHandled
  | .deferredProcedure => do
    postpone P port
    return .handledDeferred
  | .deferredHardwareIrq => do
    discard <| onTable fun t => t.setOutstanding port
    postpone P port
    return .handledDeferred
  | .suspend => do
    let (marked, queued) ← broadcast P
    note P (.suspendBroadcast port marked)
    if queued > 0 then
      call P .queueDeferred
    return .handledDeferred

/-- Counts and services an event whose pending bit has been cleared. -/
def deliver (port : Port) : Guest σ PassOutcome := do
  let deliveries ← onTable fun t => t.countDelivery port
  let kind := (← table).kind port
  note P (.delivering port kind deliveries)
  service P port kind

/-- Takes a pending bit and services its event, if it belongs to a port. -/
def consume (word bit : Fin 64) : Guest σ PassOutcome := do
  discard <| onPage (PageM.clearAt word bit)
  emit P (.consumed word bit)
  match Port.at? word bit with
  | some port => deliver P port
  | none =>
    note P (.eventBeyondTable word bit)
    return .empty

/-- Services the bits of a word that are ready and not in `serviced`, lowest first, looking again
at the shared page after each. -/
def scanWord (word : Fin 64) (serviced : Word) (outcome : PassOutcome) : Guest σ PassOutcome := do
  let ready := (← onPage (PageM.ready word)).without serviced
  if ready = .empty then
    return outcome
  else if h : ready.trailingZeros < 64 then
    let one ← consume P word ⟨ready.trailingZeros, h⟩
    scanWord word (serviced.insert ⟨ready.trailingZeros, h⟩) (outcome ∪ one)
  else
    throw .shiftOverflow
termination_by serviced.room
decreasing_by exact Word.room_insert_lt_of_trailingZeros h

/-- Services the words that a selector flags, lowest first. -/
def scanSelector (selector : Word) (outcome : PassOutcome) : Guest σ PassOutcome := do
  if selector = .empty then
    return outcome
  else
    match _h : selector.dropLowest? with
    | none => throw .subtractOverflow
    | some rest =>
      let word ← Fault.checkIndex 64 selector.trailingZeros
      let outcome ← scanWord P word .empty outcome
      scanSelector rest outcome
termination_by selector.bits.toNat
decreasing_by exact Word.toNat_dropLowest?_lt _h

/-- Services one upcall: every port that is pending and not masked is dispatched at most once, and
what is signalled again meanwhile is left for the next interrupt. -/
def scannerPass : Guest σ PassOutcome := do
  if ← interruptsMasked then
    note P .interruptWhileMasked
    return .empty
  let vcpu := (← config).upcallVcpu
  onPage (PageM.updateVcpu vcpu VcpuSlot.clearUpcall)
  let selector ← onPage (PageM.drainSelector vcpu)
  scanSelector P selector .empty

end EventChannel.Guest
