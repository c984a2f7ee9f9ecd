import EventChannel.Platform

namespace EventChannel

/-- A diagnostic snapshot of one port. -/
structure PortSnapshot where
  port : Port
  kind : Kind
  deliveries : UInt64
  masked : Bool
  pending : Bool
  outstanding : Bool
  vector : Option UInt32
  description : Option String
deriving DecidableEq

/-- What the event channels report about themselves. -/
structure Status where
  interruptsMasked : Bool
  connected : Bool
  suspendPort : Option Port
  config : Config
deriving DecidableEq

namespace Guest

variable {σ : Type}

def portSnapshot (port : Port) : Guest σ PortSnapshot := do
  let c ← channels
  let details := c.table.irqDetails? port
  return {
    port
    kind := c.table.kind port
    deliveries := (c.table.slot port).deliveries
    masked := c.page.isMasked port
    pending := c.page.isPending port
    outstanding := c.table.isOutstanding port
    vector := details.map Prod.fst
    description := details.map Prod.snd }

def status : Guest σ Status := do
  let c ← channels
  return ⟨c.interruptsMasked, c.connected, c.suspendPort, c.config⟩

end Guest

end EventChannel
