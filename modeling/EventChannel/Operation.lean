import EventChannel.Guest.Snapshot
import EventChannel.PassOutcome

namespace EventChannel

/-- An operation on the bitmaps of the shared page. -/
inductive PageOperation where
  | mask (port : Port)
  | unmask (port : Port)
  | isMasked (port : Port)
  | isPending (port : Port)
  | clear (port : Port)
  | unmaskAt (word : Nat) (bit : Fin 64)
  | clearAt (word : Nat) (bit : Fin 64)
  | ready (word : Nat)
  | maskAll
  | clearAll
  | alert (port : Port) (vcpu : Nat)
  | raise (port : Port) (vcpu : Nat)
  | raiseAt (word : Nat) (bit : Fin 64) (vcpu : Nat)
deriving DecidableEq

/-- An operation on a virtual processor's slot in the shared page. -/
inductive VcpuOperation where
  | isUpcallPending
  | isUpcallMasked
  | clearUpcall
  | raiseUpcall
  | maskUpcall (masked : Bool)
  | reset
  | selector
  | drainSelector
  | flagWord (word : Fin 64)
deriving DecidableEq

/-- An operation on the action table. -/
inductive TableOperation where
  | kind (port : Port)
  | publish (port : Port) (action : Action)
  | dropAction (port : Port)
  | resetSlot (port : Port)
  | reset
  /-- Looks up the handler under a kind and calls it if there is one. -/
  | callHandler (port : Port) (expected : Kind)
  | irqDetails (port : Port)
  | isQueued (port : Port)
  | enqueue (port : Port)
  | cancel (port : Port)
  | cancelAll
  | setOutstanding (port : Port)
  | acknowledge (port : Port)
  | isOutstanding (port : Port)
  | countDelivery (port : Port)
  | deliveries (port : Port)
  | broadcast
  | runWordAt (word : Nat)
  /-- Another context starts to read the port's action. -/
  | takeReader (port : Port)
  /-- The latest reader of the port's action ends. -/
  | releaseReader (port : Port)
deriving DecidableEq

/-- An operation on the event channels as a whole. -/
inductive ChannelOperation where
  | init
  | resume
  | suspend
  | shutdown
  | connect
  | disconnect
  | bindInline (port : Port) (handler : HandlerName)
  | bindDeferred (port : Port) (handler : HandlerName)
  | bindIrq (port : Port) (vector : UInt32) (description : String) (handler : HandlerName)
  | unbind (port : Port)
  | mask (port : Port)
  | unmask (port : Port)
  | signal (port : Port)
  | close (port : Port)
  | allocUnbound (remote : DomainId)
  | allocIpi (vcpu : UInt32)
  | scannerPass
  | deferredPass
  | acknowledge (port : Port)
  | isOutstanding (port : Port)
  | portSnapshot (port : Port)
  | status
deriving DecidableEq

inductive Operation where
  | page (op : PageOperation)
  | vcpu (vcpu : Nat) (op : VcpuOperation)
  | table (op : TableOperation)
  | channels (op : ChannelOperation)
deriving DecidableEq

/-- What an operation reports when it is not refused. -/
inductive Report where
  | done
  | truth (value : Bool)
  | number (value : Nat)
  | word (value : Word)
  | kind (value : Kind)
  | irqDetails (value : Option (UInt32 × String))
  | broadcast (marked queued : Nat)
  | scanned (outcome : PassOutcome)
  | portSnapshot (snapshot : PortSnapshot)
  | status (status : Status)
  /-- There was no reader to take or to release. -/
  | noReader
deriving DecidableEq

end EventChannel
