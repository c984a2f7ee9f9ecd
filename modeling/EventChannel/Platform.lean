import EventChannel.Channels
import EventChannel.Event

namespace EventChannel

/-- The circumstances in which a handler is called. -/
inductive HandlerContext where
  /-- By a scanner pass, at interrupt level. -/
  | inline
  /-- By a deferred run. -/
  | deferred
  /-- By whoever looked the handler up. -/
  | direct
deriving DecidableEq

/-- A call that leaves the event channels: to the hypervisor, to the host or to a handler. -/
inductive Request where
  | hypercall (op : Hypercall)
  | setParam (param : DomainParam) (value : UInt64)
  | connect (line : InterruptLine)
  | disconnect (line : InterruptLine)
  | queueDeferred
  | flushDeferred
  | handle (context : HandlerContext) (handler : HandlerName) (port : Port)
deriving DecidableEq

namespace Request

/-- What comes back from a call. Of the hypercalls only those that allocate a port answer with a
number that means something. -/
@[reducible] def Reply : Request → Type
  | hypercall _ => Except Errno UInt32
  | setParam _ _ => Except Errno Unit
  | connect _ => Except HostStatus Unit
  | disconnect _ | queueDeferred | flushDeferred | handle _ _ _ => Unit

/-- The port that a call is about. -/
def port? : Request → Option Port
  | hypercall op => op.port?
  | handle _ _ port => some port
  | setParam _ _ | connect _ | disconnect _ | queueDeferred | flushDeferred => none

end Request

/-- The event channels together with what surrounds them. -/
structure System (σ : Type) where
  channels : Channels
  outside : σ

/-- A computation of the guest. A fault stops it and leaves everything written so far. -/
abbrev Guest (σ : Type) := EStateM Fault (System σ)

/-- What surrounds the event channels: the hypervisor, the host, the handlers and an observer.

A call may come back to the event channels before it is answered; an observer, who sees each event
with the state at that moment, may not. -/
structure Platform (σ : Type) where
  perform : (r : Request) → Guest σ r.Reply
  observe : Event → Channels → σ → σ

namespace Guest

variable {σ α : Type}

def channels : Guest σ Channels := return (← get).channels

def table : Guest σ ActionTable := return (← get).channels.table

def config : Guest σ Config := return (← get).channels.config

def interruptsMasked : Guest σ Bool := return (← get).channels.interruptsMasked

def modifyChannels (f : Channels → Channels) : Guest σ Unit :=
  modify fun ⟨channels, outside⟩ => ⟨f channels, outside⟩

def modifyTable (f : ActionTable → ActionTable) : Guest σ Unit :=
  modifyChannels fun ⟨page, table, config, masked, connected, suspendPort⟩ =>
    ⟨page, f table, config, masked, connected, suspendPort⟩

/-- Runs an operation on the action table. -/
def onTable (f : ActionTable → α × ActionTable) : Guest σ α :=
  modifyGet fun ⟨⟨page, table, config, masked, connected, suspendPort⟩, outside⟩ =>
    let (a, table) := f table
    (a, ⟨⟨page, table, config, masked, connected, suspendPort⟩, outside⟩)

/-- Runs a computation on the shared page. -/
def onPage (m : PageM α) : Guest σ α := fun
  | ⟨⟨page, table, config, masked, connected, suspendPort⟩, outside⟩ =>
    match m page with
    | .ok a page => .ok a ⟨⟨page, table, config, masked, connected, suspendPort⟩, outside⟩
    | .error e page => .error e ⟨⟨page, table, config, masked, connected, suspendPort⟩, outside⟩

def modifyPage (f : SharedPage → SharedPage) : Guest σ Unit :=
  modifyChannels fun ⟨page, table, config, masked, connected, suspendPort⟩ =>
    ⟨f page, table, config, masked, connected, suspendPort⟩

def setInterruptsMasked (masked : Bool) : Guest σ Unit :=
  modifyChannels fun c => { c with interruptsMasked := masked }

def setConnected (connected : Bool) : Guest σ Unit :=
  modifyChannels fun c => { c with connected }

def setSuspendPort (port : Option Port) : Guest σ Unit :=
  modifyChannels fun c => { c with suspendPort := port }

/-- Lets the observer see an event. -/
def emit (P : Platform σ) (e : Event) : Guest σ Unit :=
  modify fun ⟨channels, outside⟩ => ⟨channels, P.observe e channels outside⟩

def note (P : Platform σ) (n : Notice) : Guest σ Unit := emit P (.noticed n)

/-- Makes a call that leaves the event channels. -/
def call (P : Platform σ) (r : Request) : Guest σ r.Reply := P.perform r

end Guest

end EventChannel
