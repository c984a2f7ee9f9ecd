import EventChannel.Operation.Run

namespace EventChannel

/-- An entry in the history of a run. Operations run inside each other: the calls that an operation
of depth `n + 1` makes run operations of depth `n`. Each entry comes with the state of the event
channels at that moment. -/
inductive Entry where
  | began (depth : Nat) (op : Operation) (state : Channels)
  | ended (depth : Nat) (op : Operation) (result : Except ChannelError Report) (state : Channels)
  | saw (depth : Nat) (event : Event) (state : Channels)
  | called (depth : Nat) (request : Request) (state : Channels)
  | answered (depth : Nat) (request : Request) (reply : request.Reply) (state : Channels)

/-- What has happened so far, the latest first. -/
abbrev History := List Entry

/-- Adds an entry to the history. -/
def record (entry : Channels → Entry) : Guest History Unit :=
  modify fun s => { s with outside := entry s.channels :: s.outside }

/-- A course of operations, each chosen by the results of the ones before. -/
inductive Program (α : Type) where
  | done (result : α)
  | step (op : Operation) (next : Except ChannelError Report → Program α)

namespace Program

variable {α : Type}

def run (P : Platform History) (depth : Nat) : Program α → Guest History α
  | done result => return result
  | step op next => do
    record (.began depth op)
    let result ← op.run P
    record (.ended depth op result)
    (next result).run P depth

/-- Whether every operation that the program can come to is one of the allowed. -/
def Within (allowed : Operation → Prop) : Program α → Prop
  | done _ => True
  | step op next => allowed op ∧ ∀ result, (next result).Within allowed

end Program

/-- What answers the calls that leave the event channels. It runs operations on them before it
answers, as the history suggests. -/
structure Client where
  respond : (r : Request) → History → Program r.Reply
  /-- The answer to a call in which no operation is run. -/
  answer : (r : Request) → History → r.Reply

namespace Client

/-- The platform on which operations run inside each other at most `depth` deep. -/
def platform (c : Client) : Nat → Platform History
  | 0 => ⟨fun r => do
      let history := (← get).outside
      record (.called 0 r)
      record (.answered 0 r (c.answer r history))
      return c.answer r history,
    fun event state history => .saw 0 event state :: history⟩
  | depth + 1 => ⟨fun r => do
      let history := (← get).outside
      record (.called (depth + 1) r)
      let reply ← (c.respond r history).run (c.platform depth) depth
      record (.answered (depth + 1) r reply)
      return reply,
    fun event state history => .saw (depth + 1) event state :: history⟩

end Client

end EventChannel
