import EventChannel.Proofs.Invocation

namespace EventChannel

open Guest

/-- Something that an operation does to a binding or to queued work. -/
inductive Deed where
  | bound (port : Port) (action : Action)
  | dropped (port : Port)
  | reset (port : Port)
  | queued (port : Port)
  /-- The work of a port was cancelled, whether it was queued or not. -/
  | cancelled (port : Port) (found : Bool)
deriving DecidableEq

/-- The deed that an event tells of. -/
def Event.deed? : Event → Option Deed
  | published port action => some (.bound port action)
  | noticed (.actionDropped port _ _) => some (.dropped port)
  | slotReset port => some (.reset port)
  | workQueued port _ => some (.queued port)
  | workCancelled port found => some (.cancelled port found)
  | _ => none

namespace History

/-- What the operation of a depth that is under way has done itself so far, in this order. What
operations did that ran inside it is not counted. -/
def deeds (depth : Nat) : History → List Deed
  | [] => []
  | .began d _ _ :: before => if d = depth then [] else deeds depth before
  | .saw d event _ :: before =>
    if d = depth then deeds depth before ++ event.deed?.toList else deeds depth before
  | .ended .. :: before | .called .. :: before | .answered .. :: before => deeds depth before

/-- What had happened when the operation of a depth began that is under way. -/
def outset (depth : Nat) : History → History
  | [] => []
  | .began d _ _ :: before => if d = depth then before else outset depth before
  | .ended .. :: before | .saw .. :: before | .called .. :: before | .answered .. :: before =>
    outset depth before

end History

/-- What a deed comes to that an operation does unless it is refused. -/
def Deed.unlessRefused {ε α : Type} (deed : Deed) : Except ε α → List Deed
  | .error _ => []
  | .ok _ => [deed]

/-- What it does to reset ports in turn: it comes to all of them, or up to the first that is
refused. -/
inductive Resets : List Port → Except ChannelError Unit → List Deed → Prop where
  | done : Resets [] (.ok ()) []
  | refused {port ports} (found : Bool) :
    Resets (port :: ports) (.error (.slotBusy port)) [.cancelled port found, .reset port]
  | next {port ports result deeds} (found : Bool) (later : Resets ports result deeds) :
    Resets (port :: ports) result (.cancelled port found :: .reset port :: deeds)

/-- What it does to cancel the work of ports in turn, of which so many have some. -/
inductive Cancels : List Port → Nat → List Deed → Prop where
  | done : Cancels [] 0 []
  | next {port ports count deeds} (found : Bool) (later : Cancels ports count deeds) :
    Cancels (port :: ports) (if found then count + 1 else count) (.cancelled port found :: deeds)

/-- What it does to bring the event channels up. All ports are reset first, and the port for suspend
broadcasts is bound at the end if nothing is refused. -/
inductive Initialises : Except ChannelError Port → List Deed → Prop where
  | busy {e deeds} (resets : Resets Port.all (.error e) deeds) : Initialises (.error e) deeds
  | refused {deeds} (e : ChannelError) (resets : Resets Port.all (.ok ()) deeds) :
    Initialises (.error e) deeds
  | done {deeds} (port : Port) (resets : Resets Port.all (.ok ()) deeds) :
    Initialises (.ok port) (deeds ++ [.bound port .suspend])

/-- What it does to empty the queue, which takes two sweeps. -/
def Drains (deeds : List Deed) : Prop :=
  ∃ n m before after, Cancels Port.all n before ∧ Cancels Port.all m after ∧ deeds = before ++ after

/-- What an operation has done itself, when it ends with a certain result. -/
def Operation.Does (op : Operation) (result : Except ChannelError Report) (deeds : List Deed) :
    Prop :=
  match op with
  | .table (.publish port action) => deeds = (Deed.bound port action).unlessRefused result
  | .channels (.bindInline port handler) =>
    deeds = (Deed.bound port (.normal handler)).unlessRefused result
  | .channels (.bindDeferred port handler) =>
    deeds = (Deed.bound port (.deferredProcedure handler)).unlessRefused result
  | .channels (.bindIrq port vector description handler) =>
    let irq := IrqBinding.ofDescription handler vector description
    deeds = (Deed.bound port (.deferredHardwareIrq irq)).unlessRefused result
  | .table (.dropAction port) => deeds = (Deed.dropped port).unlessRefused result
  | .channels (.unbind port) =>
    ∃ found, deeds = (Deed.dropped port).unlessRefused result ++ [.cancelled port found]
  | .table (.resetSlot port) => ∃ r, result = Report.ofUnit r ∧ Resets [port] r deeds
  | .table .reset => ∃ r, result = Report.ofUnit r ∧ Resets Port.all r deeds
  | .channels .init | .channels .resume => ∃ r, result = Report.ofPort r ∧ Initialises r deeds
  | .channels .suspend | .channels .shutdown => Drains deeds
  | .table (.enqueue port) =>
    ∃ fresh, result = .ok (.truth fresh) ∧ deeds = if fresh then [.queued port] else []
  | .table (.cancel port) => ∃ found, result = .ok (.truth found) ∧ deeds = [.cancelled port found]
  | .table .cancelAll => ∃ n, result = .ok (.number n) ∧ Cancels Port.all n deeds
  | .table .broadcast => ∃ (marked : Nat) (ports : List Port),
    result = .ok (.broadcast marked ports.length) ∧ deeds = ports.map .queued
  | .channels .scannerPass => ∃ ports : List Port, deeds = ports.map .queued
  | _ => deeds = []

/-- An operation that ends has done what its result tells of, and nothing else. -/
def Entry.TellsDeeds : Entry → History → Prop
  | ended depth op result _, before => op.Does result (before.deeds depth)
  | _, _ => True

/-- Whether an operation binds ports or takes bindings back, and makes no call as it does. -/
def Operation.rebinds : Operation → Bool
  | .table (.publish ..) | .table (.dropAction _) | .table (.resetSlot _) | .table .reset => true
  | .channels op => op.rebinds
  | _ => false

namespace Resets

variable {port : Port} {ports : List Port} {first deeds : List Deed}

theorem stop {e : ChannelError} (h : Resets [port] (.error e) first) :
    Resets (port :: ports) (.error e) first := by
  cases h with
  | refused found => exact .refused found
  | next found later => cases later

theorem cons {u : Unit} {result : Except ChannelError Unit} (h : Resets [port] (.ok u) first)
    (later : Resets ports result deeds) : Resets (port :: ports) result (first ++ deeds) := by
  cases h with
  | next found rest =>
    cases rest with
    | done => exact .next found later

end Resets

theorem Deed.unlessRefused_ofUnit (deed : Deed) (result : Except ChannelError Unit) :
    deed.unlessRefused (Report.ofUnit result) = deed.unlessRefused result := by
  cases result <;> rfl

theorem History.deeds_cons_of_ne {depth : Nat} {entry : Entry} (h : entry.depth ≠ depth)
    (before : History) : deeds depth (entry :: before) = before.deeds depth := by
  cases entry with
  | began | saw => exact if_neg h
  | _ => rfl

theorem History.Begun.deeds {depth : Nat} {op : Operation} {history : History}
    (h : history.Begun depth op) : history.deeds depth = [] := by
  obtain ⟨state, before, rfl⟩ := h
  exact if_pos rfl

end EventChannel
