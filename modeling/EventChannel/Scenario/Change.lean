import EventChannel.Channels
import EventChannel.SharedPage.Layout

namespace EventChannel.Scenario

/-- Neighbouring positions with one value. -/
structure Run (α : Type) where
  first : Nat
  count : Nat
  value : α
deriving DecidableEq

namespace Run

variable {α : Type} [DecidableEq α]

def last (r : Run α) : Nat := r.first + r.count - 1

/-- The positions that a run stands for, with their value. -/
def expand (r : Run α) : List (Nat × α) :=
  (List.range' r.first r.count).map fun i => (i, r.value)

/-- Puts a position in front of runs, into the first of them if it fits there. -/
def cons (i : Nat) (a : α) : List (Run α) → List (Run α)
  | [] => [⟨i, 1, a⟩]
  | r :: rs => if r.first = i + 1 ∧ r.value = a then ⟨i, r.count + 1, a⟩ :: rs else ⟨i, 1, a⟩ :: r :: rs

/-- The runs of a list of positions in increasing order. -/
def ofList : List (Nat × α) → List (Run α)
  | [] => []
  | (i, a) :: rest => cons i a (ofList rest)

theorem flatMap_expand_cons (i : Nat) (a : α) (rs : List (Run α)) :
    (cons i a rs).flatMap expand = (i, a) :: rs.flatMap expand := by
  cases rs with
  | nil => rfl
  | cons r rs =>
    by_cases h : r.first = i + 1 ∧ r.value = a
    · obtain ⟨hfirst, rfl⟩ := h
      simp [cons, expand, List.range'_succ, hfirst]
    · simp [cons, expand, h]

/-- Grouping into runs loses nothing. -/
theorem flatMap_expand_ofList (l : List (Nat × α)) : (ofList l).flatMap expand = l := by
  induction l with
  | nil => rfl
  | cons p l ih =>
    obtain ⟨i, a⟩ := p
    rw [ofList, flatMap_expand_cons, ih]

end Run

/-- The positions from `i` on at which two lists differ, with the values of the second. -/
def differences {α : Type} [DecidableEq α] (i : Nat) : List α → List α → List (Nat × α)
  | a :: as, b :: bs =>
    if a = b then differences (i + 1) as bs else (i, b) :: differences (i + 1) as bs
  | _, _ => []

/-- What is shown of a port. -/
structure PortView where
  kind : Kind
  deliveries : UInt64
  outstanding : Bool
  queued : Bool
  /-- Whether a lookup under the published kind finds a handler. -/
  bound : Bool
deriving DecidableEq

namespace PortView

def ofPort (r : ActionTable) (p : Port) : PortView :=
  let slot := r.slot p
  ⟨slot.kind, slot.deliveries, r.isOutstanding p, slot.work.queued, slot.isBound⟩

end PortView

structure Flags where
  interruptsMasked : Bool
  connected : Bool
  suspendPort : Option Port
deriving DecidableEq

namespace Flags

def ofChannels (c : Channels) : Flags := ⟨c.interruptsMasked, c.connected, c.suspendPort⟩

end Flags

/-- What is shown of event channels in full. -/
structure View where
  words : List (BitVec 64)
  ports : List PortView
  flags : Flags
deriving DecidableEq

namespace View

def ofChannels (c : Channels) : View :=
  ⟨c.page.toWords.toList, Port.all.map (PortView.ofPort c.table), .ofChannels c⟩

end View

/-- What differs between two views. -/
structure Change where
  words : List (Run (BitVec 64))
  ports : List (Run PortView)
  flags : Option Flags
deriving DecidableEq

namespace Change

def between (before after : View) : Change where
  words := Run.ofList (differences 0 before.words after.words)
  ports := Run.ofList (differences 0 before.ports after.ports)
  flags := if before.flags = after.flags then none else some after.flags

end Change

end EventChannel.Scenario
