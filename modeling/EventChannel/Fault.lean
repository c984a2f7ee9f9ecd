namespace EventChannel

/-- What stops a computation on the spot. -/
inductive Fault where
  | indexOutOfBounds (length index : Nat)
  | shiftOverflow
  | subtractOverflow
deriving DecidableEq

namespace Fault

def message : Fault → String
  | indexOutOfBounds length index =>
      "index out of bounds: the len is " ++ toString length ++ " but the index is " ++ toString index
  | shiftOverflow => "attempt to shift left with overflow"
  | subtractOverflow => "attempt to subtract with overflow"

/-- The index `i` of a table of length `n`; a fault if the table has no such entry. -/
def checkIndex {σ : Type} (n i : Nat) : EStateM Fault σ (Fin n) :=
  if h : i < n then pure ⟨i, h⟩ else throw (indexOutOfBounds n i)

theorem checkIndex_of_lt {σ : Type} {n i : Nat} (h : i < n) (s : σ) :
    checkIndex n i s = .ok ⟨i, h⟩ s := by
  simp only [checkIndex, h, dif_pos]
  rfl

theorem checkIndex_of_le {σ : Type} {n i : Nat} (h : n ≤ i) (s : σ) :
    checkIndex n i s = .error (indexOutOfBounds n i) s := by
  simp only [checkIndex, Nat.not_lt.mpr h, dif_neg, not_false_eq_true]
  rfl

end Fault

end EventChannel
