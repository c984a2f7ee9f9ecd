namespace EventChannel

/-- What one scanner pass did. -/
@[ext] structure PassOutcome where
  /-- At least one port was processed. -/
  handled : Bool
  /-- At least one port handed its work to the deferred pass. -/
  deferred : Bool
deriving DecidableEq

namespace PassOutcome

def empty : PassOutcome := ⟨false, false⟩

def onlyHandled : PassOutcome := ⟨true, false⟩

def handledDeferred : PassOutcome := ⟨true, true⟩

def union (a b : PassOutcome) : PassOutcome := ⟨a.handled || b.handled, a.deferred || b.deferred⟩

/-- Whether the host should treat the interrupt as fully serviced by the pass. -/
def claimed (o : PassOutcome) : Bool := o.handled && !o.deferred

/-- The outcome that a flag byte stands for; unknown flags are dropped. -/
def ofBits (bits : UInt8) : PassOutcome := ⟨bits.toNat.testBit 0, bits.toNat.testBit 1⟩

def bits (o : PassOutcome) : UInt8 :=
  (if o.handled then 1 else 0) + (if o.deferred then 2 else 0)

/-- The outcome that a flag byte stands for, if it has no unknown flags. -/
def ofBits? (bits : UInt8) : Option PassOutcome :=
  if (ofBits bits).bits = bits then some (ofBits bits) else none

def isEmpty (o : PassOutcome) : Bool := o = empty

instance : Union PassOutcome := ⟨union⟩

def unionOf (outcomes : List PassOutcome) : PassOutcome := outcomes.foldl union empty

@[simp] theorem ofBits_bits (o : PassOutcome) : ofBits o.bits = o := by
  obtain ⟨handled, deferred⟩ := o
  cases handled <;> cases deferred <;> rfl

@[simp] theorem empty_union (o : PassOutcome) : empty ∪ o = o := by
  simp only [Union.union, union, empty, Bool.false_or]

@[simp] theorem union_empty (o : PassOutcome) : o ∪ empty = o := by
  simp only [Union.union, union, empty, Bool.or_false]

theorem union_assoc (a b c : PassOutcome) : (a ∪ b) ∪ c = a ∪ (b ∪ c) := by
  simp only [Union.union, union, Bool.or_assoc]

theorem unionOf_append (outcomes more : List PassOutcome) :
    unionOf (outcomes ++ more) = unionOf outcomes ∪ unionOf more := by
  have hfold (a : PassOutcome) : more.foldl union a = a ∪ unionOf more := by
    induction more generalizing a with
    | nil => exact (union_empty a).symm
    | cons b more ih =>
      have hfirst : unionOf (b :: more) = b ∪ unionOf more := by
        rw [unionOf, List.foldl_cons, ih]
        exact congrArg (· ∪ _) (empty_union b)
      rw [List.foldl_cons, ih, hfirst]
      exact union_assoc a b _
  rw [unionOf, List.foldl_append, hfold]
  rfl

@[simp] theorem unionOf_singleton (o : PassOutcome) : unionOf [o] = o := empty_union o

theorem unionOf_cons (o : PassOutcome) (outcomes : List PassOutcome) :
    unionOf (o :: outcomes) = o ∪ unionOf outcomes := by
  rw [← List.singleton_append, unionOf_append, unionOf_singleton]

end PassOutcome

end EventChannel
