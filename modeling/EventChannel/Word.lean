namespace EventChannel

/-- One 64-bit word of an event bitmap, seen as the set of its bit numbers. -/
@[ext] structure Word where
  bits : BitVec 64
deriving DecidableEq

namespace Word

/-- The number of bits of a word. -/
def width : Nat := 64

def empty : Word := ⟨0#64⟩

def full : Word := ⟨BitVec.allOnes 64⟩

/-- The word whose only bit is `b`. -/
def single (b : Fin 64) : Word := ⟨1#64 <<< b.val⟩

def test (w : Word) (b : Fin 64) : Bool := w.bits[b.val]

def insert (w : Word) (b : Fin 64) : Word := ⟨w.bits ||| (single b).bits⟩

def erase (w : Word) (b : Fin 64) : Word := ⟨w.bits &&& ~~~(single b).bits⟩

/-- The bits of `v` that are not in `w`. -/
def without (v w : Word) : Word := ⟨v.bits &&& ~~~w.bits⟩

/-- The bit numbers in `w`, lowest first. -/
def toList (w : Word) : List (Fin 64) := (List.finRange 64).filter w.test

def lowest? (w : Word) : Option (Fin 64) := (List.finRange 64).find? w.test

/-- The number of zero bits below the lowest bit; all bits of the empty word are. -/
def trailingZeros (w : Word) : Nat := w.bits.ctz.toNat

/-- The word without its lowest bit, as `w & (w - 1)`. The empty word has none, and the subtraction
overflows. -/
def dropLowest? (w : Word) : Option Word :=
  if 1#64 ≤ w.bits then some ⟨w.bits &&& (w.bits - 1#64)⟩ else none

instance : EmptyCollection Word := ⟨empty⟩

instance : Inhabited Word := ⟨empty⟩

theorem ext_test {v w : Word} (h : ∀ b, v.test b = w.test b) : v = w := by
  apply Word.ext
  apply BitVec.eq_of_getElem_eq
  intro i hi
  exact h ⟨i, hi⟩

@[simp] theorem test_empty (b : Fin 64) : empty.test b = false := by
  simp [test, empty]

@[simp] theorem test_full (b : Fin 64) : full.test b = true :=
  BitVec.getElem_allOnes b.val b.isLt

@[simp] theorem test_single (a b : Fin 64) : (single a).test b = decide (a = b) := by
  simp only [test, single, ← BitVec.twoPow_eq, BitVec.getElem_twoPow, Fin.ext_iff, eq_comm]

@[simp] theorem test_without (v w : Word) (b : Fin 64) :
    (v.without w).test b = (v.test b && !w.test b) := by
  simp only [without, test, BitVec.getElem_and, BitVec.getElem_not]

@[simp] theorem test_insert (w : Word) (a b : Fin 64) :
    (w.insert a).test b = (decide (a = b) || w.test b) := by
  have key : (w.insert a).test b = (w.test b || (single a).test b) := by
    simp only [insert, test, BitVec.getElem_or]
  rw [key, test_single, Bool.or_comm]

@[simp] theorem test_erase (w : Word) (a b : Fin 64) :
    (w.erase a).test b = (!decide (a = b) && w.test b) := by
  have key : (w.erase a).test b = (w.test b && !(single a).test b) :=
    test_without w (single a) b
  rw [key, test_single, Bool.and_comm]

@[simp] theorem mem_toList {w : Word} {b : Fin 64} : b ∈ w.toList ↔ w.test b = true := by
  simp [toList, List.mem_finRange]

theorem trailingZeros_lt {w : Word} (h : w ≠ empty) : w.trailingZeros < 64 :=
  BitVec.lt_of_getLsbD (BitVec.getLsbD_true_ctz_of_ne_zero fun he => h (Word.ext he))

theorem bits_ne_zero {w : Word} (h : w.trailingZeros < 64) : w.bits ≠ 0#64 :=
  BitVec.ctz_lt_iff_ne_zero.1 (BitVec.lt_def.2 h)

theorem test_trailingZeros {w : Word} (h : w.trailingZeros < 64) :
    w.test ⟨w.trailingZeros, h⟩ = true := by
  rw [test, ← BitVec.getLsbD_eq_getElem]
  exact BitVec.getLsbD_true_ctz_of_ne_zero (bits_ne_zero h)

theorem toNat_dropLowest?_lt {w rest : Word} (h : w.dropLowest? = some rest) :
    rest.bits.toNat < w.bits.toNat := by
  unfold dropLowest? at h
  split at h
  next hone =>
    cases h
    have hpos : 0 < w.bits.toNat := BitVec.le_def.1 hone
    rw [BitVec.toNat_and, BitVec.toNat_sub_of_le hone]
    exact Nat.lt_of_le_of_lt Nat.and_le_right (Nat.pred_lt_self hpos)
  · cases h

theorem test_of_lowest? {w : Word} {b : Fin 64} (h : w.lowest? = some b) : w.test b = true :=
  List.find?_some h

theorem lowest?_eq_none_iff {w : Word} : w.lowest? = none ↔ ∀ b, w.test b = false := by
  simp [lowest?, List.find?_eq_none, List.mem_finRange]

/-- How many bit numbers `w` leaves out. -/
def room (w : Word) : Nat := (List.finRange 64).countP fun b => !w.test b

theorem room_insert_lt {w : Word} {b : Fin 64} (h : w.test b = false) :
    (w.insert b).room < w.room := by
  have count (l : List (Fin 64)) :
      l.countP (fun a => !(w.insert b).test a) ≤ l.countP (fun a => !w.test a) ∧
      (b ∈ l → l.countP (fun a => !(w.insert b).test a) < l.countP (fun a => !w.test a)) := by
    induction l with
    | nil => simp
    | cons a l ih =>
      obtain ⟨le, lt⟩ := ih
      simp only [test_insert] at le lt ⊢
      by_cases hab : b = a
      · subst hab
        simp only [List.countP_cons, h, decide_true, Bool.true_or, Bool.not_true, Bool.not_false,
          Bool.false_eq_true, if_true, if_false]
        exact ⟨by omega, fun _ => by omega⟩
      · have hab' : ¬ a = b := fun e => hab e.symm
        simp only [List.countP_cons, hab, decide_false, Bool.false_or, List.mem_cons, false_or]
        exact ⟨by omega, fun hm => by have := lt hm; omega⟩
  exact (count _).2 (List.mem_finRange b)

theorem room_insert_lt_of_trailingZeros {v w : Word} (h : (v.without w).trailingZeros < 64) :
    (w.insert ⟨_, h⟩).room < w.room := by
  have hb := test_trailingZeros h
  simp only [test_without, Bool.and_eq_true, Bool.not_eq_true'] at hb
  exact room_insert_lt hb.2

end Word

end EventChannel
