import EventChannel.Word

namespace EventChannel

/-- A bitmap of `n` words. -/
@[ext] structure Bitmap (n : Nat) where
  words : Vector Word n
deriving DecidableEq

namespace Bitmap

variable {n : Nat}

/-- The bitmap all of whose words are `w`. -/
def replicate (n : Nat) (w : Word) : Bitmap n := ⟨Vector.replicate n w⟩

def word (m : Bitmap n) (i : Fin n) : Word := m.words[i]

def setWord (m : Bitmap n) (i : Fin n) (w : Word) : Bitmap n := ⟨m.words.set i w⟩

def test (m : Bitmap n) (i : Fin n) (b : Fin 64) : Bool := (m.word i).test b

def insert (m : Bitmap n) (i : Fin n) (b : Fin 64) : Bitmap n :=
  m.setWord i ((m.word i).insert b)

def erase (m : Bitmap n) (i : Fin n) (b : Fin 64) : Bitmap n :=
  m.setWord i ((m.word i).erase b)

instance : Inhabited (Bitmap n) := ⟨replicate n Word.empty⟩

theorem ext_test {l m : Bitmap n} (h : ∀ i b, l.test i b = m.test i b) : l = m := by
  apply Bitmap.ext
  apply Vector.ext
  intro i hi
  exact Word.ext_test fun b => h ⟨i, hi⟩ b

@[simp] theorem word_replicate (w : Word) (i : Fin n) : (replicate n w).word i = w := by
  simp [replicate, word]

theorem word_setWord (m : Bitmap n) (i j : Fin n) (w : Word) :
    (m.setWord i w).word j = if i = j then w else m.word j := by
  simp [setWord, word, Vector.getElem_set, Fin.ext_iff]

theorem word_insert (m : Bitmap n) (i j : Fin n) (b : Fin 64) :
    (m.insert i b).word j = if i = j then (m.word j).insert b else m.word j := by
  by_cases h : i = j <;> simp [insert, word_setWord, h]

theorem word_erase (m : Bitmap n) (i j : Fin n) (b : Fin 64) :
    (m.erase i b).word j = if i = j then (m.word j).erase b else m.word j := by
  by_cases h : i = j <;> simp [erase, word_setWord, h]

@[simp] theorem test_replicate (w : Word) (i : Fin n) (b : Fin 64) :
    (replicate n w).test i b = w.test b := by
  simp [test]

/-- Setting a bit changes the membership of that bit only. -/
@[simp] theorem test_insert (m : Bitmap n) (i j : Fin n) (a b : Fin 64) :
    (m.insert i a).test j b = (decide (i = j ∧ a = b) || m.test j b) := by
  by_cases h : i = j <;> simp [test, word_insert, h]

/-- Clearing a bit changes the membership of that bit only. -/
@[simp] theorem test_erase (m : Bitmap n) (i j : Fin n) (a b : Fin 64) :
    (m.erase i a).test j b = (!decide (i = j ∧ a = b) && m.test j b) := by
  by_cases h : i = j <;> simp [test, word_erase, h]

theorem test_setWord (m : Bitmap n) (i j : Fin n) (w : Word) (b : Fin 64) :
    (m.setWord i w).test j b = if i = j then w.test b else m.test j b := by
  by_cases h : i = j <;> simp [test, word_setWord, h]

end Bitmap

end EventChannel
