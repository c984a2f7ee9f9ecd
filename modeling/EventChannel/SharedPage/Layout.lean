import EventChannel.SharedPage

namespace EventChannel

namespace VcpuSlot

/-- The first word of a slot: the pending byte, the mask byte, then six bytes of padding. -/
def flagsWord (v : VcpuSlot) : BitVec 64 :=
  v.padding ++ v.upcallMask.toBitVec ++ v.upcallPending.toBitVec

/-- The eight words of a slot in memory order. -/
def wordAt (v : VcpuSlot) (k : Fin 8) : BitVec 64 :=
  if k.val = 0 then v.flagsWord
  else if k.val = 1 then v.selector.bits
  else v.reserved[k.val - 2]

def ofWords (word : Fin 8 → BitVec 64) : VcpuSlot where
  upcallPending := ⟨(word 0).extractLsb' 0 8⟩
  upcallMask := ⟨(word 0).extractLsb' 8 8⟩
  padding := (word 0).extractLsb' 16 48
  selector := ⟨word 1⟩
  reserved := Vector.ofFn fun i => word ⟨i.val + 2, by omega⟩

theorem wordAt_ofWords (word : Fin 8 → BitVec 64) (k : Fin 8) :
    (ofWords word).wordAt k = word k := by
  unfold wordAt
  split
  case isTrue h =>
    have hk : k = 0 := Fin.ext h
    subst hk
    apply BitVec.eq_of_getLsbD_eq
    intro i hi
    simp only [flagsWord, ofWords, BitVec.getLsbD_append, BitVec.getLsbD_extractLsb']
    by_cases h8 : i < 8
    · simp [h8]
    · by_cases h16 : i < 16
      · have : i - 8 < 8 := by omega
        simp [h8, this, show 8 + (i - 8) = i by omega]
      · have : ¬ i - 8 < 8 := by omega
        simp [h8, this, show 16 + (i - 8 - 8) = i by omega, show i - 8 - 8 < 48 by omega]
  case isFalse h =>
    split
    case isTrue h1 =>
      have hk : k = 1 := Fin.ext h1
      subst hk
      rfl
    case isFalse h1 =>
      simp only [ofWords, Vector.getElem_ofFn]
      congr 1
      exact Fin.ext (by simp only; omega)

end VcpuSlot

namespace SharedPage

/-- The size of a virtual processor's slot in bytes. -/
def vcpuBytes : Nat := 64

/-- The size of the page's event channel part in bytes. -/
def byteSize : Nat := 3136

/-- The page in memory order: the slots, the pending bitmap, the mask bitmap, and the rest. -/
def wordAt (s : SharedPage) (i : Fin 392) : BitVec 64 :=
  if slot : i.val < 256 then (s.vcpu ⟨i.val / 8, by omega⟩).wordAt ⟨i.val % 8, by omega⟩
  else if pending : i.val < 320 then (s.pending.word ⟨i.val - 256, by omega⟩).bits
  else if mask : i.val < 384 then (s.mask.word ⟨i.val - 320, by omega⟩).bits
  else s.reserved[i.val - 384]

def toWords (s : SharedPage) : Vector (BitVec 64) 392 := Vector.ofFn s.wordAt

def ofWords (words : Vector (BitVec 64) 392) : SharedPage where
  vcpus := Vector.ofFn fun v => VcpuSlot.ofWords fun k => words[v.val * 8 + k.val]
  pending := ⟨Vector.ofFn fun w => ⟨words[w.val + 256]⟩⟩
  mask := ⟨Vector.ofFn fun w => ⟨words[w.val + 320]⟩⟩
  reserved := Vector.ofFn fun i => words[i.val + 384]

theorem toWords_ofWords (words : Vector (BitVec 64) 392) : (ofWords words).toWords = words := by
  apply Vector.ext
  intro i hi
  simp only [toWords, Vector.getElem_ofFn, wordAt]
  split
  case isTrue h =>
    simp only [vcpu, ofWords, Fin.getElem_fin, Vector.getElem_ofFn, VcpuSlot.wordAt_ofWords]
    congr 1
    omega
  case isFalse h =>
    split
    case isTrue h1 =>
      simp only [ofWords, Bitmap.word, Fin.getElem_fin, Vector.getElem_ofFn]
      congr 1
      omega
    case isFalse h1 =>
      split
      case isTrue h2 =>
        simp only [ofWords, Bitmap.word, Fin.getElem_fin, Vector.getElem_ofFn]
        congr 1
        omega
      case isFalse h2 =>
        simp only [ofWords, Vector.getElem_ofFn]
        congr 1
        omega

end SharedPage

end EventChannel
