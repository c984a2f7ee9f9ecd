import EventChannel.Word

namespace EventChannel

/-- The number of ports the guest keeps actions for. -/
def portCount : Nat := 1024

/-- The number of words in a private bitmap with one bit per port. -/
def portWords : Nat := 16

/-- An event channel port that the guest keeps an action for. -/
@[ext] structure Port where
  index : Fin 1024
deriving DecidableEq

namespace Port

/-- The number the hypervisor knows the port by. -/
def number (p : Port) : UInt32 := .ofNat p.index.val

def ofNumber? (number : UInt32) : Option Port :=
  if h : number.toNat < 1024 then some ⟨⟨number.toNat, h⟩⟩ else none

/-- The bitmap word that holds the port's bit. -/
def word (p : Port) : Fin 16 := ⟨p.index.val / 64, by omega⟩

theorem words_le_pageWords : 16 ≤ 64 := by decide

/-- The port's word in the larger bitmaps of the shared page. -/
def pageWord (p : Port) : Fin 64 := p.word.castLE words_le_pageWords

/-- The number of the port's bit in its word. -/
def bit (p : Port) : Fin 64 := ⟨p.index.val % 64, by omega⟩

/-- The word whose only bit is the port's. -/
def mask (p : Port) : Word := Word.single p.bit

def text (p : Port) : String := toString p.number.toNat

/-- The port addressed by a bit of a bitmap, if the guest keeps an action for it.

The word is checked before it is shifted, so a large word does not wrap round to a port. -/
def ofBit? (word : UInt64) (bit : UInt32) : Option Port :=
  if bit.toNat ≥ 64 ∨ word.toNat ≥ portWords then
    none
  else
    let number := (word <<< 6) ||| bit.toUInt64
    if h : number.toNat < 1024 then some ⟨⟨number.toNat, h⟩⟩ else none

/-- The port of a bit of a page word. -/
def at? (word bit : Fin 64) : Option Port := ofBit? (.ofNat word) (.ofNat bit)

/-- All ports, lowest first. -/
def all : List Port := (List.finRange 1024).map Port.mk

/-- Every `stride`-th port after the first `skip`, but at most `take` of them; a stride of zero counts
as one. -/
def every (skip stride take : Nat) : List Port :=
  let rest := all.drop skip
  let chosen := rest.zipIdx.filter fun (_, i) => i % (if stride = 0 then 1 else stride) = 0
  (chosen.map Prod.fst).take take

instance : LE Port := ⟨fun p q => p.index ≤ q.index⟩

instance : Ord Port := ⟨fun p q => compare p.index.val q.index.val⟩

@[simp] theorem toNat_number (p : Port) : p.number.toNat = p.index.val := by
  have := p.index.isLt
  simp only [number, UInt32.toNat_ofNat', Nat.reducePow]
  omega

@[simp] theorem ofNumber?_number (p : Port) : ofNumber? p.number = some p := by
  simp [ofNumber?]

theorem ofNumber?_eq_some {number : UInt32} {p : Port} (h : ofNumber? number = some p) :
    p.number = number := by
  unfold ofNumber? at h
  split at h
  · cases h
    exact UInt32.toNat_inj.1 (toNat_number _)
  · cases h

theorem ofNumber?_eq_none {number : UInt32} (h : ofNumber? number = none) : 1024 ≤ number.toNat := by
  unfold ofNumber? at h
  split at h
  · cases h
  next hlt => exact Nat.le_of_not_lt hlt

@[simp] theorem mem_all (p : Port) : p ∈ all := by
  simp only [all, List.mem_map]
  exact ⟨p.index, List.mem_finRange _, rfl⟩

theorem nodup_all : all.Nodup := by
  rw [all, List.Nodup, List.pairwise_map]
  exact (List.nodup_finRange 1024).imp fun hne he => hne (congrArg index he)

/-- For a word that holds ports the shift does not wrap, and the bit fits below the shifted word. -/
theorem toNat_shiftLeft_or {word : UInt64} {bit : UInt32} (hword : word.toNat < portWords)
    (hbit : bit.toNat < 64) :
    (word <<< 6 ||| bit.toUInt64).toNat = word.toNat * 64 + bit.toNat := by
  have hlt : word.toNat <<< 6 < 2 ^ 64 := by
    unfold portWords at hword
    rw [Nat.shiftLeft_eq]
    omega
  rw [UInt64.toNat_or, UInt64.toNat_shiftLeft, UInt32.toNat_toUInt64]
  change (word.toNat <<< 6) % 2 ^ 64 ||| bit.toNat = _
  rw [Nat.mod_eq_of_lt hlt, ← Nat.shiftLeft_add_eq_or_of_lt hbit, Nat.shiftLeft_eq]

/-- A bit of a word is that of the port with their number, and of none if either is too large. -/
theorem ofBit?_eq (word : UInt64) (bit : UInt32) : ofBit? word bit =
    if h : bit.toNat < 64 ∧ word.toNat * 64 + bit.toNat < 1024 then
      some ⟨⟨word.toNat * 64 + bit.toNat, h.2⟩⟩
    else none := by
  unfold ofBit?
  by_cases hin : bit.toNat < 64 ∧ word.toNat < portWords
  · obtain ⟨hbit, hword⟩ := hin
    have hguard : ¬(bit.toNat ≥ 64 ∨ word.toNat ≥ portWords) := by omega
    simp only [hguard, if_false, toNat_shiftLeft_or hword hbit, hbit, true_and]
  · have hguard : bit.toNat ≥ 64 ∨ word.toNat ≥ portWords := by omega
    have hout : ¬(bit.toNat < 64 ∧ word.toNat * 64 + bit.toNat < 1024) := by
      unfold portWords at hin
      omega
    rw [if_pos hguard, dif_neg hout]

/-- The ports are numbered through the bits of the first words. -/
theorem at?_eq (word bit : Fin 64) : at? word bit =
    if h : word.val * 64 + bit.val < 1024 then some ⟨⟨word.val * 64 + bit.val, h⟩⟩ else none := by
  have hbit : (UInt32.ofNat bit.val).toNat = bit.val := by
    rw [UInt32.toNat_ofNat']
    omega
  have hword : (UInt64.ofNat word.val).toNat = word.val := by
    rw [UInt64.toNat_ofNat']
    omega
  rw [at?, ofBit?_eq]
  simp only [hbit, hword, bit.isLt, true_and]

theorem ext_bit {p q : Port} (hword : p.word = q.word) (hbit : p.bit = q.bit) : p = q := by
  rw [word, word, Fin.mk.injEq] at hword
  rw [bit, bit, Fin.mk.injEq] at hbit
  exact Port.ext (Fin.ext (by omega))

/-- In a bitmap with a bit for each port, however long, different ports have different bits. -/
theorem place_eq_iff {n : Nat} (hn : 16 ≤ n) {p q : Port} :
    (p.word.castLE hn = q.word.castLE hn ∧ p.bit = q.bit) ↔ p = q := by
  constructor
  · rintro ⟨hword, hbit⟩
    have hval := Fin.val_eq_of_eq hword
    exact ext_bit (Fin.ext hval) hbit
  · rintro rfl
    exact ⟨rfl, rfl⟩

theorem at?_castLE (word : Fin 16) (bit : Fin 64) :
    ∃ p, at? (word.castLE words_le_pageWords) bit = some p ∧ p.word = word ∧ p.bit = bit := by
  have hlt : (word.castLE words_le_pageWords).val * 64 + bit.val < 1024 := by
    rw [Fin.val_castLE]
    omega
  refine ⟨_, (at?_eq _ _).trans (dif_pos hlt), Fin.ext ?_, Fin.ext ?_⟩
  · change (word.val * 64 + bit.val) / 64 = word.val
    omega
  · change (word.val * 64 + bit.val) % 64 = bit.val
    omega

end Port

end EventChannel
