import EventChannel.Channels
import EventChannel.Proofs.ActionTable
import EventChannel.Proofs.Bounds
import EventChannel.Proofs.SharedPage

namespace EventChannel

namespace Word

/-- The bits of two words together. -/
def union (v w : Word) : Word := ⟨v.bits ||| w.bits⟩

/-- The bits that two words have in common. -/
def inter (v w : Word) : Word := ⟨v.bits &&& w.bits⟩

def overlaps (v w : Word) : Bool := v.inter w ≠ empty

theorem test_inter (v w : Word) (b : Fin 64) : (v.inter w).test b = (v.test b && w.test b) :=
  BitVec.getElem_and b.isLt

theorem overlaps_iff {v w : Word} :
    v.overlaps w = true ↔ ∃ b, v.test b = true ∧ w.test b = true := by
  rw [overlaps, decide_eq_true_iff]
  constructor
  · intro hne
    apply Classical.byContradiction
    intro hnone
    apply hne
    apply ext_test
    intro b
    rw [test_inter, test_empty, Bool.and_eq_false_imp]
    intro hv
    rw [← Bool.not_eq_true]
    exact fun hw => hnone ⟨b, hv, hw⟩
  · rintro ⟨b, hv, hw⟩ hempty
    have hb := test_inter v w b
    rw [hempty, test_empty, hv, hw] at hb
    cases hb

/-- A word overlaps the mask of a bit that it has. -/
theorem overlaps_single (w : Word) (b : Fin 64) : w.overlaps (single b) = w.test b := by
  rw [Bool.eq_iff_iff, overlaps_iff]
  constructor
  · rintro ⟨a, hw, ha⟩
    rw [test_single, decide_eq_true_eq] at ha
    rw [ha]
    exact hw
  · intro hw
    exact ⟨b, hw, by rw [test_single, decide_eq_true rfl]⟩

end Word

namespace Bitmap

variable {n : Nat}

/-- Sets the bits of a mask in a word. -/
def setBits (m : Bitmap n) (i : Fin n) (mask : Word) : Bitmap n :=
  m.setWord i ((m.word i).union mask)

/-- Clears the bits of a mask in a word. -/
def clearBits (m : Bitmap n) (i : Fin n) (mask : Word) : Bitmap n :=
  m.setWord i ((m.word i).without mask)

variable (hn : 16 ≤ n)

/-- Whether a port is in a bitmap: its word there and its mask overlap. -/
def has (m : Bitmap n) (p : Port) : Bool := (m.word (p.word.castLE hn)).overlaps p.mask

/-- A bitmap comes from another by a change to the membership of one port. The bits that belong to
no port are as they were, too. -/
structure ChangedAt (p : Port) (member : Bool) (m m' : Bitmap n) : Prop where
  has : ∀ q, m'.has hn q = if p = q then member else m.has hn q
  others : ∀ i b, ¬(p.word.castLE hn = i ∧ p.bit = b) → m'.test i b = m.test i b

variable (m : Bitmap n) (p q : Port)

theorem has_eq : m.has hn p = m.test (p.word.castLE hn) p.bit := Word.overlaps_single _ _

theorem setBits_mask :
    m.setBits (p.word.castLE hn) p.mask = m.insert (p.word.castLE hn) p.bit := rfl

theorem clearBits_mask :
    m.clearBits (p.word.castLE hn) p.mask = m.erase (p.word.castLE hn) p.bit := rfl

theorem changedAt_setBits : ChangedAt hn p true m (m.setBits (p.word.castLE hn) p.mask) where
  has q := by rw [has_eq, has_eq, setBits_mask, test_insert_port]
  others i b hne := by rw [setBits_mask, test_insert, decide_eq_false hne, Bool.false_or]

theorem changedAt_clearBits : ChangedAt hn p false m (m.clearBits (p.word.castLE hn) p.mask) where
  has q := by rw [has_eq, has_eq, clearBits_mask, test_erase_port]
  others i b hne := by
    rw [clearBits_mask, test_erase, decide_eq_false hne, Bool.not_false, Bool.true_and]

end Bitmap

namespace Port

/-- A bit of a word is that of the port. -/
structure IsAt (p : Port) (word : UInt64) (bit : UInt32) : Prop where
  number : p.number.toNat = word.toNat * 64 + bit.toNat
  word : p.word.val = word.toNat
  bit : p.bit.val = bit.toNat

variable {word : UInt64} {bit : UInt32} {p q : Port}

theorem exists_ofBit?_iff :
    (∃ r, ofBit? word bit = some r) ↔ bit.toNat < 64 ∧ word.toNat * 64 + bit.toNat < 1024 := by
  rw [ofBit?_eq]
  split
  next hin => exact ⟨fun _ => hin, fun _ => ⟨_, rfl⟩⟩
  next hout =>
    constructor
    · rintro ⟨_, he⟩
      cases he
    · intro hin
      exact absurd hin hout

theorem ofBit?_eq_some_iff : ofBit? word bit = some p ↔ p.IsAt word bit := by
  have hval : p.word.val = p.index.val / 64 ∧ p.bit.val = p.index.val % 64 := ⟨rfl, rfl⟩
  constructor
  · intro he
    rw [ofBit?_eq] at he
    split at he
    next hin =>
      cases he
      refine ⟨toNat_number _, ?_, ?_⟩
      · change (word.toNat * 64 + bit.toNat) / 64 = word.toNat
        omega
      · change (word.toNat * 64 + bit.toNat) % 64 = bit.toNat
        omega
    next => cases he
  · intro ⟨hnumber, _, hbit⟩
    rw [toNat_number] at hnumber
    have hin : bit.toNat < 64 ∧ word.toNat * 64 + bit.toNat < 1024 :=
      ⟨hbit ▸ p.bit.isLt, hnumber ▸ p.index.isLt⟩
    rw [ofBit?_eq, dif_pos hin, Option.some.injEq]
    exact Port.ext (Fin.ext hnumber.symm)

theorem ofBit?_word_bit (p : Port) : ofBit? (.ofNat p.word) (.ofNat p.bit) = some p := by
  have hword : (UInt64.ofNat p.word).toNat = p.word :=
    UInt64.toNat_ofNat_of_lt' (Nat.lt_trans p.word.isLt (by decide))
  have hbit : (UInt32.ofNat p.bit).toNat = p.bit :=
    UInt32.toNat_ofNat_of_lt' (Nat.lt_trans p.bit.isLt (by decide))
  rw [ofBit?_eq_some_iff]
  refine ⟨?_, hword.symm, hbit.symm⟩
  rw [hword, hbit, toNat_number]
  exact (Nat.div_add_mod' p.index.val 64).symm

/-- The masks of different ports of a word are disjoint. -/
theorem eq_of_overlaps (hword : p.word = q.word) (hmask : p.mask.overlaps q.mask = true) :
    p = q := by
  rw [mask, mask, Word.overlaps_single, Word.test_single, decide_eq_true_eq] at hmask
  exact ext_bit hword hmask

end Port

namespace SharedPage

/-- The operations on one port in the page work through the port's mask and its word: they read its
bits with the mask, and set or clear the bits of the mask in one of the bitmaps. -/
structure AccessedThroughMask (s : SharedPage) (p : Port) : Prop where
  isMasked : s.isMasked p = s.mask.has Port.words_le_pageWords p
  isPending : s.isPending p = s.pending.has Port.words_le_pageWords p
  mask : PageM.mask p s =
    .ok (s.isMasked p) { s with mask := s.mask.setBits p.pageWord p.mask }
  unmask : PageM.unmask p s =
    .ok (s.isMasked p) { s with mask := s.mask.clearBits p.pageWord p.mask }
  clear : PageM.clear p s =
    .ok (s.isPending p) { s with pending := s.pending.clearBits p.pageWord p.mask }
  raise : ∀ vcpu : Fin 32, ∃ t, PageM.raise p vcpu s = .ok (!s.isPending p) t ∧
    t.pending = s.pending.setBits p.pageWord p.mask ∧ t.mask = s.mask

theorem accessedThroughMask (s : SharedPage) (p : Port) : s.AccessedThroughMask p where
  isMasked := (Bitmap.has_eq _ _ _).symm
  isPending := (Bitmap.has_eq _ _ _).symm
  mask := PageM.mask_run s p
  unmask := PageM.unmask_run s p
  clear := PageM.clear_run s p
  raise vcpu := by
    obtain ⟨raised, t, hrun⟩ := PageM.total_raiseAt vcpu.isLt p.word_lt p.bit s
    obtain ⟨_, hraised, hpending⟩ := PageM.pending_of_raiseAt s hrun
    have hmask : t.mask = s.mask :=
      PageM.retains_raiseAt (fun _ _ _ => rfl) (fun _ _ _ => rfl) _ _ _ s raised t hrun
    exact ⟨t, hraised ▸ hrun, Bitmap.ext_test hpending, hmask⟩

end SharedPage

namespace ActionTable

/-- The operations on one port's private bits work through the port's mask and its word. An item
that is queued already is not flagged again. -/
structure AccessedThroughMask (t : ActionTable) (p : Port) : Prop where
  isOutstanding : t.isOutstanding p = t.outstanding.has (Nat.le_refl 16) p
  isFlagged : t.isFlagged p = t.queued.has (Nat.le_refl 16) p
  setOutstanding : t.setOutstanding p =
    (t.isOutstanding p, { t with outstanding := t.outstanding.setBits p.word p.mask })
  acknowledge : t.acknowledge p =
    (t.isOutstanding p, { t with outstanding := t.outstanding.clearBits p.word p.mask })
  enqueue : t.enqueue p = (!t.isQueued p, { t.setWork p ⟨true⟩ with
    queued := if t.isQueued p then t.queued else t.queued.setBits p.word p.mask })
  cancel : t.cancel p =
    (t.isQueued p, { t.setWork p ⟨false⟩ with queued := t.queued.clearBits p.word p.mask })

theorem accessedThroughMask (t : ActionTable) (p : Port) : t.AccessedThroughMask p where
  isOutstanding := (Bitmap.has_eq _ _ _).symm
  isFlagged := (Bitmap.has_eq _ _ _).symm
  setOutstanding := rfl
  acknowledge := rfl
  enqueue := by
    cases hqueued : (t.slot p).work.queued with
    | true => simp only [enqueue, WorkItem.put, isQueued, hqueued]; rfl
    | false => simp only [enqueue, WorkItem.put, isQueued, hqueued]; rfl
  cancel := rfl

end ActionTable

/-- A word and a bit address the port with their number, without wrapping, if the bit is in the word
and there is such a port, and each port is addressed by its own word and bit. Two ports of one word
have masks without a common bit. So where the bits of a port's mask are set or cleared in the port's
word, as all operations on a port's bits do in the page as in the private bitmaps, the membership of
that port changes and nothing else. -/
theorem ports_are_addressed_exactly (word : UInt64) (bit : UInt32) (p q : Port) (c : Channels) :
    ((∃ r, Port.ofBit? word bit = some r) ↔
      bit.toNat < 64 ∧ word.toNat * 64 + bit.toNat < 1024) ∧
    (∀ r, Port.ofBit? word bit = some r ↔ r.IsAt word bit) ∧
    Port.ofBit? (.ofNat p.word) (.ofNat p.bit) = some p ∧
    (p.word = q.word → p.mask.overlaps q.mask = true → p = q) ∧
    (∀ {n : Nat} (hn : 16 ≤ n) (m : Bitmap n),
      m.ChangedAt hn p true (m.setBits (p.word.castLE hn) p.mask) ∧
      m.ChangedAt hn p false (m.clearBits (p.word.castLE hn) p.mask)) ∧
    c.page.AccessedThroughMask p ∧ c.table.AccessedThroughMask p :=
  ⟨Port.exists_ofBit?_iff, fun _ => Port.ofBit?_eq_some_iff, p.ofBit?_word_bit,
    Port.eq_of_overlaps, fun hn m => ⟨m.changedAt_setBits hn p, m.changedAt_clearBits hn p⟩,
    c.page.accessedThroughMask p, c.table.accessedThroughMask p⟩

/-- The last bit of the last word is the last port's, which the next lower port shares its word with. A
word that is larger by 2 ^ 58 addresses none, although the difference is lost in the shift. -/
theorem ports_are_addressed_exactly_wrapping :
    Port.ofBit? 15 63 = some ⟨1023⟩ ∧
    (288230376151711759 : UInt64) <<< 6 ||| 63 = 1023 ∧
    (¬∃ p, Port.ofBit? 288230376151711759 63 = some p) ∧
    (⟨1022⟩ : Port).word = (⟨1023⟩ : Port).word ∧
    (⟨1022⟩ : Port).mask.overlaps (⟨1023⟩ : Port).mask = false ∧
    16 ≤ 64 ∧ ∃ s, PageM.mask ⟨1023⟩ .zero = .ok false s ∧ s.isMasked ⟨1023⟩ = true ∧
      s.isMasked ⟨1022⟩ = false := by
  let start : Channels := ⟨.zero, .powerOn, { callbackIrq := 5 }, true, false, none⟩
  have hzero (p : Port) : SharedPage.zero.isMasked p = false :=
    (Bitmap.test_replicate _ _ _).trans (Word.test_empty _)
  have hread (s : SharedPage) (p : Port) := (s.accessedThroughMask p).isMasked
  obtain ⟨hlarge, -, -, hdisjoint, -⟩ :=
    ports_are_addressed_exactly 288230376151711759 63 ⟨1022⟩ ⟨1023⟩ start
  obtain ⟨-, -, hlast, -, hchanged, hpage, -⟩ :=
    ports_are_addressed_exactly 15 63 ⟨1023⟩ ⟨1022⟩ start
  refine ⟨hlast, rfl, fun h => absurd (hlarge.1 h) (by decide), rfl, ?_, by decide, ?_⟩
  · rw [← Bool.not_eq_true]
    intro hoverlap
    exact absurd (hdisjoint rfl hoverlap) (by decide)
  · have hmask : PageM.mask ⟨1023⟩ .zero = .ok (SharedPage.zero.isMasked ⟨1023⟩) _ := hpage.mask
    have hmember := (hchanged Port.words_le_pageWords SharedPage.zero.mask).1.has
    rw [hzero] at hmask
    refine ⟨_, hmask, ?_, ?_⟩
    · rw [hread]
      exact (hmember ⟨1023⟩).trans (if_pos rfl)
    · rw [hread, ← hzero ⟨1022⟩, hread]
      exact (hmember ⟨1022⟩).trans (if_neg (by decide))

end EventChannel
