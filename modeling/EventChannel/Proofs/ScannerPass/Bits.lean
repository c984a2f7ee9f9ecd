import EventChannel.Proofs.SharedPage
import EventChannel.Proofs.Word
import Mathlib.Data.List.Sort

namespace EventChannel

namespace Port

theorem at?_eq_some_iff {w b : Fin 64} {p : Port} :
    at? w b = some p ↔ p.pageWord = w ∧ p.bit = b := by
  have hval : p.pageWord.val = p.index.val / 64 ∧ p.bit.val = p.index.val % 64 := ⟨rfl, rfl⟩
  rw [at?_eq, Fin.ext_iff, Fin.ext_iff, hval.1, hval.2]
  split
  next hlt =>
    rw [Option.some.injEq, Port.ext_iff, Fin.ext_iff]
    dsimp only
    omega
  next hge =>
    have hlt := p.index.isLt
    constructor
    · intro he
      cases he
    · intro ⟨hword, hbit⟩
      exact absurd (by omega) hge

theorem index_of_at? {w b : Fin 64} {p : Port} (h : at? w b = some p) :
    p.index.val = w.val * 64 + b.val := by
  rw [at?_eq] at h
  split at h
  · cases h
    rfl
  · cases h

/-- The ports that bits belong to; some bits belong to none. -/
def ofBits (bits : List (Fin 64 × Fin 64)) : List Port := bits.filterMap fun x => at? x.1 x.2

theorem mem_ofBits {bits : List (Fin 64 × Fin 64)} {p : Port} :
    p ∈ ofBits bits ↔ (p.pageWord, p.bit) ∈ bits := by
  rw [ofBits, List.mem_filterMap]
  constructor
  · intro ⟨⟨w, b⟩, hmem, hp⟩
    obtain ⟨rfl, rfl⟩ := at?_eq_some_iff.1 hp
    exact hmem
  · intro hmem
    exact ⟨_, hmem, at?_eq_some_iff.2 ⟨rfl, rfl⟩⟩

theorem ofBits_append (bits : List (Fin 64 × Fin 64)) (w b : Fin 64) :
    ofBits (bits ++ [(w, b)]) = ofBits bits ++ (at? w b).toList := by
  rw [ofBits, List.filterMap_append]
  cases h : at? w b <;> simp [h, ofBits]

/-- Ports in increasing order are known by what they have in common. -/
theorem eq_filter_all {ports : List Port} {f : Port → Bool}
    (hsorted : ports.Pairwise fun p q => p.index < q.index) (hmem : ∀ p, p ∈ ports ↔ f p = true) :
    ports = all.filter f := by
  let before (p q : Port) : Prop := p.index < q.index
  have hirrefl : Std.Irrefl before := ⟨fun p => Nat.lt_irrefl p.index.val⟩
  have hantisymm : Std.Antisymm before := ⟨fun _ _ hpq hqp => absurd hqp (Nat.lt_asymm hpq)⟩
  have hall : (all.filter f).Pairwise before := by
    apply List.Pairwise.filter
    rw [all, List.pairwise_map]
    exact List.pairwise_lt_finRange 1024
  apply List.Pairwise.eq_of_mem_iff (r := before) hsorted hall
  intro p
  rw [hmem, List.mem_filter]
  exact ⟨fun hp => ⟨p.mem_all, hp⟩, fun hp => hp.2⟩

end Port

namespace SharedPage

variable (s : SharedPage)

/-- Whether a pass on a processor services a bit: its word is flagged in the selector, and it is
pending and not masked. -/
def isDue (v : Fin 32) (w b : Fin 64) : Bool :=
  (s.vcpu v).selector.test w && (s.pending.test w b && !s.mask.test w b)

/-- The ports that a pass on a processor dispatches to. -/
def duePorts (v : Fin 32) : List Port := Port.all.filter fun p => s.isDue v p.pageWord p.bit

/-- The bits that a pass on a processor services, word by word and lowest first. -/
def dueBits (v : Fin 32) : List (Fin 64 × Fin 64) :=
  (s.vcpu v).selector.toList.flatMap fun w => (s.ready w).toList.map fun b => (w, b)

/-- The page as a pass begins to service its words. -/
def drained (v : Fin 32) : SharedPage := (s.modifyVcpu v .clearUpcall).modifyVcpu v .clearSelector

theorem vcpu_drained (v i : Fin 32) :
    (s.drained v).vcpu i = if v = i then (s.vcpu i).reset else s.vcpu i := by
  rw [drained]
  split
  next he =>
    subst he
    rw [vcpu_modifyVcpu_self, vcpu_modifyVcpu_self]
    rfl
  next hne => rw [vcpu_modifyVcpu_of_ne _ _ hne, vcpu_modifyVcpu_of_ne _ _ hne]

/-- Clears pending bits in turn. -/
def clearEach (bits : List (Fin 64 × Fin 64)) : SharedPage :=
  bits.foldl (fun s x => s.clearPending x.1 x.2) s

theorem mem_dueBits {v : Fin 32} {w b : Fin 64} : (w, b) ∈ s.dueBits v ↔ s.isDue v w b = true := by
  rw [dueBits, List.mem_flatMap, isDue, Bool.and_eq_true, ← test_ready]
  constructor
  · intro ⟨w', hword, hbit⟩
    obtain ⟨b', hbit, he⟩ := List.mem_map.1 hbit
    cases he
    exact ⟨Word.mem_toList.1 hword, Word.mem_toList.1 hbit⟩
  · intro ⟨hword, hbit⟩
    exact ⟨w, Word.mem_toList.2 hword, List.mem_map.2 ⟨b, Word.mem_toList.2 hbit, rfl⟩⟩

theorem pairwise_dueBits (v : Fin 32) : (s.dueBits v).Pairwise fun x y =>
    x.1.val * 64 + x.2.val < y.1.val * 64 + y.2.val := by
  have hlist (w : Word) : w.toList.Pairwise (· < ·) := (List.pairwise_lt_finRange 64).filter _
  rw [dueBits, List.pairwise_flatMap]
  constructor
  · intro w _
    rw [List.pairwise_map]
    exact (hlist _).imp fun hlt => Nat.add_lt_add_left hlt _
  · apply (hlist _).imp
    intro w w' hlt x hx y hy
    obtain ⟨b, -, rfl⟩ := List.mem_map.1 hx
    obtain ⟨b', -, rfl⟩ := List.mem_map.1 hy
    have hval : w.val < w'.val := hlt
    have hbit := b.isLt
    dsimp only
    omega

/-- Going through the bits word by word comes to the ports in their order. -/
theorem ofBits_dueBits (v : Fin 32) : Port.ofBits (s.dueBits v) = s.duePorts v := by
  rw [duePorts]
  apply Port.eq_filter_all
  · rw [Port.ofBits, List.pairwise_filterMap]
    apply (s.pairwise_dueBits v).imp
    intro x y hlt p hp q hq
    change p.index.val < q.index.val
    rw [Port.index_of_at? hp, Port.index_of_at? hq]
    exact hlt
  · intro p
    rw [Port.mem_ofBits, mem_dueBits]

theorem clearEach_append (bits : List (Fin 64 × Fin 64)) (w b : Fin 64) :
    s.clearEach (bits ++ [(w, b)]) = (s.clearEach bits).clearPending w b := by
  rw [clearEach, List.foldl_append]
  rfl

theorem test_pending_clearEach (bits : List (Fin 64 × Fin 64)) (w b : Fin 64) :
    (s.clearEach bits).pending.test w b = (s.pending.test w b && !bits.contains (w, b)) := by
  induction bits generalizing s with
  | nil => rw [List.contains_nil, Bool.not_false, Bool.and_true]; rfl
  | cons x bits ih =>
    have htail : s.clearEach (x :: bits) = (s.clearPending x.1 x.2).clearEach bits := rfl
    have hclear : (s.clearPending x.1 x.2).pending = s.pending.erase x.1 x.2 := rfl
    rw [htail, ih, hclear, Bitmap.test_erase, List.contains_cons, Bool.beq_eq_decide_eq, Bool.not_or]
    have hpair : decide (x.1 = w ∧ x.2 = b) = decide ((w, b) = x) := by
      rw [decide_eq_decide, Prod.ext_iff]
      exact and_congr eq_comm eq_comm
    rw [hpair, Bool.and_comm (!_), Bool.and_assoc]

/-- Nothing but pending bits is cleared. -/
theorem clearEach_eq (bits : List (Fin 64 × Fin 64)) :
    s.clearEach bits = { s with pending := (s.clearEach bits).pending } := by
  induction bits generalizing s with
  | nil => rfl
  | cons x bits ih => exact ih (s.clearPending x.1 x.2)

theorem test_ready_clearEach (bits : List (Fin 64 × Fin 64)) (w b : Fin 64) :
    ((s.clearEach bits).ready w).test b = ((s.ready w).test b && !bits.contains (w, b)) := by
  have hmask : (s.clearEach bits).mask = s.mask := by rw [clearEach_eq]
  rw [test_ready, test_ready, hmask, test_pending_clearEach, Bool.and_right_comm]

/-- Clearing the lowest ready bit of a word leaves the others ready. -/
theorem toList_ready_clearEach {bits : List (Fin 64 × Fin 64)} {w b : Fin 64}
    (h : ((s.clearEach bits).ready w).lowest? = some b) :
    ((s.clearEach bits).ready w).toList =
      b :: ((s.clearEach (bits ++ [(w, b)])).ready w).toList := by
  apply Word.toList_eq_cons h
  intro a
  have hpair : ((w, a) == (w, b)) = decide (a = b) := by
    rw [Bool.beq_eq_decide_eq, decide_eq_decide, Prod.mk.injEq, eq_self, true_and]
  rw [test_ready_clearEach, test_ready_clearEach, List.contains_append, List.contains_cons,
    List.contains_nil, Bool.or_false, hpair, Bool.not_or, Bool.and_assoc, decide_not]

end SharedPage

end EventChannel
