import EventChannel.Word

namespace EventChannel.Word

theorem test_of_lt_trailingZeros {w : Word} {b : Fin 64} (h : b.val < w.trailingZeros) :
    w.test b = false := by
  rw [test, ← BitVec.getLsbD_eq_getElem]
  exact BitVec.getLsbD_false_of_lt_ctz h

theorem lowest?_eq {w : Word} (h : w.trailingZeros < 64) :
    w.lowest? = some ⟨w.trailingZeros, h⟩ := by
  rw [lowest?, List.find?_eq_some_iff_getElem]
  refine ⟨test_trailingZeros h, w.trailingZeros, by simpa using h, ?_, ?_⟩
  · simp only [List.getElem_finRange, Fin.cast_mk]
  · intro j hj
    simp only [List.getElem_finRange, Fin.cast_mk, Bool.not_eq_true']
    exact test_of_lt_trailingZeros hj

theorem eq_empty_iff {w : Word} : w = empty ↔ w.lowest? = none := by
  rw [lowest?_eq_none_iff]
  constructor
  · rintro rfl b
    exact test_empty b
  · intro h
    apply ext_test
    intro b
    rw [h b, test_empty]

theorem lowest?_eq_head? (w : Word) : w.lowest? = w.toList.head? := List.head?_filter.symm

theorem toList_empty : empty.toList = [] := by
  rw [List.eq_nil_iff_forall_not_mem]
  intro b hb
  rw [mem_toList, test_empty] at hb
  cases hb

/-- Below the lowest bit the subtraction borrows, above it nothing changes. -/
theorem testBit_and_pred {x k : Nat} (hk : x.testBit k = true)
    (hbelow : ∀ i < k, x.testBit i = false) (i : Nat) :
    (x &&& (x - 1)).testBit i = (x.testBit i && decide (i ≠ k)) := by
  have hmod : x % 2 ^ k = 0 := by
    apply Nat.eq_of_testBit_eq
    intro i
    rw [Nat.testBit_mod_two_pow, Nat.zero_testBit]
    by_cases hi : i < k
    · rw [hbelow i hi, Bool.and_false]
    · rw [decide_eq_false hi, Bool.false_and]
  have hodd : x / 2 ^ k % 2 = 1 := by
    rw [Nat.testBit_eq_decide_div_mod_eq, decide_eq_true_eq] at hk
    exact hk
  obtain ⟨m, hm⟩ : ∃ m, x / 2 ^ k = 2 * m + 1 := ⟨x / 2 ^ k / 2, by omega⟩
  have hpos : 0 < 2 ^ k := Nat.two_pow_pos k
  have hx : x = 2 ^ k * (2 * m + 1) := by
    rw [← hm]
    exact (Nat.mul_div_cancel' (Nat.dvd_of_mod_eq_zero hmod)).symm
  have hpred : x - 1 = 2 ^ k * (2 * m) + (2 ^ k - 1) := by
    rw [hx, Nat.mul_add, Nat.mul_one]
    omega
  have hlast : 2 ^ k - 1 < 2 ^ k := Nat.sub_lt hpos Nat.one_pos
  rw [Nat.testBit_and]
  by_cases hlt : i < k
  · rw [hbelow i hlt, Bool.false_and, Bool.false_and]
  · rw [hpred, Nat.testBit_two_pow_mul_add _ hlast, if_neg hlt, hx, Nat.testBit_two_pow_mul]
    by_cases hik : i = k
    · subst hik
      simp
    · have hge : k ≤ i := Nat.le_of_not_lt hlt
      obtain ⟨j, hj⟩ : ∃ j, i - k = j + 1 := ⟨i - k - 1, by omega⟩
      have heven : 2 * m / 2 = m := by omega
      have hodd : (2 * m + 1) / 2 = m := by omega
      rw [hj, Nat.testBit_succ, Nat.testBit_succ, heven, hodd, decide_eq_true hge,
        decide_eq_true hik, Bool.true_and, Bool.and_true, Bool.and_self]

/-- The subtraction fails for the empty word only, and takes the lowest bit away from the others. -/
theorem exists_dropLowest? {w : Word} (h : w.trailingZeros < 64) :
    ∃ rest, w.dropLowest? = some rest ∧
      ∀ b, rest.test b = (w.test b && decide (b ≠ ⟨w.trailingZeros, h⟩)) := by
  have hne : w.bits ≠ 0#64 := bits_ne_zero h
  have hpos : 0 < w.bits.toNat := Nat.pos_of_ne_zero fun he => hne (BitVec.eq_of_toNat_eq he)
  have hone : 1#64 ≤ w.bits := BitVec.le_def.2 hpos
  have hpred : (w.bits - 1#64).toNat = w.bits.toNat - 1 := BitVec.toNat_sub_of_le hone
  refine ⟨⟨w.bits &&& (w.bits - 1#64)⟩, if_pos hone, fun b => ?_⟩
  have hk : w.bits.toNat.testBit w.trailingZeros = true := BitVec.getLsbD_true_ctz_of_ne_zero hne
  have hbelow (i : Nat) (hi : i < w.trailingZeros) : w.bits.toNat.testBit i = false :=
    BitVec.getLsbD_false_of_lt_ctz hi
  have hbit := testBit_and_pred hk hbelow b.val
  have hval : decide (b.val ≠ w.trailingZeros) = decide (b ≠ ⟨w.trailingZeros, h⟩) := by
    rw [decide_eq_decide, ne_eq, ne_eq, Fin.ext_iff]
  rw [← hpred, ← BitVec.toNat_and, hval] at hbit
  simp only [test, ← BitVec.getLsbD_eq_getElem]
  exact hbit

/-- The bit numbers of a word are its lowest and those of what is left without it. -/
theorem toList_eq_cons {w rest : Word} {b : Fin 64} (hlowest : w.lowest? = some b)
    (hrest : ∀ a, rest.test a = (w.test a && decide (a ≠ b))) : w.toList = b :: rest.toList := by
  obtain ⟨hb, before, after, hsplit, hbefore⟩ := List.find?_eq_some_iff_append.1 hlowest
  have hnodup : (before ++ b :: after).Nodup := hsplit ▸ List.nodup_finRange 64
  have hafter : ∀ a ∈ after, a ≠ b := by
    intro a ha he
    subst he
    exact (List.nodup_cons.1 (List.nodup_append.1 hnodup).2.1).1 ha
  have hnone (p : Fin 64 → Bool) (hp : ∀ a ∈ before, p a = false) : before.filter p = [] :=
    List.filter_eq_nil_iff.2 fun a ha => by rw [hp a ha]; exact Bool.false_ne_true
  have hbefore' : ∀ a ∈ before, w.test a = false := by
    intro a ha
    rw [← Bool.not_eq_true']
    exact hbefore a ha
  have hw : before.filter w.test = [] := hnone _ hbefore'
  have hr : before.filter rest.test = [] := hnone _ fun a ha => by
    rw [hrest, hbefore' a ha, Bool.false_and]
  have hself : ¬rest.test b = true := by
    rw [hrest, decide_eq_false fun hne => hne rfl, Bool.and_false]
    exact Bool.false_ne_true
  have hsame : after.filter rest.test = after.filter w.test := by
    apply List.filter_congr
    intro a ha
    rw [hrest, decide_eq_true (hafter a ha), Bool.and_true]
  rw [toList, toList, hsplit, List.filter_append, List.filter_append, hw, hr, List.nil_append,
    List.nil_append, List.filter_cons_of_pos hb, List.filter_cons_of_neg hself, hsame]

/-- A loop over a word that takes its lowest bit away each time ends with the empty word, and goes
through the bit numbers of the word in order. -/
theorem dropLowest_induction {motive : Word → Prop} (empty : motive .empty)
    (drop : ∀ (w rest : Word) (h : w.trailingZeros < 64), w ≠ .empty → w.dropLowest? = some rest →
      w.toList = ⟨w.trailingZeros, h⟩ :: rest.toList → motive rest → motive w) (w : Word) :
    motive w := by
  induction hn : w.bits.toNat using Nat.strongRecOn generalizing w with
  | _ n ih =>
    by_cases hempty : w = .empty
    · rw [hempty]
      exact empty
    · have hlt := trailingZeros_lt hempty
      obtain ⟨rest, hrest, htest⟩ := exists_dropLowest? hlt
      have hless := toNat_dropLowest?_lt hrest
      exact drop w rest hlt hempty hrest (toList_eq_cons (lowest?_eq hlt) htest)
        (ih _ (hn ▸ hless) rest rfl)

/-- The words at the end of the list, the first of them and the others, are those that come last. -/
theorem of_suffix {w : Word} {b : Fin 64} {rest : List (Fin 64)} (h : b :: rest <:+ w.toList) :
    w.test b = true ∧ (∀ a ∈ rest, b < a) ∧
      ∀ a, w.test a = true → a ∉ b :: rest → a < b := by
  obtain ⟨before, hsplit⟩ := h
  have hsorted : (before ++ b :: rest).Pairwise (· < ·) := by
    rw [hsplit]
    exact (List.pairwise_lt_finRange 64).filter _
  obtain ⟨-, hrest, hcross⟩ := List.pairwise_append.1 hsorted
  refine ⟨?_, (List.pairwise_cons.1 hrest).1, ?_⟩
  · rw [← mem_toList, ← hsplit]
    exact List.mem_append_right _ List.mem_cons_self
  · intro a ha hnot
    rw [← mem_toList, ← hsplit] at ha
    exact hcross a ((List.mem_append.1 ha).resolve_right hnot) b List.mem_cons_self

end EventChannel.Word
