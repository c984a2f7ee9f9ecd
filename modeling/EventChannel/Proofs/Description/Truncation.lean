import EventChannel.Action

namespace EventChannel.Text

section Characters

variable {cs pre : List Char} {n : Nat}

theorem byteLength_append (cs ds : List Char) :
    byteLength (cs ++ ds) = byteLength cs + byteLength ds := by
  induction cs with
  | nil => exact (Nat.zero_add _).symm
  | cons c cs ih => rw [List.cons_append, byteLength_cons, byteLength_cons, ih, Nat.add_assoc]

theorem byteLength_le_of_prefix (h : pre <+: cs) : byteLength pre ≤ byteLength cs := by
  obtain ⟨rest, rfl⟩ := h
  rw [byteLength_append]
  exact Nat.le_add_right _ _

/-- A boundary is where some first characters end. -/
theorem isBoundary_iff : isBoundary cs n = true ↔ ∃ pre, pre <+: cs ∧ byteLength pre = n := by
  induction cs generalizing n with
  | nil =>
    cases n with
    | zero => exact iff_of_true rfl ⟨[], List.prefix_rfl, rfl⟩
    | succ n =>
      refine iff_of_false Bool.false_ne_true ?_
      rintro ⟨pre, hpre, hlength⟩
      rw [List.prefix_nil.1 hpre] at hlength
      cases hlength
  | cons c cs ih =>
    cases n with
    | zero => exact iff_of_true rfl ⟨[], List.nil_prefix, rfl⟩
    | succ n =>
      rw [isBoundary, Bool.and_eq_true, decide_eq_true_iff, ih]
      constructor
      · rintro ⟨hfits, pre, hpre, hlength⟩
        refine ⟨c :: pre, (List.prefix_cons_inj c).2 hpre, ?_⟩
        rw [byteLength_cons, hlength, Nat.add_sub_cancel' hfits]
      · rintro ⟨pre, hpre, hlength⟩
        cases pre with
        | nil => cases hlength
        | cons d pre =>
          obtain ⟨rfl, hrest⟩ := List.cons_prefix_cons.1 hpre
          rw [byteLength_cons] at hlength
          exact ⟨by omega, pre, hrest, by omega⟩

/-- The search for a boundary passes over none. -/
theorem le_floorBoundary {m : Nat} (hm : isBoundary cs m = true) (hle : m ≤ n) :
    m ≤ floorBoundary cs n := by
  induction n with
  | zero => exact hle
  | succ n ih =>
    unfold floorBoundary
    split
    next => exact hle
    next hnot =>
      have hne : m ≠ n + 1 := fun he => hnot (he ▸ hm)
      exact ih (by omega)

/-- First characters that end in time are among those that are taken. -/
theorem prefix_takeBytes (hpre : pre <+: cs) (hle : byteLength pre ≤ n) : pre <+: takeBytes cs n := by
  induction pre generalizing cs n with
  | nil => exact List.nil_prefix
  | cons c pre ih =>
    cases cs with
    | nil => exact absurd (List.prefix_nil.1 hpre) (List.cons_ne_nil c pre)
    | cons d cs =>
      obtain ⟨rfl, hrest⟩ := List.cons_prefix_cons.1 hpre
      rw [byteLength_cons] at hle
      rw [takeBytes, if_pos (by omega)]
      exact (List.prefix_cons_inj c).2 (ih hrest (by omega))

/-- The first character that is not taken would end too late. -/
theorem lt_of_takeBytes_append {c : Char} {rest : List Char} (h : cs = takeBytes cs n ++ c :: rest) :
    n < byteLength (takeBytes cs n) + c.utf8Size := by
  apply Nat.lt_of_not_le
  intro hle
  have hlonger : takeBytes cs n ++ [c] <+: takeBytes cs n := by
    apply prefix_takeBytes
    · exact ⟨rest, by rw [List.append_assoc]; exact h.symm⟩
    · rw [byteLength_append]
      exact hle
  have hlength := hlonger.length_le
  rw [List.length_append] at hlength
  exact Nat.not_succ_le_self _ hlength

theorem takeBytes_of_le (h : byteLength cs ≤ n) : takeBytes cs n = cs := by
  have hprefix := takeBytes_prefix cs n
  exact hprefix.eq_of_length_le (prefix_takeBytes List.prefix_rfl h).length_le

/-- The search ends where the last of the characters ends that are taken. -/
theorem floorBoundary_eq (cs : List Char) (n : Nat) :
    floorBoundary cs n = byteLength (takeBytes cs n) := by
  apply Nat.le_antisymm
  · obtain ⟨pre, hpre, hlength⟩ := isBoundary_iff.1 (isBoundary_floorBoundary cs n)
    rw [← hlength]
    apply byteLength_le_of_prefix
    apply prefix_takeBytes hpre
    rw [hlength]
    exact floorBoundary_le cs n
  · apply le_floorBoundary
    · exact isBoundary_iff.2 ⟨_, takeBytes_prefix cs n, rfl⟩
    · exact byteLength_takeBytes_le cs n

theorem takeBytes_floorBoundary (cs : List Char) (n : Nat) :
    takeBytes cs (floorBoundary cs n) = takeBytes cs n := by
  have hle : byteLength (takeBytes cs (floorBoundary cs n)) ≤ n :=
    Nat.le_trans (byteLength_takeBytes_le cs _) (floorBoundary_le cs n)
  have hshort := takeBytes_prefix cs (floorBoundary cs n)
  have hlong := takeBytes_prefix cs n
  have hlonger := prefix_takeBytes hlong (Nat.le_of_eq (floorBoundary_eq cs n).symm)
  exact (prefix_takeBytes hshort hle).eq_of_length_le hlonger.length_le

end Characters

section Texts

variable {s t u : String} {limit : Nat}

/-- A text begins with another. -/
def Begins (s t : String) : Prop := ∃ rest, s = t ++ rest

theorem begins_iff : Begins s t ↔ t.toList <+: s.toList := by
  constructor
  · rintro ⟨rest, rfl⟩
    exact ⟨rest.toList, String.toList_append.symm⟩
  · rintro ⟨rest, hrest⟩
    refine ⟨.ofList rest, ?_⟩
    rw [← String.toList_inj, String.toList_append, String.toList_ofList, hrest]

/-- The boundaries of a text are the positions between its characters. -/
theorem isBoundary_toList_iff {n : Nat} :
    isBoundary s.toList n = true ↔ String.Pos.Raw.IsValid s ⟨n⟩ := by
  rw [isBoundary_iff, String.Pos.Raw.isValid_iff_exists_append]
  constructor
  · rintro ⟨pre, ⟨rest, hrest⟩, hlength⟩
    refine ⟨.ofList pre, .ofList rest, ?_, ?_⟩
    · rw [← String.ofList_append, hrest, String.ofList_toList]
    · rw [← hlength, ← String.toList_ofList (l := pre), byteLength_toList, String.toList_ofList]
      rfl
  · rintro ⟨t, rest, rfl, hn⟩
    refine ⟨t.toList, begins_iff.1 ⟨rest, rfl⟩, ?_⟩
    rw [byteLength_toList]
    exact (congrArg String.Pos.Raw.byteIdx hn).symm

theorem toList_truncate (limit : Nat) (s : String) :
    (truncate limit s).toList = takeBytes s.toList limit := by
  unfold truncate
  split
  next hfits =>
    rw [takeBytes_of_le]
    rw [byteLength_toList]
    exact hfits
  next => rw [String.toList_ofList, takeBytes_floorBoundary]

/-- A text is the longest beginning of another that has at most so many bytes. -/
structure IsTruncation (limit : Nat) (s t : String) : Prop where
  begins : Begins s t
  boundary : String.Pos.Raw.IsValid s ⟨t.utf8ByteSize⟩
  le : t.utf8ByteSize ≤ limit
  longest : ∀ u, Begins s u → u.utf8ByteSize ≤ limit → Begins t u
  whole : s.utf8ByteSize ≤ limit → t = s
  cut : limit < s.utf8ByteSize → limit ≤ t.utf8ByteSize + 3 ∧
    ∃ c rest, s.toList = t.toList ++ c :: rest ∧ limit < t.utf8ByteSize + c.utf8Size

theorem utf8ByteSize_truncate (limit : Nat) (s : String) :
    (truncate limit s).utf8ByteSize = floorBoundary s.toList limit := by
  rw [← byteLength_toList, toList_truncate, floorBoundary_eq]

theorem isTruncation_truncate (limit : Nat) (s : String) :
    IsTruncation limit s (truncate limit s) where
  begins := by
    rw [begins_iff, toList_truncate]
    exact takeBytes_prefix _ _
  boundary := by
    rw [utf8ByteSize_truncate, ← isBoundary_toList_iff]
    exact isBoundary_floorBoundary _ _
  le := by
    rw [utf8ByteSize_truncate]
    exact floorBoundary_le _ _
  longest u hbegins hle := by
    rw [begins_iff] at hbegins
    rw [begins_iff, toList_truncate]
    rw [← byteLength_toList] at hle
    exact prefix_takeBytes hbegins hle
  whole hfits := if_pos hfits
  cut hlong := by
    have hprefix := takeBytes_prefix s.toList limit
    obtain ⟨rest, hrest⟩ := hprefix
    rw [utf8ByteSize_truncate, floorBoundary_eq, toList_truncate]
    cases rest with
    | nil =>
      -- The whole text is longer than what is taken.
      have hle := byteLength_takeBytes_le s.toList limit
      rw [List.append_nil] at hrest
      rw [hrest, byteLength_toList] at hle
      exact absurd hle (Nat.not_le.2 hlong)
    | cons c rest =>
      have hlate := lt_of_takeBytes_append hrest.symm
      have hsize := c.utf8Size_le_four
      exact ⟨by omega, c, rest, hrest.symm, hlate⟩

/-- The search for the last boundary of a text that is too long takes at most three steps back. -/
theorem floorBoundary_of_long (hlong : limit < s.utf8ByteSize) :
    limit ≤ floorBoundary s.toList limit + 3 ∧
    String.Pos.Raw.IsValid s ⟨floorBoundary s.toList limit⟩ ∧
    ∀ n, floorBoundary s.toList limit < n → n ≤ limit → ¬String.Pos.Raw.IsValid s ⟨n⟩ := by
  have htruncated := isTruncation_truncate limit s
  refine ⟨?_, ?_, fun n hlater hle hvalid => ?_⟩
  · rw [← utf8ByteSize_truncate]
    exact (htruncated.cut hlong).1
  · rw [← utf8ByteSize_truncate]
    exact htruncated.boundary
  · exact Nat.not_le.2 hlater (le_floorBoundary (isBoundary_toList_iff.2 hvalid) hle)

/-- What has been cut fits. -/
theorem truncate_truncate (limit : Nat) (s : String) :
    truncate limit (truncate limit s) = truncate limit s :=
  (isTruncation_truncate limit _).whole (isTruncation_truncate limit s).le

end Texts

end EventChannel.Text
