import EventChannel.Proofs.ScannerPass.Bits
import EventChannel.Proofs.ScannerPass.Dispatch
import Mathlib.Data.Fintype.Card
import Mathlib.Data.Fintype.Prod

namespace EventChannel

namespace SharedPage

/-- Whatever is ready in a word has been taken. -/
def Exhausted (page : SharedPage) (taken : List (Fin 64 × Fin 64)) (word : Fin 64) : Prop :=
  ∀ bit, (page.ready word).test bit = true → (word, bit) ∈ taken

/-- A pass over the words of a selector that has taken certain bits may take another one. -/
structure Takes (page : SharedPage) (selector : Word) (taken : List (Fin 64 × Fin 64))
    (word bit : Fin 64) : Prop where
  flagged : selector.test word = true
  pending : page.pending.test word bit = true
  unmasked : page.mask.test word bit = false
  fresh : (word, bit) ∉ taken
  ordered : ∀ x ∈ taken, x.1 ≤ word
  /-- The words that the pass has left since it took a bit are exhausted. -/
  left : ∀ w < word, selector.test w = true → (∀ x ∈ taken, x.1 ≤ w) → page.Exhausted taken w

end SharedPage

/-- What a pass that services a word, and has serviced some bits of it, has behind it. -/
structure InWord (selector : Word) (word : Fin 64) (serviced : Word)
    (bits : List (Fin 64 × Fin 64)) (page : SharedPage) : Prop where
  serviced : ∀ b, serviced.test b = true ↔ (word, b) ∈ bits
  ordered : ∀ x ∈ bits, x.1 ≤ word
  left : ∀ w < word, selector.test w = true → (∀ x ∈ bits, x.1 ≤ w) → page.Exhausted bits w

/-- What a pass that has some words still before it has behind it. -/
structure Between (selector : Word) (rest : List (Fin 64)) (bits : List (Fin 64 × Fin 64))
    (page : SharedPage) : Prop where
  suffix : rest <:+ selector.toList
  ordered : ∀ x ∈ bits, ∀ w ∈ rest, x.1 < w
  left : ∀ w, selector.test w = true → w ∉ rest → (∀ x ∈ bits, x.1 ≤ w) → page.Exhausted bits w

section Positions

variable {selector serviced : Word} {word bit : Fin 64} {rest : List (Fin 64)}
  {bits : List (Fin 64 × Fin 64)} {page late : SharedPage}

theorem Between.start : Between selector selector.toList [] page := by
  constructor
  · exact List.suffix_refl _
  · exact fun _ hx => absurd hx List.not_mem_nil
  · exact fun w hw hnot => absurd (Word.mem_toList.2 hw) hnot

theorem Between.inWord (h : Between selector (word :: rest) bits page) :
    InWord selector word .empty bits page := by
  obtain ⟨-, hrest, -⟩ := Word.of_suffix h.suffix
  have hlt (x : Fin 64 × Fin 64) (hx : x ∈ bits) : x.1 < word :=
    h.ordered x hx word List.mem_cons_self
  constructor
  · intro b
    rw [Word.test_empty]
    exact ⟨fun he => absurd he Bool.false_ne_true, fun hb => absurd (hlt _ hb) (lt_irrefl word)⟩
  · exact fun x hx => le_of_lt (hlt x hx)
  · intro w hw hflagged
    apply h.left w hflagged
    rw [List.mem_cons, not_or]
    exact ⟨ne_of_lt hw, fun hmem => lt_asymm hw (hrest w hmem)⟩

theorem InWord.takes (h : InWord selector word serviced bits page)
    (hflagged : selector.test word = true) (hready : (page.ready word).test bit = true)
    (hfresh : serviced.test bit = false) : page.Takes selector bits word bit := by
  rw [SharedPage.test_ready, Bool.and_eq_true, Bool.not_eq_true'] at hready
  constructor
  · exact hflagged
  · exact hready.1
  · exact hready.2
  · rw [← h.serviced, hfresh]
    exact Bool.false_ne_true
  · exact h.ordered
  · exact h.left

/-- Once a bit of a word is taken, the words before it have been left for good, whatever becomes
ready there. -/
theorem InWord.insert (h : InWord selector word serviced bits page) :
    InWord selector word (serviced.insert bit) (bits ++ [(word, bit)]) late := by
  constructor
  · intro b
    rw [Word.test_insert, Bool.or_eq_true, decide_eq_true_eq, h.serviced, List.mem_append,
      List.mem_singleton, Prod.mk.injEq, or_comm]
    exact or_congr_right ⟨fun he => ⟨rfl, he.symm⟩, fun he => he.2.symm⟩
  · intro x hx
    rcases List.mem_append.1 hx with hx | hx
    · exact h.ordered x hx
    · rw [List.mem_singleton.1 hx]
  · intro w hw _ hle
    exact absurd (hle (word, bit) (List.mem_append_right _ List.mem_cons_self)) (not_le_of_gt hw)

theorem InWord.between (h : InWord selector word serviced bits page)
    (hsuffix : word :: rest <:+ selector.toList)
    (hdone : ∀ b, (page.ready word).test b = true → serviced.test b = true) :
    Between selector rest bits page := by
  obtain ⟨-, hrest, hbefore⟩ := Word.of_suffix hsuffix
  constructor
  · exact (List.suffix_cons word rest).trans hsuffix
  · exact fun x hx w hw => lt_of_le_of_lt (h.ordered x hx) (hrest w hw)
  · intro w hflagged hnot hle
    by_cases he : w = word
    · subst he
      exact fun b hb => (h.serviced b).1 (hdone b hb)
    · apply h.left w (hbefore w hflagged _) hflagged hle
      rw [List.mem_cons, not_or]
      exact ⟨he, hnot⟩

end Positions

namespace History

/-- The page as it was at the latest entry, or at the start. -/
def latestPage (start : SharedPage) : History → SharedPage
  | [] => start
  | entry :: _ => entry.state.page

/-- The bits that scanner passes took, the earliest first. -/
def taken : History → List (Fin 64 × Fin 64)
  | [] => []
  | .saw _ (.consumed word bit) _ :: before => taken before ++ [(word, bit)]
  | _ :: before => taken before

/-- The kinds under which scanner passes dispatched events, the earliest first. -/
def dispatchedKinds : History → List Kind
  | [] => []
  | .saw _ (.noticed (.delivering _ kind _)) _ :: before => dispatchedKinds before ++ [kind]
  | _ :: before => dispatchedKinds before

theorem dispatchedKinds_saw {e : Event} (h : e.isDispatch = false) (depth : Nat) (state : Channels)
    (before : History) :
    dispatchedKinds (.saw depth e state :: before) = before.dispatchedKinds := by
  unfold Event.isDispatch at h
  split at h
  · cases h
  next hne =>
    rw [dispatchedKinds]
    intro depth' port kind deliveries state' he
    cases he
    exact hne _ _ _ rfl

/-- The latest entry is a call that has not been answered. -/
def Unanswered : History → Prop
  | .called .. :: _ => True
  | _ => False

end History

/-- What an event in a pass owes to the page that it finds and to what the pass has done before. A
pass clears the bits that it takes and leaves the rest of the page to the calls that it makes. -/
def Event.IsPassStep (selector : Word) (page : SharedPage) (before : History) (state : Channels) :
    Event → Prop
  | .consumed word bit =>
    page.Takes selector before.taken word bit ∧ state.page = page.clearPending word bit
  | .noticed (.delivering port kind _) =>
    state.page = page ∧ before.taken.getLast? = some (port.pageWord, port.bit) ∧
      kind = state.table.kind port ∧ page.isPending port = false
  | .workQueued port _ =>
    state.page = page ∧ (before.dispatched.getLast? = some port → page.isPending port = false)
  | _ => state.page = page

/-- A pass calls the handler of the port that it dispatched to last, and requests deferred runs. -/
def Request.IsPassStep (page : SharedPage) (before : History) : Request → Prop
  | .handle context _ port =>
    context = .inline ∧ before.dispatched.getLast? = some port ∧ page.isPending port = false
  | .queueDeferred => True
  | .hypercall _ | .setParam _ _ | .connect _ | .disconnect _ | .flushDeferred => False

/-- What an entry of a pass over the words of a selector owes to the entries that the pass made before. -/
def Entry.IsPassStep (selector : Word) (start : SharedPage) : Entry → History → Prop
  | .saw _ event state, before =>
    event.IsPassStep selector (before.latestPage start) before state
  | .called _ r state, before =>
    state.page = before.latestPage start ∧ r.IsPassStep (before.latestPage start) before
  | .answered .., _ => True
  | .began .., _ | .ended .., _ => False

/-- The entries of a pass over the words of a selector, which finds a page. -/
structure History.TellsPass (selector : Word) (start : SharedPage) (own : History) : Prop where
  steps : own.Always (Entry.IsPassStep selector start)
  once : own.taken.Nodup
  ordered : own.taken.Pairwise fun x y => x.1 ≤ y.1
  perWord : ∀ word, (own.taken.filter fun x => x.1 = word).length ≤
    if selector.test word then 64 else 0
  total : own.taken.length ≤ 4096
  dispatched : own.dispatched = Port.ofBits own.taken
  dispatchedOnce : own.dispatched.Nodup

section Bounds

variable {bits : List (Fin 64 × Fin 64)}

theorem Port.nodup_ofBits (h : bits.Nodup) : (Port.ofBits bits).Nodup := by
  apply h.filterMap
  rintro ⟨w, b⟩ ⟨w', b'⟩ port hport hport'
  obtain ⟨rfl, rfl⟩ := Port.at?_eq_some_iff.1 hport
  obtain ⟨rfl, rfl⟩ := Port.at?_eq_some_iff.1 hport'
  rfl

theorem length_bits_le (h : bits.Nodup) : bits.length ≤ 4096 := by
  have hcard : Fintype.card (Fin 64 × Fin 64) = 4096 := by
    rw [Fintype.card_prod, Fintype.card_fin]
  exact hcard ▸ h.length_le_card

theorem length_bits_of_word_le (h : bits.Nodup) (word : Fin 64) :
    (bits.filter fun x => x.1 = word).length ≤ 64 := by
  have hnodup : ((bits.filter fun x => x.1 = word).map Prod.snd).Nodup := by
    apply (h.filter _).map_on
    rintro ⟨w, b⟩ hx ⟨w', b'⟩ hy rfl
    obtain rfl : w = word := of_decide_eq_true (List.mem_filter.1 hx).2
    obtain rfl : w' = w := of_decide_eq_true (List.mem_filter.1 hy).2
    rfl
  simpa only [List.length_map, Fintype.card_fin] using hnodup.length_le_card

end Bounds

namespace History

variable {selector : Word} {start : SharedPage} {own : History}

/-- A bit that is taken differs from all that were taken before, and its word is no lower. -/
theorem Always.pairwise_taken (h : own.Always (Entry.IsPassStep selector start)) :
    own.taken.Pairwise fun x y => x ≠ y ∧ x.1 ≤ y.1 := by
  fun_induction taken own with
  | case1 => exact .nil
  | case2 before depth word bit state ih =>
    cases h with
    | cons latest earlier =>
      have htakes := latest.1
      refine List.pairwise_append.2 ⟨ih earlier, List.pairwise_singleton _ _, ?_⟩
      intro x hx y hy
      obtain rfl := List.mem_singleton.1 hy
      exact ⟨fun he => htakes.fresh (he ▸ hx), htakes.ordered x hx⟩
  | case3 entry before hne ih =>
    cases h with
    | cons latest earlier => exact ih earlier

theorem Always.flagged_taken (h : own.Always (Entry.IsPassStep selector start)) :
    ∀ x ∈ own.taken, selector.test x.1 = true := by
  fun_induction taken own with
  | case1 => exact fun _ hx => absurd hx List.not_mem_nil
  | case2 before depth word bit state ih =>
    cases h with
    | cons latest earlier =>
      intro x hx
      rcases List.mem_append.1 hx with hx | hx
      · exact ih earlier x hx
      · obtain rfl := List.mem_singleton.1 hx
        exact latest.1.flagged
  | case3 entry before hne ih =>
    cases h with
    | cons latest earlier => exact ih earlier

/-- What bounds a pass follows from what each of its entries owes to those before. -/
theorem tellsPass_of_steps (h : own.Always (Entry.IsPassStep selector start))
    (hdispatched : own.dispatched = Port.ofBits own.taken) : own.TellsPass selector start := by
  have honce : own.taken.Nodup := h.pairwise_taken.imp fun hxy => hxy.1
  constructor
  · exact h
  · exact honce
  · exact h.pairwise_taken.imp fun hxy => hxy.2
  · intro word
    split
    · exact length_bits_of_word_le honce word
    next hword =>
      have hnone : (own.taken.filter fun x => x.1 = word) = [] := by
        apply List.filter_eq_nil_iff.2
        intro x hx he
        obtain rfl := of_decide_eq_true he
        exact hword (h.flagged_taken x hx)
      exact Nat.le_of_eq (congrArg List.length hnone)
  · exact length_bits_le honce
  · exact hdispatched
  · rw [hdispatched]
    exact Port.nodup_ofBits honce

end History

end EventChannel
