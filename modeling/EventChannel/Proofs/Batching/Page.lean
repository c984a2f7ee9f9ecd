import EventChannel.Proofs.Arrival
import EventChannel.Proofs.ScannerPass.Bits

namespace EventChannel

namespace VcpuSlot

theorem reset_reset (slot : VcpuSlot) : slot.reset.reset = slot.reset := rfl

theorem reset_alertAmong (alerted : List (Fin 32)) (i : Fin 32) (w : Fin 64) (slot : VcpuSlot) :
    (slot.alertAmong alerted i w).reset = slot.reset := by
  unfold alertAmong alert
  split
  · split <;> rfl
  · rfl

end VcpuSlot

/-- The delivery of an event on the port. -/
def Port.event (p : Port) : Arrival := .delivery p.pageWord p.bit

namespace SharedPage

variable (v : Fin 32) (s : SharedPage) {ports : List Port}

/-- The page after events on ports have been delivered in turn. -/
def raiseEach (ports : List Port) : SharedPage := (ports.map Port.event).foldl (arrive v) s

/-- The page after a pass on a processor. -/
def caughtUp : SharedPage := (s.drained v).clearEach (s.dueBits v)

theorem test_pending_caughtUp (w b : Fin 64) :
    (s.caughtUp v).pending.test w b = (s.pending.test w b && !s.isDue v w b) := by
  have hdue : (s.dueBits v).contains (w, b) = s.isDue v w b := by
    rw [Bool.eq_iff_iff, List.contains_iff_mem, mem_dueBits]
  rw [caughtUp, test_pending_clearEach, hdue]
  rfl

theorem mask_caughtUp : (s.caughtUp v).mask = s.mask := by
  rw [caughtUp, clearEach_eq]
  rfl

theorem reserved_caughtUp : (s.caughtUp v).reserved = s.reserved := by
  rw [caughtUp, clearEach_eq]
  rfl

theorem vcpu_caughtUp (i : Fin 32) :
    (s.caughtUp v).vcpu i = if v = i then (s.vcpu i).reset else s.vcpu i := by
  rw [← vcpu_drained, caughtUp, clearEach_eq]
  rfl

theorem test_pending_raiseEach (ports : List Port) (w b : Fin 64) :
    (s.raiseEach v ports).pending.test w b =
      (s.pending.test w b || ports.any fun p => p.event.delivers w b) := by
  induction ports generalizing s with
  | nil => exact (Bool.or_false _).symm
  | cons p ports ih =>
    have hcons : s.raiseEach v (p :: ports) = (s.arrive v p.event).raiseEach v ports := rfl
    rw [hcons, ih, test_pending_arrive, List.any_cons]
    ac_rfl

theorem mask_raiseEach (ports : List Port) : (s.raiseEach v ports).mask = s.mask := by
  induction ports generalizing s with
  | nil => rfl
  | cons p ports ih => exact (ih (s.arrive v p.event)).trans (mask_arrive v s p.event)

theorem reserved_raiseEach (ports : List Port) : (s.raiseEach v ports).reserved = s.reserved := by
  induction ports generalizing s with
  | nil => rfl
  | cons p ports ih => exact (ih (s.arrive v p.event)).trans (reserved_arrive v s p.event)

theorem vcpu_raiseEach_of_ne {i : Fin 32} (h : v ≠ i) (ports : List Port) :
    (s.raiseEach v ports).vcpu i = s.vcpu i := by
  induction ports generalizing s with
  | nil => rfl
  | cons p ports ih =>
    apply (ih (s.arrive v p.event)).trans
    rw [vcpu_arrive]
    split
    · exact if_neg fun hi => h (List.mem_singleton.1 hi).symm
    · exact if_neg List.not_mem_nil

/-- Deliveries leave no trace in a processor's slot once it has been drained. -/
theorem reset_vcpu_raiseEach (ports : List Port) (i : Fin 32) :
    ((s.raiseEach v ports).vcpu i).reset = (s.vcpu i).reset := by
  induction ports generalizing s with
  | nil => rfl
  | cons p ports ih =>
    apply (ih (s.arrive v p.event)).trans
    rw [vcpu_arrive, VcpuSlot.reset_alertAmong]

/-- Every event on a port that is not masked and has none pending flags its word. -/
theorem flagged_raiseEach (hports : ports.Nodup) (hclear : ∀ p ∈ ports, s.isPending p = false)
    (w : Fin 64) : ((s.raiseEach v ports).vcpu v).selector.test w =
      ((s.vcpu v).selector.test w ||
        ports.any fun p => decide (p.pageWord = w) && !s.isMasked p) := by
  induction ports generalizing s with
  | nil => exact (Bool.or_false _).symm
  | cons p ports ih =>
    obtain ⟨hp, hports⟩ := List.nodup_cons.1 hports
    obtain ⟨hpending, hclear⟩ := List.forall_mem_cons.1 hclear
    have hclear' : ∀ q ∈ ports, (s.arrive v p.event).isPending q = false := by
      intro q hq
      have hother : p.event.delivers q.pageWord q.bit = false :=
        decide_eq_false (Port.place_ne fun he => hp (he ▸ hq))
      rw [isPending, test_pending_arrive, hother, Bool.false_or]
      exact hclear q hq
    have hmask (q : Port) : (s.arrive v p.event).isMasked q = s.isMasked q := by
      rw [isMasked, mask_arrive]
      rfl
    have halerts : p.event.alerts s = !s.isMasked p := by
      have hpending' : s.pending.test p.pageWord p.bit = false := hpending
      rw [Port.event, Arrival.alerts, hpending', Bool.not_false, Bool.true_and]
      rfl
    have hslot : ((s.arrive v p.event).vcpu v).selector.test w =
        ((s.vcpu v).selector.test w || (decide (p.pageWord = w) && !s.isMasked p)) := by
      rw [vcpu_arrive, halerts, VcpuSlot.alertAmong]
      cases s.isMasked p with
      | true =>
        rw [Bool.not_true, Bool.and_false, Bool.or_false]
        rfl
      | false =>
        have hmem : v ∈ (if (!false) = true then [v] else []) := List.mem_singleton.2 rfl
        rw [if_pos hmem, VcpuSlot.selector_alert, Word.test_insert, Bool.not_false, Bool.and_true,
          Bool.or_comm]
        rfl
    have hcons : s.raiseEach v (p :: ports) = (s.arrive v p.event).raiseEach v ports := rfl
    rw [hcons, ih _ hports hclear', hslot, List.any_cons]
    simp only [hmask]
    ac_rfl

theorem raiseEach_perm {order : List Port} (h : order.Perm ports) :
    s.raiseEach v order = s.raiseEach v ports := foldl_arrive_perm (h.map Port.event) v s

theorem isPending_raiseEach {p : Port} (hp : p ∈ ports) : (s.raiseEach v ports).isPending p = true := by
  have hown : p.event.delivers p.pageWord p.bit = true := decide_eq_true ⟨rfl, rfl⟩
  rw [isPending, test_pending_raiseEach, List.any_eq_true.2 ⟨p, hp, hown⟩, Bool.or_true]

/-- A pass leaves the event of a masked port alone. -/
theorem isPending_caughtUp_raiseEach {p : Port} (hp : p ∈ ports) (hmasked : s.isMasked p = true) :
    ((s.raiseEach v ports).caughtUp v).isPending p = true := by
  have hpending : (s.raiseEach v ports).pending.test p.pageWord p.bit = true :=
    isPending_raiseEach v s hp
  have hmask : s.mask.test p.pageWord p.bit = true := hmasked
  rw [isPending, test_pending_caughtUp, hpending, isDue, mask_raiseEach, hmask, Bool.not_true,
    Bool.and_false, Bool.and_false]
  rfl

section Merge

variable {v s} (hports : ports.Nodup) (hclear : ∀ p ∈ ports, s.isPending p = false)

include hports hclear

theorem isDue_raiseEach (w b : Fin 64) : (s.raiseEach v ports).isDue v w b =
    (((s.vcpu v).selector.test w || ports.any fun p => decide (p.pageWord = w) && !s.isMasked p) &&
      ((s.pending.test w b || ports.any fun p => p.event.delivers w b) && !s.mask.test w b)) := by
  rw [isDue, flagged_raiseEach v s hports hclear, test_pending_raiseEach, mask_raiseEach]

/-- A pass empties the selector, so that only the events after it flag words again. -/
theorem isDue_raiseEach_caughtUp (w b : Fin 64) :
    ((s.caughtUp v).raiseEach v ports).isDue v w b =
      ((ports.any fun p => decide (p.pageWord = w) && !s.isMasked p) &&
        ((s.pending.test w b && !s.isDue v w b || ports.any fun p => p.event.delivers w b) &&
          !s.mask.test w b)) := by
  have hclear' : ∀ p ∈ ports, (s.caughtUp v).isPending p = false := by
    intro p hp
    rw [isPending, test_pending_caughtUp]
    exact (congrArg (· && _) (hclear p hp)).trans (Bool.false_and _)
  have hflagged : ((s.caughtUp v).vcpu v).selector.test w = false := by
    rw [vcpu_caughtUp, if_pos rfl]
    exact Word.test_empty w
  have hmasked (p : Port) : (s.caughtUp v).isMasked p = s.isMasked p := by
    rw [isMasked, mask_caughtUp]
    rfl
  rw [isDue_raiseEach hports hclear', hflagged, Bool.false_or, test_pending_caughtUp, mask_caughtUp]
  simp only [hmasked]

omit hports

theorem pending_of_any {w b : Fin 64} (h : (ports.any fun p => p.event.delivers w b) = true) :
    s.pending.test w b = false := by
  obtain ⟨p, hp, hplace⟩ := List.any_eq_true.1 h
  obtain ⟨rfl, rfl⟩ : p.pageWord = w ∧ p.bit = b := of_decide_eq_true hplace
  exact hclear p hp

/-- A bit that a pass services has no new event. -/
theorem not_any_of_isDue {w b : Fin 64} (h : s.isDue v w b = true) :
    (ports.any fun p => p.event.delivers w b) = false := by
  rw [isDue, Bool.and_eq_true, Bool.and_eq_true] at h
  rw [← Bool.not_eq_true]
  intro hnew
  have hpending := pending_of_any hclear hnew
  rw [h.2.1] at hpending
  cases hpending

omit hclear

theorem flagged_of_any {w b : Fin 64} (h : (ports.any fun p => p.event.delivers w b) = true)
    (hmask : s.mask.test w b = false) :
    (ports.any fun p => decide (p.pageWord = w) && !s.isMasked p) = true := by
  obtain ⟨p, hp, hplace⟩ := List.any_eq_true.1 h
  obtain ⟨rfl, rfl⟩ : p.pageWord = w ∧ p.bit = b := of_decide_eq_true hplace
  refine List.any_eq_true.2 ⟨p, hp, ?_⟩
  have hunmasked : s.isMasked p = false := hmask
  rw [hunmasked, decide_eq_true rfl]
  rfl

include hports hclear

/-- With or without a pass in between, the same bits come to be serviced. -/
theorem isDue_merge (w b : Fin 64) : (s.raiseEach v ports).isDue v w b =
    (s.isDue v w b || ((s.caughtUp v).raiseEach v ports).isDue v w b) := by
  have hflagged : (ports.any fun p => p.event.delivers w b) = true → s.mask.test w b = false →
      (ports.any fun p => decide (p.pageWord = w) && !s.isMasked p) = true := flagged_of_any
  rw [isDue_raiseEach hports hclear, isDue_raiseEach_caughtUp hports hclear, isDue]
  -- A bit that is left pending by the pass has no flag before the events, one that they set has.
  cases hmask : s.mask.test w b with
  | true => simp only [Bool.not_true, Bool.and_false, Bool.or_self]
  | false =>
    cases hnew : ports.any fun p => p.event.delivers w b with
    | true =>
      rw [hflagged hnew hmask, pending_of_any hclear hnew]
      cases (s.vcpu v).selector.test w <;> rfl
    | false =>
      cases (s.vcpu v).selector.test w <;> cases s.pending.test w b <;>
        cases ports.any fun p => decide (p.pageWord = w) && !s.isMasked p <;> rfl

/-- A bit that a pass has serviced is not raised again. -/
theorem isDue_disjoint {w b : Fin 64} (h : s.isDue v w b = true) :
    ((s.caughtUp v).raiseEach v ports).isDue v w b = false := by
  rw [isDue_raiseEach_caughtUp hports hclear, h, not_any_of_isDue hclear h, Bool.not_true, Bool.and_false, Bool.or_self,
    Bool.false_and, Bool.and_false]

/-- With or without a pass before them, deliveries and a pass leave the same page. -/
theorem caughtUp_merge :
    ((s.caughtUp v).raiseEach v ports).caughtUp v = (s.raiseEach v ports).caughtUp v := by
  apply ext_parts
  · intro w b
    constructor
    · rw [mask_caughtUp, mask_raiseEach, mask_caughtUp, mask_caughtUp, mask_raiseEach]
    · rw [test_pending_caughtUp, test_pending_caughtUp, test_pending_raiseEach,
        test_pending_raiseEach, test_pending_caughtUp, isDue_merge hports hclear]
      cases hdue : s.isDue v w b with
      | true =>
        rw [not_any_of_isDue hclear hdue, Bool.not_true, Bool.and_false, Bool.or_self, Bool.false_and,
          Bool.true_or, Bool.not_true, Bool.and_false]
      | false => rw [Bool.not_false, Bool.and_true, Bool.false_or]
  · intro i
    rw [vcpu_caughtUp, vcpu_caughtUp]
    split
    next he =>
      rw [reset_vcpu_raiseEach, reset_vcpu_raiseEach, vcpu_caughtUp, if_pos he,
        VcpuSlot.reset_reset]
    next hne =>
      rw [vcpu_raiseEach_of_ne v _ hne, vcpu_raiseEach_of_ne v _ hne, vcpu_caughtUp, if_neg hne]
  · rw [reserved_caughtUp, reserved_raiseEach, reserved_caughtUp, reserved_caughtUp,
      reserved_raiseEach]

end Merge

end SharedPage

end EventChannel
