import EventChannel.ActionTable

namespace EventChannel

namespace Bitmap

variable {n : Nat} (hn : 16 ≤ n) (m : Bitmap n) (p q : Port)

/-- A bitmap with a bit for each port changes at the port whose bit is set. -/
theorem test_insert_port :
    (m.insert (p.word.castLE hn) p.bit).test (q.word.castLE hn) q.bit =
      if p = q then true else m.test (q.word.castLE hn) q.bit := by
  rw [test_insert]
  simp only [Port.place_eq_iff]
  split
  next hpq => rw [decide_eq_true hpq, Bool.true_or]
  next hne => rw [decide_eq_false hne, Bool.false_or]

theorem test_erase_port :
    (m.erase (p.word.castLE hn) p.bit).test (q.word.castLE hn) q.bit =
      if p = q then false else m.test (q.word.castLE hn) q.bit := by
  rw [test_erase]
  simp only [Port.place_eq_iff]
  split
  next hpq => rw [decide_eq_true hpq, Bool.not_true, Bool.false_and]
  next hne => rw [decide_eq_false hne, Bool.not_false, Bool.true_and]

end Bitmap

namespace ActionTable

variable (t : ActionTable) (p q : Port)

/-- A change to a slot that leaves a field alone leaves it alone in every slot. -/
theorem field_modifySlot {β : Type} {field : Slot → β} {f : Slot → Slot}
    (h : ∀ s, field (f s) = field s) : field ((t.modifySlot p f).slot q) = field (t.slot q) := by
  rw [slot_modifySlot]
  split
  · exact h _
  · rfl

/-- A table is what it has for each port. -/
theorem ext_ports {t u : ActionTable} (hslot : ∀ p, t.slot p = u.slot p)
    (houtstanding : ∀ p, t.isOutstanding p = u.isOutstanding p)
    (hflagged : ∀ p, t.isFlagged p = u.isFlagged p) : t = u := by
  have hbits (m n : Bitmap 16) (h : ∀ p : Port, m.test p.word p.bit = n.test p.word p.bit) :
      m = n := by
    apply Bitmap.ext_test
    intro w b
    obtain ⟨p, -, rfl, rfl⟩ := Port.at?_castLE w b
    exact h p
  obtain ⟨slots, outstanding, queued⟩ := t
  obtain ⟨slots', outstanding', queued'⟩ := u
  obtain rfl : slots = slots' := Vector.ext fun i hi => hslot ⟨⟨i, hi⟩⟩
  obtain rfl : outstanding = outstanding' := hbits _ _ houtstanding
  obtain rfl : queued = queued' := hbits _ _ hflagged
  rfl

theorem kind_setKind (k : Kind) : (t.setKind p k).kind q = if p = q then k else t.kind q := by
  rw [kind, setKind, slot_modifySlot]
  split <;> rfl

@[simp] theorem action_setKind (k : Kind) :
    ((t.setKind p k).slot q).action = (t.slot q).action := t.field_modifySlot p q fun _ => rfl

theorem action_setAction (a : Action) :
    ((t.setAction p a).slot q).action = if p = q then a else (t.slot q).action := by
  rw [setAction, slot_modifySlot]
  split <;> rfl

@[simp] theorem kind_setAction (a : Action) : (t.setAction p a).kind q = t.kind q :=
  t.field_modifySlot p q fun _ => rfl

theorem deliveries_setDeliveries (n : UInt64) : ((t.setDeliveries p n).slot q).deliveries =
    if p = q then n else (t.slot q).deliveries := by
  rw [setDeliveries, slot_modifySlot]
  split <;> rfl

theorem slot_enqueue : (t.enqueue p).2.slot q = (t.setWork p ⟨true⟩).slot q := by
  unfold enqueue
  dsimp only
  split <;> rfl

theorem isOutstanding_enqueue : (t.enqueue p).2.isOutstanding q = t.isOutstanding q := by
  unfold enqueue
  dsimp only
  split <;> rfl

theorem slot_cancel : (t.cancel p).2.slot q = (t.setWork p ⟨false⟩).slot q := rfl

@[simp] theorem slot_powerOn : powerOn.slot q = .powerOn := by
  simp only [powerOn, slot, Fin.getElem_fin, Vector.getElem_replicate]

@[simp] theorem isOutstanding_powerOn : powerOn.isOutstanding q = false := by
  rw [isOutstanding, powerOn, Bitmap.test_replicate, Word.test_empty]

@[simp] theorem isFlagged_powerOn : powerOn.isFlagged q = false := by
  rw [isFlagged, powerOn, Bitmap.test_replicate, Word.test_empty]

theorem isQueued_setWork (w : WorkItem) :
    (t.setWork p w).isQueued q = if p = q then w.queued else t.isQueued q := by
  rw [isQueued, setWork, slot_modifySlot]
  split <;> rfl

/-- A change to a slot that leaves its work alone leaves the queued items alone. -/
theorem isQueued_modifySlot {f : Slot → Slot} (h : ∀ s, (f s).work = s.work) :
    (t.modifySlot p f).isQueued q = t.isQueued q := congrArg WorkItem.queued (t.field_modifySlot p q h)

theorem isQueued_enqueue :
    (t.enqueue p).2.isQueued q = if p = q then true else t.isQueued q := by
  rw [isQueued, slot_enqueue]
  exact t.isQueued_setWork p q _

theorem isQueued_cancel : (t.cancel p).2.isQueued q = if p = q then false else t.isQueued q :=
  t.isQueued_setWork p q _

theorem isQueued_claim : (t.claim p).2.isQueued q = if p = q then false else t.isQueued q :=
  t.isQueued_setWork p q _

@[simp] theorem isQueued_powerOn : powerOn.isQueued q = false := by
  rw [isQueued, slot_powerOn]
  rfl

theorem enqueue_fst : (t.enqueue p).1 = !t.isQueued p := rfl

theorem isFlagged_enqueue_of_queued (h : t.isQueued p = true) :
    (t.enqueue p).2.isFlagged q = t.isFlagged q := by
  have hstale : (t.slot p).work.queued = true := h
  simp only [enqueue, WorkItem.put, hstale, Bool.not_true, Bool.false_eq_true, if_false]
  rfl

theorem isFlagged_enqueue (h : t.isQueued p = false) :
    (t.enqueue p).2.isFlagged q = if p = q then true else t.isFlagged q := by
  have he : (t.enqueue p).2.queued = t.queued.insert p.word p.bit := by
    have hfresh : (t.slot p).work.queued = false := h
    simp only [enqueue, WorkItem.put, hfresh, Bool.not_false, if_true]
    rfl
  rw [isFlagged, he]
  exact Bitmap.test_insert_port (Nat.le_refl 16) _ p q

theorem isFlagged_cancel :
    (t.cancel p).2.isFlagged q = if p = q then false else t.isFlagged q :=
  Bitmap.test_erase_port (Nat.le_refl 16) _ p q

theorem isOutstanding_setOutstanding :
    (t.setOutstanding p).2.isOutstanding q = if p = q then true else t.isOutstanding q :=
  Bitmap.test_insert_port (Nat.le_refl 16) _ p q

theorem isOutstanding_acknowledge :
    (t.acknowledge p).2.isOutstanding q = if p = q then false else t.isOutstanding q :=
  Bitmap.test_erase_port (Nat.le_refl 16) _ p q

theorem readers_setReaders (n : Nat) :
    ((t.setReaders p n).slot q).readers = if p = q then n else (t.slot q).readers := by
  rw [setReaders, slot_modifySlot]
  split <;> rfl

@[simp] theorem action_setReaders (n : Nat) :
    ((t.setReaders p n).slot q).action = (t.slot q).action := t.field_modifySlot p q fun _ => rfl

theorem releaseReader?_eq_some {t t' : ActionTable} {p : Port} {details : Option (UInt32 × String)}
    (h : t.releaseReader? p = some (details, t')) :
    ∃ n, (t.slot p).readers = n + 1 ∧ details = t.irqDetails? p ∧ t' = t.setReaders p n := by
  unfold releaseReader? at h
  split at h
  · cases h
  next n hn =>
    cases h
    exact ⟨n, hn, rfl, rfl⟩

theorem releaseReader?_eq_none {t : ActionTable} {p : Port} (h : t.releaseReader? p = none) :
    (t.slot p).readers = 0 := by
  unfold releaseReader? at h
  split at h
  next hn => exact hn
  · cases h

theorem isFlagged_takeWord (w : Fin 16) :
    (t.takeWord w).2.isFlagged q = if w = q.word then false else t.isFlagged q := by
  change (t.queued.setWord w .empty).test q.word q.bit = _
  rw [Bitmap.test_setWord, Word.test_empty]
  rfl

section Ports

variable {β : Type} {f : ActionTable → Port → ActionTable}

/-- Changing ports one by one changes those of the list and no others. A port that comes more than once
is changed once, as a second change does nothing. -/
theorem view_foldl (view : ActionTable → Port → β) (change : β → β)
    (hview : ∀ t p q, view (f t p) q = if p = q then change (view t q) else view t q)
    (hchange : ∀ b, change (change b) = change b) (ports : List Port) :
    view (ports.foldl f t) q = if q ∈ ports then change (view t q) else view t q := by
  induction ports generalizing t with
  | nil => rfl
  | cons p ports ih =>
    rw [List.foldl_cons, ih, hview]
    by_cases hq : p = q
    · subst hq
      rw [if_pos rfl, if_pos List.mem_cons_self, hchange, ite_self]
    · have hmem : q ∈ p :: ports ↔ q ∈ ports := by
        rw [List.mem_cons, or_iff_right fun he => hq he.symm]
      simp only [hq, hmem, if_false]

end Ports

end ActionTable

end EventChannel
