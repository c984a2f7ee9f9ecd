import EventChannel.Proofs.SharedPage

namespace EventChannel

namespace SharedPage

/-- Every event that waits for service is flagged in the selector of a virtual processor, and the
upcall is pending while the selector flags anything. -/
structure Announced (s : SharedPage) (v : Fin 32) : Prop where
  flagged : ∀ w b, s.pending.test w b = true → s.mask.test w b = false →
    (s.vcpu v).selector.test w = true
  alerted : (s.vcpu v).selector ≠ .empty → (s.vcpu v).isUpcallPending = true

/-- The same, up to the bits that a scanner pass under way has promised to look at. -/
structure AnnouncedBut (promised : Fin 64 → Fin 64 → Prop) (s : SharedPage) (v : Fin 32) :
    Prop where
  flagged : ∀ w b, (s.ready w).test b = true → (s.vcpu v).selector.test w = true ∨ promised w b
  alerted : (s.vcpu v).selector ≠ .empty → (s.vcpu v).isUpcallPending = true

variable {promised kept : Fin 64 → Fin 64 → Prop} {s t : SharedPage} {v : Fin 32} {w b : Fin 64}

theorem AnnouncedBut.announced (h : s.AnnouncedBut promised v) (hnone : ∀ w b, ¬promised w b) :
    s.Announced v := by
  refine ⟨fun w b hp hm => ?_, h.alerted⟩
  have hready : (s.ready w).test b = true := by rw [test_ready, hp, hm]; rfl
  exact (h.flagged w b hready).resolve_right (hnone w b)

theorem Announced.but (h : s.Announced v) : s.AnnouncedBut promised v := by
  refine ⟨fun w b hready => .inl ?_, h.alerted⟩
  rw [test_ready, Bool.and_eq_true, Bool.not_eq_true'] at hready
  exact h.flagged w b hready.1 hready.2

/-- A promise about a bit that is not ready may be taken back. -/
theorem AnnouncedBut.keep (h : s.AnnouncedBut promised v)
    (hkept : ∀ w b, (s.ready w).test b = true → promised w b → kept w b) :
    s.AnnouncedBut kept v :=
  ⟨fun w b hready => (h.flagged w b hready).imp_right (hkept w b hready), h.alerted⟩

theorem AnnouncedBut.mono (h : s.AnnouncedBut promised v) (hkept : ∀ w b, promised w b → kept w b) :
    s.AnnouncedBut kept v := h.keep fun w b _ => hkept w b

/-- New promises have to cover the bits that become ready. -/
theorem AnnouncedBut.of_ready (h : s.AnnouncedBut promised v) (hvcpu : t.vcpu v = s.vcpu v)
    (hready : ∀ w b, (t.ready w).test b = true →
      (s.ready w).test b = true ∧ (promised w b → kept w b) ∨ kept w b) :
    t.AnnouncedBut kept v := by
  constructor
  · intro w b hb
    rw [hvcpu]
    rcases hready w b hb with ⟨hs, hkept⟩ | hkept
    · exact (h.flagged w b hs).imp_right hkept
    · exact .inr hkept
  · rw [hvcpu]
    exact h.alerted

theorem AnnouncedBut.setMask (h : s.AnnouncedBut promised v) :
    (s.setMask w b).AnnouncedBut promised v := by
  refine AnnouncedBut.of_ready h rfl ?_
  intro w' b' hb
  refine .inl ⟨?_, id⟩
  simp only [test_ready, SharedPage.setMask, Bitmap.test_insert, Bool.and_eq_true,
    Bool.not_eq_true', Bool.or_eq_false_iff] at hb ⊢
  exact ⟨hb.1, hb.2.2⟩

theorem AnnouncedBut.maskAll (h : s.AnnouncedBut promised v) :
    s.maskAll.AnnouncedBut promised v := by
  refine AnnouncedBut.of_ready h rfl ?_
  intro w b hb
  simp only [test_ready, SharedPage.maskAll, Bitmap.test_replicate, Word.test_full, Bool.not_true,
    Bool.and_false, Bool.false_eq_true] at hb

theorem AnnouncedBut.clearMask (h : s.AnnouncedBut promised v) :
    (s.clearMask w b).AnnouncedBut (fun w' b' => promised w' b' ∨ w' = w ∧ b' = b) v := by
  refine AnnouncedBut.of_ready h rfl ?_
  intro w' b' hb
  by_cases he : w = w' ∧ b = b'
  · exact .inr (.inr ⟨he.1.symm, he.2.symm⟩)
  · refine .inl ⟨?_, .inl⟩
    simpa only [test_ready, SharedPage.clearMask, Bitmap.test_erase, he, decide_false,
      Bool.not_false, Bool.true_and] using hb

theorem AnnouncedBut.setPending (h : s.AnnouncedBut promised v) :
    (s.setPending w b).AnnouncedBut
      (fun w' b' => promised w' b' ∨ w' = w ∧ b' = b ∧ s.mask.test w b = false) v := by
  refine AnnouncedBut.of_ready h rfl ?_
  intro w' b' hb
  simp only [test_ready, SharedPage.setPending, Bitmap.test_insert, Bool.and_eq_true,
    Bool.or_eq_true, decide_eq_true_eq, Bool.not_eq_true'] at hb ⊢
  obtain ⟨⟨rfl, rfl⟩ | hp, hm⟩ := hb
  · exact .inr (.inr ⟨rfl, rfl, hm⟩)
  · exact .inl ⟨⟨hp, hm⟩, .inl⟩

theorem AnnouncedBut.clearPending (h : s.AnnouncedBut promised v) :
    (s.clearPending w b).AnnouncedBut (fun w' b' => promised w' b' ∧ ¬(w' = w ∧ b' = b)) v := by
  refine AnnouncedBut.of_ready h rfl ?_
  intro w' b' hb
  simp only [test_ready, SharedPage.clearPending, Bitmap.test_erase, Bool.and_eq_true,
    Bool.not_eq_true', decide_eq_false_iff_not] at hb ⊢
  obtain ⟨⟨hne, hp⟩, hm⟩ := hb
  exact .inl ⟨⟨hp, hm⟩, fun hprom => ⟨hprom, fun he => hne ⟨he.1.symm, he.2.symm⟩⟩⟩

theorem AnnouncedBut.clearPendingAll (h : s.AnnouncedBut promised v) :
    s.clearPendingAll.AnnouncedBut promised v := by
  refine AnnouncedBut.of_ready h rfl ?_
  intro w b hb
  simp only [test_ready, SharedPage.clearPendingAll, Bitmap.test_replicate, Word.test_empty,
    Bool.false_and, Bool.false_eq_true] at hb

/-- An alert about a word redeems what was promised about it. -/
theorem AnnouncedBut.alert (h : s.AnnouncedBut promised v) :
    (s.modifyVcpu v fun slot => slot.alert w).AnnouncedBut
      (fun w' b' => promised w' b' ∧ w' ≠ w) v := by
  constructor
  · intro w' b' hb
    rw [vcpu_modifyVcpu_self, VcpuSlot.selector_alert, Word.test_insert, Bool.or_eq_true,
      decide_eq_true_eq]
    by_cases he : w = w'
    · exact .inl (.inl he)
    · exact (h.flagged w' b' hb).imp .inr fun hprom => ⟨hprom, fun hw => he hw.symm⟩
  · rw [vcpu_modifyVcpu_self]
    intro _
    unfold VcpuSlot.alert
    split
    next hflag =>
      apply h.alerted
      intro hempty
      rw [hempty, Word.test_empty] at hflag
      cases hflag
    · exact VcpuSlot.isUpcallPending_raiseUpcall _

/-- What the selector flagged becomes a promise of the pass that drained it. -/
theorem AnnouncedBut.drained (h : s.AnnouncedBut promised v) :
    ((s.modifyVcpu v .clearUpcall).modifyVcpu v .clearSelector).AnnouncedBut
      (fun w b => promised w b ∨ (s.vcpu v).selector.test w = true) v := by
  constructor
  · intro w b hb
    exact .inr (h.flagged w b hb).symm
  · rw [vcpu_modifyVcpu_self]
    exact fun hne => absurd rfl hne

theorem AnnouncedBut.maskUpcalls (h : s.AnnouncedBut promised v) (masked : Bool) :
    (s.modifyVcpus fun slot => slot.maskUpcall masked).AnnouncedBut promised v := by
  constructor
  · rw [vcpu_modifyVcpus]
    exact h.flagged
  · rw [vcpu_modifyVcpus]
    exact h.alerted

theorem announced_of_clear (hpending : s.pending = .replicate 64 .empty)
    (hselector : (s.vcpu v).selector = .empty) : s.Announced v := by
  constructor
  · intro w b hp _
    rw [hpending, Bitmap.test_replicate, Word.test_empty] at hp
    cases hp
  · exact fun hne => absurd hselector hne

theorem announced_zero : zero.Announced v :=
  announced_of_clear rfl (by rw [vcpu_zero]; rfl)

theorem AnnouncedBut.raiseAt (h : s.AnnouncedBut promised v) :
    ∃ raised t, PageM.raiseAt w b v s = .ok raised t ∧ t.AnnouncedBut promised v := by
  by_cases hp : s.pending.test w b = true
  · exact ⟨_, _, by rw [PageM.raiseAt_run, if_pos hp], h⟩
  by_cases hm : s.mask.test w b = true
  · refine ⟨_, _, by rw [PageM.raiseAt_run, if_neg hp, if_pos hm], h.setPending.mono ?_⟩
    rintro w' b' (hprom | ⟨_, _, hmask⟩)
    · exact hprom
    · rw [hm] at hmask
      cases hmask
  · rw [Bool.not_eq_true] at hp hm
    refine ⟨_, _, PageM.raiseAt_run_alerted s w b v hp hm, h.setPending.alert.mono ?_⟩
    intro w' b' h
    obtain ⟨hprom | ⟨rfl, _, _⟩, hne⟩ := h
    · exact hprom
    · exact absurd rfl hne

end SharedPage

end EventChannel
