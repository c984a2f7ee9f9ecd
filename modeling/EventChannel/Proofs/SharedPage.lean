import EventChannel.SharedPage

namespace EventChannel

theorem Fault.bind_checkIndex {σ α : Type} {n i : Nat} (h : i < n)
    (f : Fin n → EStateM Fault σ α) (s : σ) : (checkIndex n i >>= f) s = f ⟨i, h⟩ s := by
  change EStateM.bind _ _ _ = _
  simp only [EStateM.bind, checkIndex_of_lt h]

theorem Fault.checkIndex_bind {σ α : Type} {n i : Nat} (h : i < n)
    (f : Fin n → EStateM Fault σ α) : checkIndex n i >>= f = f ⟨i, h⟩ :=
  funext (bind_checkIndex h f)

theorem Fault.bind_checkIndex_of_le {σ α : Type} {n i : Nat} (h : n ≤ i)
    (f : Fin n → EStateM Fault σ α) (s : σ) :
    (checkIndex n i >>= f) s = .error (.indexOutOfBounds n i) s := by
  change EStateM.bind _ _ _ = _
  simp only [EStateM.bind, checkIndex_of_le h]

namespace VcpuSlot

@[simp] theorem isUpcallPending_raiseUpcall (v : VcpuSlot) : v.raiseUpcall.isUpcallPending = true :=
  rfl

theorem selector_alert (v : VcpuSlot) (w : Fin 64) :
    (v.alert w).selector = v.selector.insert w := by
  unfold alert
  split
  next h =>
    apply Word.ext_test
    intro b
    rw [Word.test_insert]
    by_cases hb : w = b
    · rw [← hb, h, Bool.or_true]
    · rw [decide_eq_false hb, Bool.false_or]
  · rfl

end VcpuSlot

namespace SharedPage

variable (s : SharedPage) (f : VcpuSlot → VcpuSlot) (v u w b : Fin 64)

@[simp] theorem vcpu_modifyVcpu_self (v : Fin 32) : (s.modifyVcpu v f).vcpu v = f (s.vcpu v) := by
  simp only [modifyVcpu, vcpu, Fin.getElem_fin, Vector.getElem_set_self]

theorem vcpu_modifyVcpu_of_ne {v i : Fin 32} (h : v ≠ i) : (s.modifyVcpu v f).vcpu i = s.vcpu i := by
  have hval : v.val ≠ i.val := fun he => h (Fin.ext he)
  simp only [modifyVcpu, vcpu, Fin.getElem_fin]
  exact Vector.getElem_set_ne _ _ hval

@[simp] theorem vcpu_modifyVcpus (v : Fin 32) : (s.modifyVcpus f).vcpu v = f (s.vcpu v) := by
  simp only [modifyVcpus, vcpu, Fin.getElem_fin, Vector.getElem_map]

@[simp] theorem vcpu_zero (v : Fin 32) : zero.vcpu v = .zero := by
  simp only [zero, vcpu, Fin.getElem_fin, Vector.getElem_replicate]

end SharedPage

namespace PageM

open SharedPage

variable (s : SharedPage)

theorem mask_run (p : Port) : mask p s = .ok (s.isMasked p) (s.setMask p.pageWord p.bit) := rfl

theorem clearAt_run (w b : Fin 64) : clearAt w b s = .ok (s.pending.test w b) (s.clearPending w b) := by
  rw [clearAt, Fault.bind_checkIndex w.isLt]
  rfl

theorem clear_run (p : Port) : clear p s = .ok (s.isPending p) (s.clearPending p.pageWord p.bit) :=
  clearAt_run s p.pageWord p.bit

theorem unmaskAt_run (w b : Fin 64) : unmaskAt w b s = .ok (s.mask.test w b) (s.clearMask w b) := by
  rw [unmaskAt, Fault.bind_checkIndex w.isLt]
  rfl

theorem unmask_run (p : Port) : unmask p s = .ok (s.isMasked p) (s.clearMask p.pageWord p.bit) :=
  unmaskAt_run s p.pageWord p.bit

theorem ready_run (w : Fin 64) : ready w s = .ok (s.ready w) s := by
  rw [ready, Fault.bind_checkIndex w.isLt]
  rfl

theorem updateVcpu_run (v : Fin 32) (f : VcpuSlot → VcpuSlot) :
    updateVcpu v f s = .ok () (s.modifyVcpu v f) := by
  rw [updateVcpu, Fault.bind_checkIndex v.isLt]
  rfl

theorem drainSelector_run (v : Fin 32) :
    drainSelector v s = .ok (s.vcpu v).selector (s.modifyVcpu v .clearSelector) := by
  rw [drainSelector, Fault.bind_checkIndex v.isLt]
  rfl

theorem alertWord_run (w : Fin 64) (v : Fin 32) :
    alertWord w v s = .ok () (s.modifyVcpu v fun slot => slot.alert w) := by
  rw [alertWord, Fault.bind_checkIndex v.isLt]
  rfl

/-- A delivery sets the pending bit, and alerts the virtual processor unless the bit is masked. -/
theorem raiseAt_run (w b : Fin 64) (vcpu : Nat) :
    raiseAt w b vcpu s =
      if s.pending.test w b then .ok false s
      else if s.mask.test w b then .ok true (s.setPending w b)
      else (alertWord w vcpu >>= fun _ => pure true) (s.setPending w b) := by
  rw [raiseAt, Fault.bind_checkIndex w.isLt]
  change (if s.pending.test w b = true then _ else _ : PageM Bool) s = _
  by_cases hp : s.pending.test w b = true
  · rw [if_pos hp, if_pos hp]
    rfl
  · rw [if_neg hp, if_neg hp]
    change (if s.mask.test w b = true then _ else _ : PageM Bool) (s.setPending w b) = _
    by_cases hm : s.mask.test w b = true
    · rw [if_pos hm, if_pos hm]
      rfl
    · rw [if_neg hm, if_neg hm]

theorem raiseAt_run_alerted (w b : Fin 64) (v : Fin 32) (hp : s.pending.test w b = false)
    (hm : s.mask.test w b = false) :
    raiseAt w b v s =
      .ok true ((s.setPending w b).modifyVcpu v fun slot => slot.alert w) := by
  simp only [raiseAt_run, hp, hm, Bool.false_eq_true, if_false]
  change EStateM.bind _ _ _ = _
  simp only [EStateM.bind, alertWord_run]
  rfl

section Retains

variable {α β γ : Type}

/-- A computation that does not fail leaves a part of the page as it is. -/
def Retains (part : SharedPage → γ) (m : PageM α) : Prop :=
  ∀ s a t, m s = .ok a t → part t = part s

variable {part : SharedPage → γ} {m : PageM α} {f : α → PageM β}

theorem Retains.bind (hm : Retains part m) (hf : ∀ a, Retains part (f a)) :
    Retains part (m >>= f) := by
  intro s b t hrun
  change EStateM.bind m f s = _ at hrun
  unfold EStateM.bind at hrun
  cases hms : m s with
  | ok a s' =>
    rw [hms] at hrun
    rw [hf a s' b t hrun, hm s a s' hms]
  | error e s' =>
    rw [hms] at hrun
    cases hrun

theorem Retains.checkIndex (n i : Nat) : Retains part (Fault.checkIndex n i : PageM (Fin n)) := by
  intro s a t hrun
  unfold Fault.checkIndex at hrun
  split at hrun <;> cases hrun
  rfl

theorem Retains.pure (a : α) : Retains part (Pure.pure a : PageM α) := by
  intro s b t hrun
  cases hrun
  rfl

theorem Retains.get : Retains part (MonadState.get : PageM SharedPage) := by
  intro s a t hrun
  cases hrun
  rfl

theorem Retains.modify {f : SharedPage → SharedPage} (h : ∀ s, part (f s) = part s) :
    Retains part (modify f : PageM Unit) := by
  intro s a t hrun
  cases hrun
  exact h s

theorem retains_mask (h : ∀ s w b, part (setMask s w b) = part s) (p : Port) :
    Retains part (mask p) :=
  .bind .get fun _ => .bind (.modify fun s => h s _ _) fun _ => .pure _

theorem retains_unmaskAt (h : ∀ s w b, part (clearMask s w b) = part s) (word : Nat)
    (bit : Fin 64) : Retains part (unmaskAt word bit) :=
  .bind (.checkIndex _ _) fun _ => .bind .get fun _ => .bind (.modify fun s => h s _ _) fun _ =>
    .pure _

theorem retains_clearAt (h : ∀ s w b, part (clearPending s w b) = part s) (word : Nat)
    (bit : Fin 64) : Retains part (clearAt word bit) :=
  .bind (.checkIndex _ _) fun _ => .bind .get fun _ => .bind (.modify fun s => h s _ _) fun _ =>
    .pure _

theorem retains_ready (word : Nat) : Retains part (ready word) :=
  .bind (.checkIndex _ _) fun _ => .bind .get fun _ => .pure _

theorem retains_readVcpu (vcpu : Nat) : Retains part (readVcpu vcpu) :=
  .bind (.checkIndex _ _) fun _ => .bind .get fun _ => .pure _

section Vcpus

variable {f : VcpuSlot → VcpuSlot}

theorem retains_updateVcpu (h : ∀ s v, part (modifyVcpu s v f) = part s) (vcpu : Nat) :
    Retains part (updateVcpu vcpu f) :=
  .bind (.checkIndex _ _) fun _ => .modify fun s => h s _

theorem retains_drainSelector (h : ∀ s v, part (modifyVcpu s v .clearSelector) = part s)
    (vcpu : Nat) : Retains part (drainSelector vcpu) :=
  .bind (.checkIndex _ _) fun _ => .bind .get fun _ => .bind (.modify fun s => h s _) fun _ =>
    .pure _

theorem retains_flagWord {word : Fin 64}
    (h : ∀ s v, part (modifyVcpu s v fun slot => slot.flagWord word) = part s) (vcpu : Nat) :
    Retains part (flagWord word vcpu) :=
  .bind (.checkIndex _ _) fun _ => .bind .get fun _ => .bind (.modify fun s => h s _) fun _ =>
    .pure _

theorem retains_alertWord {word : Fin 64}
    (h : ∀ s v, part (modifyVcpu s v fun slot => slot.alert word) = part s) (vcpu : Nat) :
    Retains part (alertWord word vcpu) :=
  .bind (.checkIndex _ _) fun _ => .modify fun s => h s _

theorem retains_raiseAt (hpending : ∀ s w b, part (setPending s w b) = part s)
    (halert : ∀ s v w, part (modifyVcpu s v fun slot => slot.alert w) = part s) (word : Nat)
    (bit : Fin 64) (vcpu : Nat) : Retains part (raiseAt word bit vcpu) := by
  apply Retains.bind (.checkIndex _ _)
  intro w
  apply Retains.bind .get
  intro s
  split
  · exact .pure _
  · apply Retains.bind (.modify fun s => hpending s _ _)
    intro _
    apply Retains.bind .get
    intro t
    dsimp only
    split
    · exact .pure _
    · exact .bind (retains_alertWord (fun s v => halert s v w) _) fun _ => .pure _

end Vcpus

/-- A delivery that does not fail is of a new event exactly if the bit was not pending. -/
theorem pending_of_raiseAt {word : Nat} {bit : Fin 64} {vcpu : Nat} {raised : Bool}
    {t : SharedPage} (h : raiseAt word bit vcpu s = .ok raised t) :
    ∃ hword : word < 64, raised = !s.pending.test ⟨word, hword⟩ bit ∧
      ∀ w b, t.pending.test w b = (s.pending.insert ⟨word, hword⟩ bit).test w b := by
  by_cases hword : word < 64
  · refine ⟨hword, ?_⟩
    have hrun := raiseAt_run s ⟨word, hword⟩ bit vcpu
    rw [h] at hrun
    split at hrun
    next hp =>
      cases hrun
      refine ⟨by rw [hp]; rfl, fun w b => ?_⟩
      rw [Bitmap.test_insert]
      by_cases he : ⟨word, hword⟩ = w ∧ bit = b
      · rw [← he.1, ← he.2, hp, Bool.or_true]
      · rw [decide_eq_false he, Bool.false_or]
    next hp =>
      rw [Bool.not_eq_true] at hp
      split at hrun
      · cases hrun
        exact ⟨by rw [hp]; rfl, fun _ _ => rfl⟩
      · have halert : Retains SharedPage.pending (alertWord ⟨word, hword⟩ vcpu) :=
          retains_alertWord (fun _ _ => rfl) vcpu
        have hpending := halert.bind (fun _ => .pure true) _ _ _ hrun.symm
        have hraised : raised = true := by
          change _ = EStateM.bind _ _ _ at hrun
          unfold EStateM.bind at hrun
          split at hrun <;> cases hrun
          rfl
        refine ⟨by rw [hp, hraised]; rfl, fun w b => ?_⟩
        rw [hpending]
        rfl
  · rw [raiseAt, Fault.bind_checkIndex_of_le (Nat.le_of_not_lt hword)] at h
    cases h

/-- A bit that is cleared was pending exactly if the result says so. -/
theorem pending_of_clearAt {word : Nat} {bit : Fin 64} {found : Bool} {t : SharedPage}
    (h : clearAt word bit s = .ok found t) :
    ∃ hword : word < 64, found = s.pending.test ⟨word, hword⟩ bit ∧
      t.pending = s.pending.erase ⟨word, hword⟩ bit := by
  by_cases hword : word < 64
  · refine ⟨hword, ?_⟩
    have hrun := clearAt_run s ⟨word, hword⟩ bit
    rw [h] at hrun
    cases hrun
    exact ⟨rfl, rfl⟩
  · rw [clearAt, Fault.bind_checkIndex_of_le (Nat.le_of_not_lt hword)] at h
    cases h

end Retains

end PageM

end EventChannel
