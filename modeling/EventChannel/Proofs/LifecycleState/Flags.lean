import EventChannel.Proofs.LifecycleState.Invariant

namespace EventChannel

open Guest

namespace SharedPage

variable (page : SharedPage) {f : VcpuSlot → VcpuSlot}

theorem upcalls_modifyVcpu (h : ∀ v, (f v).isUpcallMasked = v.isUpcallMasked) (v : Fin 32) :
    (page.modifyVcpu v f).upcalls = page.upcalls := by
  funext u
  by_cases hu : v = u
  · subst hu
    rw [upcalls, vcpu_modifyVcpu_self, h, upcalls]
  · rw [upcalls, vcpu_modifyVcpu_of_ne page f hu, upcalls]

theorem upcalls_modifyVcpus (masked : Bool) (h : ∀ v, (f v).isUpcallMasked = masked) :
    (page.modifyVcpus f).upcalls = fun _ => masked := by
  funext v
  rw [upcalls, vcpu_modifyVcpus, h]

end SharedPage

theorem VcpuSlot.isUpcallMasked_maskUpcall (v : VcpuSlot) (masked : Bool) :
    (v.maskUpcall masked).isUpcallMasked = masked := by
  cases masked <;> rfl

theorem VcpuSlot.isUpcallMasked_alert (v : VcpuSlot) (w : Fin 64) :
    (v.alert w).isUpcallMasked = v.isUpcallMasked := by
  unfold alert
  split <;> rfl

/-- An assertion that sees nothing of the event channels but the flags of the lifecycle, and that calls
keep unless they concern the interrupt line. -/
structure FlagsOnly {σ : Type} (P : Platform σ) (lost J : System σ → Prop) : Prop where
  call : ∀ r, r.concernsLine = false → Keeps lost J (Guest.call P r)
  emit : ∀ e, Keeps lost J (Guest.emit P e)
  modifyTable : ∀ f, Keeps lost J (Guest.modifyTable f)
  onTable : ∀ {α : Type} (f : ActionTable → α × ActionTable), Keeps lost J (Guest.onTable f)
  modifyPage : ∀ {f : SharedPage → SharedPage}, (∀ page, (f page).upcalls = page.upcalls) →
    Keeps lost J (Guest.modifyPage f)
  onPage : ∀ {α : Type} {m : PageM α}, PageM.Retains SharedPage.upcalls m →
    Keeps lost J (Guest.onPage m)

namespace FlagsOnly

variable {σ : Type} {P : Platform σ} {lost J : System σ → Prop} (h : FlagsOnly P lost J)

include h

theorem stable : Stable P lost J := ⟨fun r _ hr _ => h.call r hr, fun n _ => h.emit (.noticed n)⟩

theorem updateVcpu (f : VcpuSlot → VcpuSlot) (hf : ∀ v, (f v).isUpcallMasked = v.isUpcallMasked)
    (vcpu : Nat) : Keeps lost J (Guest.onPage (PageM.updateVcpu vcpu f)) :=
  h.onPage (PageM.retains_updateVcpu (fun page => page.upcalls_modifyVcpu hf) vcpu)

theorem drainSelector (vcpu : Nat) : Keeps lost J (Guest.onPage (PageM.drainSelector vcpu)) :=
  h.onPage (PageM.retains_drainSelector (fun page => page.upcalls_modifyVcpu fun _ => rfl) vcpu)

theorem alertWord (word : Fin 64) (vcpu : Nat) :
    Keeps lost J (Guest.onPage (PageM.alertWord word vcpu)) :=
  h.onPage (PageM.retains_alertWord
    (fun page => page.upcalls_modifyVcpu fun v => v.isUpcallMasked_alert word) vcpu)

theorem raiseAt (word : Nat) (bit : Fin 64) (vcpu : Nat) :
    Keeps lost J (Guest.onPage (PageM.raiseAt word bit vcpu)) :=
  h.onPage (PageM.retains_raiseAt (fun _ _ _ => rfl)
    (fun page v w => page.upcalls_modifyVcpu (fun v => v.isUpcallMasked_alert w) v) word bit vcpu)

theorem mask (port : Port) : Keeps lost J (Guest.mask port) :=
  (h.onPage (PageM.retains_mask (fun _ _ _ => rfl) port)).discard

theorem unmaskAt (word : Nat) (bit : Fin 64) :
    Keeps lost J (Guest.onPage (PageM.unmaskAt word bit)) :=
  h.onPage (PageM.retains_unmaskAt (fun _ _ _ => rfl) word bit)

theorem clearAt (word : Nat) (bit : Fin 64) :
    Keeps lost J (Guest.onPage (PageM.clearAt word bit)) :=
  h.onPage (PageM.retains_clearAt (fun _ _ _ => rfl) word bit)

theorem unmask (port : Port) : Keeps lost J (Guest.unmask port) :=
  keeps_unmask (fun _ => True) (fun _ _ => trivial) (h.unmaskAt port.word port.bit)
    fun vcpu _ => h.alertWord port.pageWord vcpu

theorem page (op : PageOperation) : Keeps lost J (op.run P) := by
  apply PageOperation.keeps_run _ (h.modifyPage fun _ => rfl) (h.modifyPage fun _ => rfl)
    (fun _ _ => ⟨h.emit _, h.emit _⟩) fun _ => h.emit _
  cases op with
  | mask port => exact h.onPage (PageM.retains_mask (fun _ _ _ => rfl) port)
  | unmask | unmaskAt => exact h.unmaskAt _ _
  | clear | clearAt => exact h.clearAt _ _
  | ready word => exact h.onPage (PageM.retains_ready word)
  | alert port vcpu => exact h.alertWord port.pageWord vcpu
  | raise | raiseAt => exact h.raiseAt _ _ _
  | isMasked | isPending | maskAll | clearAll => trivial

theorem vcpu {vcpu : Nat} {op : VcpuOperation}
    (hop : (Operation.vcpu vcpu op).masksUpcall = false) :
    Keeps lost J (op.run vcpu : Guest σ Report) := by
  apply VcpuOperation.keeps_run_of
  cases op with
  | isUpcallPending | isUpcallMasked | selector => exact h.onPage (PageM.retains_readVcpu vcpu)
  | clearUpcall => exact h.updateVcpu .clearUpcall (fun _ => rfl) vcpu
  | raiseUpcall => exact h.updateVcpu .raiseUpcall (fun _ => rfl) vcpu
  | reset => exact h.updateVcpu .reset (fun _ => rfl) vcpu
  | drainSelector => exact h.drainSelector vcpu
  | flagWord word =>
    exact h.onPage (PageM.retains_flagWord (fun page => page.upcalls_modifyVcpu fun _ => rfl) vcpu)
  | maskUpcall => cases hop

theorem enqueue (port : Port) : Keeps lost J (Guest.enqueue P port) :=
  keeps_enqueue (h.onTable _) fun _ => h.emit _

theorem cancel (port : Port) : Keeps lost J (Guest.cancel P port) :=
  keeps_cancel (h.onTable _) fun _ => h.emit _

theorem slotIndifferent : SlotIndifferent P lost J where
  modifySlot _ := h.modifyTable _
  cancel := h.cancel
  setOutstanding _ := h.onTable _
  acknowledge _ := h.onTable _
  note := h.stable.note
  actionDropped _ _ _ := h.emit _
  published _ _ := h.emit _
  slotReset _ := h.emit _
  readerTaken _ := h.emit _
  readerReleased _ := h.emit _

theorem parts : ChannelOperation.Parts P lost J where
  stable := h.stable
  publish := h.slotIndifferent.publish
  dropAction := h.slotIndifferent.dropAction
  cancel := h.cancel
  mask := h.mask
  unmask := h.unmask

theorem consume (word bit : Fin 64) : Keeps lost J (Guest.consume P word bit) := by
  have hdeliver (port : Port) : Keeps lost J (deliver P port) :=
    keeps_deliver_of_starts h.stable (h.call _ rfl) (fun _ => h.call _ rfl) (h.onTable _)
      (fun _ _ => h.emit _) (fun _ => h.onTable _) h.enqueue
  exact keeps_consume h.stable (h.clearAt word bit) (h.emit _) hdeliver

theorem runWord (word : Fin 16) : Keeps lost J (Guest.runWord P word) := by
  apply keeps_runWord (fun _ => h.onTable _)
  intro port
  exact leads_runItem h.stable (h.onTable _) (h.emit _) fun _ => h.call _ rfl

/-- What neither belongs to the lifecycle nor masks upcalls on its own keeps such an assertion. -/
theorem run (hlost : ∀ s, J s → lost s) {op : Operation} (hmasks : op.masksUpcall = false)
    (hop : op.isTransition = false) : Keeps lost J (op.run P) := by
  rw [Operation.isTransition, Bool.or_eq_false_iff] at hop
  obtain ⟨hlifecycle, hline⟩ := hop
  cases op with
  | page op => exact (h.page op).bind fun _ => .pure _
  | vcpu vcpu op => exact (h.vcpu hmasks).bind fun _ => .pure _
  | table op =>
    apply h.slotIndifferent.table h.stable
    exact TableOperation.keeps_moveWork h.enqueue (fun _ => h.onTable _)
      (keeps_runWordAt h.runWord hlost)
  | channels op =>
    apply h.parts.run
    · exact fun he => absurd (hlifecycle.symm.trans he) Bool.false_ne_true
    · exact fun he => absurd (hline.symm.trans he) Bool.false_ne_true
    · intro _
      apply keeps_scannerPass h.stable (h.updateVcpu _ fun _ => rfl) h.drainSelector
      exact fun word bit => Leads.of_pre (h.consume word bit) fun _ hs => hs.1
    · exact fun _ => keeps_deferredPass h.stable h.runWord
    · exact fun _ _ => h.onTable _

end FlagsOnly

end EventChannel
