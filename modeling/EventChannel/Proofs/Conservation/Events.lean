import EventChannel.Proofs.Conservation.Balance

namespace EventChannel

open Guest

/-- The balance holds now, as it did at every settled entry so far. -/
structure Conserved (initial : Bitmap 64) (s : System History) : Prop where
  balanced : Balanced initial s.channels.page.pending s.outside
  always : s.outside.Always (Entry.Balances initial)

/-- A fault ends the account, which is right up to there. -/
def BalancedUntil (initial : Bitmap 64) (s : System History) : Prop :=
  s.outside.Always (Entry.Balances initial)

/-- A write to the pending bitmap, of which an entry has still to give the result. -/
def Written (initial : Bitmap 64) (next : Bitmap 64 → Bitmap 64 → Prop) (s : System History) :
    Prop :=
  s.outside.Always (Entry.Balances initial) ∧
    ∃ old, Balanced initial old s.outside ∧ next old s.channels.page.pending

namespace Conserved

variable {initial : Bitmap 64} {c : Client} {depth : Nat} {α : Type}

theorem keeps_record {entry : Channels → Entry} (hstate : ∀ state, (entry state).state = state)
    (hneutral : ∀ state, (entry state).IsNeutral) :
    Keeps (BalancedUntil initial) (Conserved initial) (record entry) := by
  apply Leads.record
  intro state o hs
  have hbalanced : Balanced initial state.page.pending (entry state :: o) :=
    hs.balanced.neutral (hneutral state)
  refine ⟨hbalanced, .cons (fun _ => ?_) hs.always⟩
  rw [hstate]
  exact hbalanced

theorem keeps_emit {e : Event} (hneutral : ∀ state, (Entry.saw depth e state).IsNeutral) :
    Keeps (BalancedUntil initial) (Conserved initial) (emit (c.platform depth) e) := by
  apply Client.leads_emit
  intro state o hs
  have hbalanced := hs.balanced.neutral (hneutral state)
  exact ⟨hbalanced, .cons (fun _ => hbalanced) hs.always⟩

theorem keeps_modifyTable (f : ActionTable → ActionTable) :
    Keeps (BalancedUntil initial) (Conserved initial) (modifyTable f) :=
  Leads.modifyTable fun _ _ hs => ⟨hs.balanced, hs.always⟩

theorem keeps_onTable (f : ActionTable → α × ActionTable) :
    Keeps (BalancedUntil initial) (Conserved initial) (onTable f) :=
  Leads.onTable fun _ _ hs => ⟨hs.balanced, hs.always⟩

theorem keeps_setInterruptsMasked (masked : Bool) :
    Keeps (BalancedUntil initial) (Conserved initial) (setInterruptsMasked masked) :=
  ⟨fun _ hs => ⟨hs.balanced, hs.always⟩⟩

theorem keeps_setConnected (connected : Bool) :
    Keeps (BalancedUntil initial) (Conserved initial) (Guest.setConnected connected) :=
  ⟨fun _ hs => ⟨hs.balanced, hs.always⟩⟩

theorem keeps_setSuspendPort (port : Option Port) :
    Keeps (BalancedUntil initial) (Conserved initial) (setSuspendPort port) :=
  ⟨fun _ hs => ⟨hs.balanced, hs.always⟩⟩

theorem keeps_modifyPage {f : SharedPage → SharedPage} (h : ∀ page, (f page).pending = page.pending) :
    Keeps (BalancedUntil initial) (Conserved initial) (modifyPage f) := by
  apply Leads.modifyPage
  intro state o hs
  refine ⟨?_, hs.always⟩
  change Balanced initial (f state.page).pending o
  rw [h]
  exact hs.balanced

theorem leads_onPage {m : PageM α} {next : α → Bitmap 64 → Bitmap 64 → Prop}
    (h : ∀ page a after, m page = .ok a after → next a page.pending after.pending) :
    Leads (BalancedUntil initial) (Conserved initial) (onPage m) fun a =>
      Written initial (next a) := by
  apply Leads.onPage
  intro state o hs
  cases hrun : m state.page with
  | ok a after => exact ⟨hs.always, state.page.pending, hs.balanced, h _ _ _ hrun⟩
  | error e after => exact hs.always

theorem keeps_onPage {m : PageM α} (h : PageM.Retains SharedPage.pending m) :
    Keeps (BalancedUntil initial) (Conserved initial) (onPage m) := by
  have hrun : Leads (BalancedUntil initial) (Conserved initial) (onPage m) fun _ =>
      Written initial fun old new => new = old := leads_onPage fun page a after => h page a after
  apply hrun.of_post
  intro _ s hs
  obtain ⟨halways, old, hold, hnext⟩ := hs
  exact ⟨hnext ▸ hold, halways⟩

theorem keeps_unmask (port : Port) :
    Keeps (BalancedUntil initial) (Conserved initial) (Guest.unmask port) :=
  Guest.keeps_unmask (fun _ => True) (fun _ _ => trivial)
    (keeps_onPage (PageM.retains_unmaskAt (fun _ _ _ => rfl) _ _))
    fun _ _ => keeps_onPage (PageM.retains_alertWord (fun _ _ => rfl) _)

/-- The events lost with the whole bitmap are those of the bitmap that was there. -/
theorem keeps_drop : Keeps (BalancedUntil initial) (Conserved initial) (do
    let pending := (← channels).page.pending
    modifyPage fun page => page.clearPendingAll
    emit (c.platform depth) (.pendingDropped pending)) := by
  apply Leads.channels.bind
  intro seen
  have hclear : Leads (BalancedUntil initial)
      (fun s => Conserved initial s ∧ s.channels = seen)
      (modifyPage fun page => page.clearPendingAll) fun _ =>
      Written initial fun old new => old = seen.page.pending ∧ new = .replicate 64 .empty := by
    apply Leads.modifyPage
    intro state o hs
    obtain ⟨hs, rfl⟩ := hs
    exact ⟨hs.always, _, hs.balanced, rfl, rfl⟩
  apply hclear.bind
  intro _
  apply Client.leads_emit
  intro state o hs
  obtain ⟨halways, old, hold, rfl, hnew⟩ := hs
  have hbalanced : Balanced initial state.page.pending
      (.saw depth (.pendingDropped seen.page.pending) state :: o) := by
    rw [hnew]
    exact hold.dropped
  exact ⟨hbalanced, .cons (fun _ => hbalanced) halways⟩

theorem keeps_discardPending :
    Keeps (BalancedUntil initial) (Conserved initial) (discardPending (c.platform depth)) := by
  have hsplit : discardPending (c.platform depth) = (do
      let pending := (← channels).page.pending
      modifyPage fun page => page.clearPendingAll
      emit (c.platform depth) (.pendingDropped pending)) >>= fun _ =>
        modifyPage fun s => s.modifyVcpus fun v => v.reset.maskUpcall true := by
    simp only [discardPending, bind_assoc]
  rw [hsplit]
  exact keeps_drop.bind fun _ => keeps_modifyPage fun _ => rfl

theorem keepsRemarks :
    KeepsRemarks (c.platform depth) (BalancedUntil initial) (Conserved initial) :=
  fun _ _ => keeps_emit fun _ _ _ => ⟨rfl, rfl, rfl⟩

theorem keeps_enqueue (port : Port) :
    Keeps (BalancedUntil initial) (Conserved initial) (enqueue (c.platform depth) port) :=
  Guest.keeps_enqueue (keeps_onTable _) fun _ => keeps_emit fun _ _ _ => ⟨rfl, rfl, rfl⟩

theorem keeps_cancel (port : Port) :
    Keeps (BalancedUntil initial) (Conserved initial) (cancel (c.platform depth) port) :=
  Guest.keeps_cancel (keeps_onTable _) fun _ => keeps_emit fun _ _ _ => ⟨rfl, rfl, rfl⟩

theorem slotIndifferent :
    SlotIndifferent (c.platform depth) (BalancedUntil initial) (Conserved initial) where
  modifySlot _ := keeps_modifyTable _
  cancel := keeps_cancel
  setOutstanding _ := keeps_onTable _
  acknowledge _ := keeps_onTable _
  note := keepsRemarks
  actionDropped _ _ _ := keeps_emit fun _ _ _ => ⟨rfl, rfl, rfl⟩
  published _ _ := keeps_emit fun _ _ _ => ⟨rfl, rfl, rfl⟩
  slotReset _ := keeps_emit fun _ _ _ => ⟨rfl, rfl, rfl⟩
  readerTaken _ := keeps_emit fun _ _ _ => ⟨rfl, rfl, rfl⟩
  readerReleased _ := keeps_emit fun _ _ _ => ⟨rfl, rfl, rfl⟩

section Calls

variable (hcall : ∀ r, Keeps (BalancedUntil initial) (Conserved initial)
  (call (c.platform depth) r))

include hcall

theorem stable : Stable (c.platform depth) (BalancedUntil initial) (Conserved initial) :=
  ⟨fun r _ _ _ => hcall r, keepsRemarks⟩

theorem keeps_deliver (port : Port) :
    Keeps (BalancedUntil initial) (Conserved initial) (deliver (c.platform depth) port) :=
  keeps_deliver_of_starts (stable hcall) (hcall _) (fun _ => hcall _) (keeps_onTable _)
    (fun _ _ => keeps_emit fun _ _ _ => ⟨rfl, rfl, rfl⟩) (fun _ => keeps_onTable _) keeps_enqueue

/-- A pass consumes only bits that are pending. -/
theorem leads_consume (word bit : Fin 64) : Leads (BalancedUntil initial)
    (fun s => Conserved initial s ∧ (s.channels.page.ready word).test bit = true)
    (consume (c.platform depth) word bit) fun _ => Conserved initial := by
  have hclear : Leads (BalancedUntil initial)
      (fun s => Conserved initial s ∧ (s.channels.page.ready word).test bit = true)
      (discard <| onPage (PageM.clearAt word bit)) fun _ =>
      Written initial fun old new => old.test word bit = true ∧ new = old.erase word bit := by
    apply Leads.discard
    apply Leads.onPage
    intro state o hs
    obtain ⟨hs, hready⟩ := hs
    rw [SharedPage.test_ready, Bool.and_eq_true] at hready
    rw [PageM.clearAt_run]
    exact ⟨hs.always, _, hs.balanced, hready.1, rfl⟩
  apply hclear.bind
  intro _
  have hseen : Leads (BalancedUntil initial)
      (Written initial fun old new => old.test word bit = true ∧ new = old.erase word bit)
      (emit (c.platform depth) (.consumed word bit)) fun _ => Conserved initial := by
    apply Client.leads_emit
    intro state o hs
    obtain ⟨halways, old, hold, htest, hnew⟩ := hs
    have hbalanced : Balanced initial state.page.pending
        (.saw depth (.consumed word bit) state :: o) := by
      rw [hnew]
      exact hold.erase htest (fun _ _ => rfl) fun _ _ => by simp [Entry.consumes, Entry.removes]
    exact ⟨hbalanced, .cons (fun _ => hbalanced) halways⟩
  apply hseen.bind
  intro _
  split
  · exact keeps_deliver hcall _
  · exact (keepsRemarks _ rfl).bind fun _ => .pure _

theorem keeps_runWord (word : Fin 16) :
    Keeps (BalancedUntil initial) (Conserved initial) (runWord (c.platform depth) word) :=
  Guest.keeps_runWord (fun _ => keeps_onTable _) (fun _ => leads_runItem (stable hcall)
    (keeps_onTable _) (keeps_emit fun _ _ _ => ⟨rfl, rfl, rfl⟩) fun _ => hcall _) word

theorem keeps_channels (op : ChannelOperation) :
    Keeps (BalancedUntil initial) (Conserved initial) (op.run (c.platform depth)) := by
  have hstable := stable hcall
  have hparts : ChannelOperation.Parts (c.platform depth) (BalancedUntil initial)
      (Conserved initial) :=
    ⟨hstable, slotIndifferent.publish, slotIndifferent.dropAction, keeps_cancel,
      fun _ => (keeps_onPage (PageM.retains_mask (fun _ _ _ => rfl) _)).discard,
      keeps_unmask⟩
  have hupcalls (masked : Bool) :
      Keeps (BalancedUntil initial) (Conserved initial) (maskUpcalls masked) :=
    keeps_modifyPage fun _ => rfl
  have hquiesce : Keeps (BalancedUntil initial) (Conserved initial)
      (quiesce : Guest History Unit) :=
    keeps_quiesce (keeps_setInterruptsMasked true) (hupcalls true)
  have hinit : Keeps (BalancedUntil initial) (Conserved initial)
      (Guest.init (c.platform depth)) :=
    keeps_init hstable hquiesce keeps_setSuspendPort (keeps_modifyPage fun _ => rfl)
      (keeps_resetTable slotIndifferent.resetSlot) keeps_discardPending (hupcalls false)
      (keeps_setInterruptsMasked false)
      (keeps_reserveSuspendPort hstable (fun port => slotIndifferent.publish port _)
        keeps_unmask)
  apply hparts.run
  · exact hparts.lifecycle hinit hquiesce keeps_setSuspendPort
  · exact ChannelOperation.keeps_line hstable (fun r _ => hcall r) keeps_setConnected
  · intro _
    exact keeps_scannerPass hstable
      (fun _ => keeps_onPage (PageM.retains_updateVcpu (fun _ _ => rfl) _))
      (fun _ => keeps_onPage (PageM.retains_drainSelector (fun _ _ => rfl) _)) (leads_consume hcall)
  · exact fun _ => keeps_deferredPass hstable (keeps_runWord hcall)
  · exact fun _ _ => keeps_onTable _

theorem keeps_table (op : TableOperation) :
    Keeps (BalancedUntil initial) (Conserved initial) (op.run (c.platform depth)) := by
  have hword : ∀ word, Keeps (BalancedUntil initial) (Conserved initial)
      (runWordAt (c.platform depth) word) :=
    keeps_runWordAt (keeps_runWord hcall) fun _ hs => hs.always
  apply slotIndifferent.table (stable hcall)
  exact TableOperation.keeps_moveWork keeps_enqueue (fun _ => keeps_onTable _) hword

end Calls

theorem keeps_vcpu (vcpu : Nat) (op : VcpuOperation) :
    Keeps (BalancedUntil initial) (Conserved initial) (op.run vcpu : Guest History Report) := by
  apply VcpuOperation.keeps_run_of
  have hupdate (f : VcpuSlot → VcpuSlot) :
      Keeps (BalancedUntil initial) (Conserved initial) (onPage (PageM.updateVcpu vcpu f)) :=
    keeps_onPage (PageM.retains_updateVcpu (fun _ _ => rfl) vcpu)
  cases op with
  | isUpcallPending | isUpcallMasked | selector => exact keeps_onPage (PageM.retains_readVcpu _)
  | clearUpcall | raiseUpcall | maskUpcall | reset => exact hupdate _
  | drainSelector => exact keeps_onPage (PageM.retains_drainSelector (fun _ _ => rfl) _)
  | flagWord => exact keeps_onPage (PageM.retains_flagWord (fun _ _ => rfl) _)

end Conserved

end EventChannel
