import EventChannel.Proofs.Wakeup.Invariant

namespace EventChannel.Wakeful

open Guest

variable {v : Fin 32} {H : Nat → History → Prop} {n : Nat} {promised : Fin 64 → Fin 64 → Prop}
  {lost : System History → Prop} {c : Client} {depth : Nat} {port : Port}

/-- The port whose mask bit is cleared is all that the alert has to make up for. -/
theorem leads_unmask : Leads lost (Wakeful v H n promised) (Guest.unmask port) fun _ s =>
    Wakeful v H n promised s ∧ (s.channels.page.isPending port = true →
      (s.channels.page.vcpu v).selector.test port.pageWord = true) := by
  have hclear : Leads lost (Wakeful v H n promised) (discard <| onPage (PageM.unmask port))
      fun _ => Wakeful v H n fun w b => promised w b ∨ w = port.pageWord ∧ b = port.bit := by
    apply Leads.discard
    exact leads_onPage fun page hpage => ⟨_, _, PageM.unmask_run page port, hpage.clearMask⟩
  apply hclear.bind
  intro _
  apply Leads.channels.bind
  intro state
  split
  next hpending =>
    apply Leads.config.bind
    intro config
    constructor
    rintro ⟨current, o⟩ ⟨⟨hs, rfl⟩, rfl⟩
    have hrun := PageM.alertWord_run current.page port.pageWord v
    simp only [Guest.onPage, PageM.alert]
    rw [hs.config, hrun]
    refine ⟨⟨hs.config, hs.page.alert.mono ?_, hs.account⟩, fun _ => ?_⟩
    · intro w b h
      obtain ⟨hprom | ⟨rfl, _⟩, hne⟩ := h
      · exact hprom
      · exact absurd rfl hne
    · simp only [SharedPage.vcpu_modifyVcpu_self, VcpuSlot.selector_alert, Word.test_insert,
        decide_true, Bool.true_or]
  next hpending =>
    apply Leads.pure
    rintro ⟨current, o⟩ ⟨hs, rfl⟩
    refine ⟨⟨hs.config, hs.page.keep ?_, hs.account⟩, fun hp => absurd hp hpending⟩
    rintro w b hready (hprom | ⟨rfl, rfl⟩)
    · exact hprom
    · rw [SharedPage.test_ready, Bool.and_eq_true] at hready
      exact absurd hready.1 hpending

theorem keeps_unmask : Keeps lost (Wakeful v H n promised) (Guest.unmask port) :=
  Leads.of_post leads_unmask fun _ _ hs => hs.1

/-- Whatever the page held before, it is announced once all pending state is discarded. -/
theorem leads_discardPending {pre : System History → Prop}
    (hpre : ∀ s, pre s → s.channels.config.upcallVcpu = v ∧ H n s.outside)
    (hclear : Keeps lost pre (modifyPage fun page => page.clearPendingAll))
    (hseen : ∀ pending, Keeps lost
      (fun s => pre s ∧ s.channels.page.pending = .replicate 64 .empty)
      (emit (c.platform depth) (.pendingDropped pending))) :
    Leads lost pre (discardPending (c.platform depth)) fun _ => Wakeful v H n promised := by
  have hcleared : Leads lost pre (modifyPage fun page => page.clearPendingAll) fun _ s =>
      pre s ∧ s.channels.page.pending = .replicate 64 .empty :=
    Leads.and hclear (Leads.modifyPage fun _ _ _ => rfl)
  apply (Leads.channels.of_post fun _ _ hs => hs.1).bind
  intro state
  apply hcleared.bind
  intro _
  apply Leads.bind (hseen _)
  intro _
  apply Leads.modifyPage
  intro current o hs
  obtain ⟨hs, hnone⟩ := hs
  obtain ⟨hconfig, haccount⟩ := hpre _ hs
  let next := current.page.modifyVcpus fun slot => slot.reset.maskUpcall true
  have hselector : (next.vcpu v).selector = .empty := by
    rw [SharedPage.vcpu_modifyVcpus]
    rfl
  have hpage : next.Announced v := SharedPage.announced_of_clear hnone hselector
  exact ⟨hconfig, hpage.but, haccount⟩

theorem keeps_discardPending (hH : PassAccount v H) (hidle : n = 0 → ∀ w b, ¬promised w b) :
    Keeps lost (Wakeful v H n promised) (discardPending (c.platform depth)) := by
  have hclear : Keeps lost (Wakeful v H n promised)
      (modifyPage fun page => page.clearPendingAll) :=
    keeps_modifyPage fun _ hpage => hpage.clearPendingAll
  apply leads_discardPending (fun s hs => ⟨hs.config, hs.account⟩) hclear
  intro pending
  apply Client.leads_emit
  intro state o hs
  obtain ⟨hs, hnone⟩ := hs
  have hseen : Wakeful v H n promised ⟨state, .saw depth (.pendingDropped pending) state :: o⟩ :=
    ⟨hs.config, hs.page, hH.other rfl trivial hs.account (hs.announced hidle)⟩
  exact ⟨hseen, hnone⟩

theorem keeps_enqueue (hH : PassAccount v H) (i : PassStage) (port : Port) :
    Keeps lost (Wakeful v H i.passes i.promised) (enqueue (c.platform depth) port) :=
  Guest.keeps_enqueue (keeps_onTable _) fun _ => keeps_emit hH i.idle _

section Pass

variable (hH : PassAccount v H)
  (hcall : ∀ (i : PassStage) r, Keeps lost (Wakeful v H i.passes i.promised)
    (call (c.platform depth) r))

include hH hcall

theorem stable (i : PassStage) :
    Stable (c.platform depth) lost (Wakeful v H i.passes i.promised) :=
  ⟨fun r _ _ _ => hcall i r, fun n _ => keeps_emit hH i.idle (.noticed n)⟩

theorem keeps_deliver (i : PassStage) (port : Port) :
    Keeps lost (Wakeful v H i.passes i.promised) (deliver (c.platform depth) port) :=
  keeps_deliver_of_starts (stable hH hcall i) (hcall i _) (fun _ => hcall i _) (keeps_onTable _)
    (fun _ _ => keeps_emit hH i.idle _) (fun _ => keeps_onTable _) (keeps_enqueue hH i)

/-- Consuming a bit takes its promise back, since it is no longer pending. -/
theorem leads_consume (word bit : Fin 64) :
    Leads lost (Wakeful v H (n + 1) promised) (consume (c.platform depth) word bit) fun _ =>
      Wakeful v H (n + 1) fun w b => promised w b ∧ ¬(w = word ∧ b = bit) := by
  let i : PassStage := ⟨n + 1, fun w b => promised w b ∧ ¬(w = word ∧ b = bit), by simp⟩
  have hclear : Leads lost (Wakeful v H (n + 1) promised)
      (discard <| onPage (PageM.clearAt word bit)) fun _ => Wakeful v H i.passes i.promised := by
    apply Leads.discard
    exact leads_onPage fun page hpage => ⟨_, _, PageM.clearAt_run page word bit, hpage.clearPending⟩
  apply hclear.bind
  intro _
  apply (keeps_emit hH i.idle _).bind
  intro _
  split
  · exact keeps_deliver hH hcall i _
  · exact ((stable hH hcall i).note _ rfl).bind fun _ => .pure _

/-- While a word is scanned, the pass owes its bits that were not serviced yet and all bits of the
words to come. -/
theorem leads_scanWord (word : Fin 64) (words : List (Fin 64)) (outcome : PassOutcome) :
    Leads lost (Wakeful v H (n + 1) fun w b => promised w b ∨ w ∈ word :: words)
      (scanWord (c.platform depth) word .empty outcome) fun _ =>
      Wakeful v H (n + 1) fun w b => promised w b ∨ w ∈ words := by
  let owed (serviced : Word) (w b : Fin 64) : Prop :=
    promised w b ∨ w ∈ words ∨ w = word ∧ serviced.test b = false
  have hconsume (serviced : Word) (bit : Fin 64) : Leads lost
      (fun s => Wakeful v H (n + 1) (owed serviced) s ∧
        (s.channels.page.ready word).test bit = true)
      (consume (c.platform depth) word bit) fun _ =>
        Wakeful v H (n + 1) (owed (serviced.insert bit)) := by
    apply (leads_consume hH hcall word bit).weaken fun s hs => hs.1
    intro _ s hs
    refine ⟨hs.config, hs.page.mono ?_, hs.account⟩
    intro w b h
    obtain ⟨hprom | hw | ⟨rfl, hb⟩, hne⟩ := h
    · exact .inl hprom
    · exact .inr (.inl hw)
    · refine .inr (.inr ⟨rfl, ?_⟩)
      rw [Word.test_insert, hb, Bool.or_false, decide_eq_false_iff_not]
      exact fun he => hne ⟨rfl, he.symm⟩
  apply (Guest.leads_scanWord (fun serviced bit _ => hconsume serviced bit) .empty outcome).weaken
  · intro s hs
    refine ⟨hs.config, hs.page.mono ?_, hs.account⟩
    rintro w b (hprom | hw)
    · exact .inl hprom
    rcases List.mem_cons.1 hw with rfl | hw
    · exact .inr (.inr ⟨rfl, Word.test_empty b⟩)
    · exact .inr (.inl hw)
  · intro _ s hs
    obtain ⟨done, hs, hdone⟩ := hs
    refine ⟨hs.config, hs.page.keep ?_, hs.account⟩
    rintro w b hready (hprom | hw | ⟨rfl, hb⟩)
    · exact .inl hprom
    · exact .inr hw
    · rw [hdone b hready] at hb
      cases hb

/-- Draining turns the selector into promises, which the scan of its words redeems. -/
theorem keeps_scannerPass :
    Keeps lost (Wakeful v H (n + 1) promised) (scannerPass (c.platform depth)) := by
  let i : PassStage := ⟨n + 1, promised, by simp⟩
  apply Keeps.interruptsMasked.bind
  intro masked
  split
  · exact ((stable hH hcall i).note _ rfl).bind fun _ => .pure _
  apply Leads.config.bind
  intro config
  have hclear : Leads lost (fun s => Wakeful v H (n + 1) promised s ∧ s.channels.config = config)
      (onPage (PageM.updateVcpu config.upcallVcpu VcpuSlot.clearUpcall)) fun _ s =>
      config.upcallVcpu = v ∧ ∃ page, Wakeful v H (n + 1) promised
        ⟨{ s.channels with page }, s.outside⟩ ∧
        s.channels.page = page.modifyVcpu v VcpuSlot.clearUpcall := by
    apply Leads.onPage
    intro state o hs
    obtain ⟨hs, rfl⟩ := hs
    have hrun := PageM.updateVcpu_run state.page v VcpuSlot.clearUpcall
    rw [hs.config, hrun]
    exact ⟨rfl, state.page, hs, rfl⟩
  apply hclear.bind
  intro _
  have hdrain : Leads lost (fun s : System History => config.upcallVcpu = v ∧ ∃ page,
      Wakeful v H (n + 1) promised ⟨{ s.channels with page }, s.outside⟩ ∧
        s.channels.page = page.modifyVcpu v VcpuSlot.clearUpcall)
      (onPage (PageM.drainSelector config.upcallVcpu)) fun selector =>
      Wakeful v H (n + 1) fun w b => promised w b ∨ w ∈ selector.toList := by
    apply Leads.onPage
    intro state o hs
    obtain ⟨hconfig, page, hs, hpage⟩ := hs
    rw [hconfig, PageM.drainSelector_run, hpage]
    refine ⟨hs.config, hs.page.drained.mono ?_, hs.account⟩
    intro w b hprom
    rw [SharedPage.vcpu_modifyVcpu_self, Word.mem_toList]
    exact hprom
  apply hdrain.bind
  intro selector
  let owed (words : List (Fin 64)) : System History → Prop :=
    Wakeful v H (n + 1) fun w b => promised w b ∨ w ∈ words
  have hword (word : Fin 64) (words : List (Fin 64)) (outcome : PassOutcome) :
      Leads lost (owed (word :: words)) (scanWord (c.platform depth) word .empty outcome)
        fun _ => owed words := leads_scanWord hH hcall word words outcome
  rw [scanSelector_eq]
  apply (leads_scanWords hword selector.toList .empty).of_post
  intro _ s hs
  exact ⟨hs.config, hs.page.mono fun w b hprom => hprom.resolve_right List.not_mem_nil, hs.account⟩

end Pass

end EventChannel.Wakeful
