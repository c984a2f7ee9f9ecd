import EventChannel.Proofs.Wakeup.Pass

namespace EventChannel

open Guest

namespace Wakeful

variable {v : Fin 32} {H : Nat → History → Prop} {lost : System History → Prop} {c : Client}
  {depth : Nat}

section Operations

variable (hH : PassAccount v H)
  (hcall : ∀ (i : PassStage) r, Keeps lost (Wakeful v H i.passes i.promised)
    (call (c.platform depth) r))
  (i : PassStage)

include hH in
theorem keeps_cancel (port : Port) :
    Keeps lost (Wakeful v H i.passes i.promised) (cancel (c.platform depth) port) :=
  Guest.keeps_cancel (keeps_onTable _) fun _ => keeps_emit hH i.idle _

include hH in
theorem slotIndifferent :
    SlotIndifferent (c.platform depth) lost (Wakeful v H i.passes i.promised) where
  modifySlot _ := keeps_modifyTable _
  cancel := keeps_cancel hH i
  setOutstanding _ := keeps_onTable _
  acknowledge _ := keeps_onTable _
  note n _ := keeps_emit hH i.idle (.noticed n)
  actionDropped _ _ _ := keeps_emit hH i.idle _
  published _ _ := keeps_emit hH i.idle _
  slotReset _ := keeps_emit hH i.idle _
  readerTaken _ := keeps_emit hH i.idle _
  readerReleased _ := keeps_emit hH i.idle _

include hH hcall in
theorem parts :
    ChannelOperation.Parts (c.platform depth) lost (Wakeful v H i.passes i.promised) where
  stable := stable hH hcall i
  publish := (slotIndifferent hH i).publish
  dropAction := (slotIndifferent hH i).dropAction
  cancel := keeps_cancel hH i
  mask _ := keeps_mask
  unmask _ := keeps_unmask

include hH hcall in
theorem keeps_reserveSuspendPort :
    Keeps lost (Wakeful v H i.passes i.promised) (reserveSuspendPort (c.platform depth)) :=
  Guest.keeps_reserveSuspendPort (stable hH hcall i)
    (fun port => (slotIndifferent hH i).publish port _) fun _ => keeps_unmask

include hH hcall in
/-- A scanner pass is left out, since it is one more pass under way. -/
theorem keeps_run (op : ChannelOperation) (hop : op ≠ .scannerPass) :
    Keeps lost (Wakeful v H i.passes i.promised) (op.run (c.platform depth)) := by
  have hstable := stable hH hcall i
  have hquiesce : Keeps lost (Wakeful v H i.passes i.promised) (quiesce : Guest History Unit) :=
    keeps_quiesce (keeps_setInterruptsMasked true) (keeps_maskUpcalls true)
  have hinit : Keeps lost (Wakeful v H i.passes i.promised) (Guest.init (c.platform depth)) :=
    keeps_init hstable hquiesce keeps_setSuspendPort (keeps_modifyPage fun _ hpage => hpage.maskAll)
      (keeps_resetTable (slotIndifferent hH i).resetSlot) (keeps_discardPending hH i.idle)
      (keeps_maskUpcalls false) (keeps_setInterruptsMasked false)
      (keeps_reserveSuspendPort hH hcall i)
  have hitem (port : Port) :
      Keeps lost (Wakeful v H i.passes i.promised) (runItem (c.platform depth) port) :=
    leads_runItem hstable (keeps_onTable _) (keeps_emit hH i.idle _) fun _ => hcall i _
  have hparts := parts hH hcall i
  apply hparts.run
  · exact hparts.lifecycle hinit hquiesce keeps_setSuspendPort
  · exact ChannelOperation.keeps_line hstable (fun r _ => hcall i r) keeps_setConnected
  · exact fun he => absurd he hop
  · exact fun _ => keeps_deferredPass hstable (keeps_runWord (fun _ => keeps_onTable _) hitem)
  · exact fun _ _ => keeps_onTable _

theorem keeps_raiseAt (w b : Fin 64) :
    Keeps lost (Wakeful v H i.passes i.promised) (onPage (PageM.raiseAt w b v)) :=
  leads_onPage fun _ hpage => hpage.raiseAt

include hH in
theorem keeps_page {op : PageOperation} (hop : Operation.Wakes v (.page op)) :
    Keeps lost (Wakeful v H i.passes i.promised) (op.run (c.platform depth)) := by
  have hemit {happened : Bool} {word : Nat} {event : Fin 64 → Event} :
      Keeps lost (Wakeful v H i.passes i.promised)
        (PageOperation.emitIf (c.platform depth) happened word event) :=
    PageOperation.keeps_emitIf fun _ => keeps_emit hH i.idle _
  cases op with
  | mask port =>
    have hmask : Keeps lost (Wakeful v H i.passes i.promised) (onPage (PageM.mask port)) :=
      leads_onPage fun page hpage => ⟨_, _, PageM.mask_run page port, hpage.setMask⟩
    exact hmask.bind fun _ => .pure _
  | clear port =>
    have hclear : Keeps lost (Wakeful v H i.passes i.promised) (onPage (PageM.clear port)) :=
      leads_onPage fun page hpage =>
        ⟨_, _, PageM.clear_run page port, hpage.clearPending.mono fun _ _ hprom => hprom.1⟩
    exact hclear.bind fun _ => hemit.bind fun _ => .pure _
  | maskAll => exact (keeps_modifyPage fun _ hpage => hpage.maskAll).bind fun _ => .pure _
  | clearAll =>
    apply Keeps.channels.bind
    intro state
    apply (keeps_modifyPage fun _ hpage => hpage.clearPendingAll).bind
    intro _
    exact (keeps_emit hH i.idle _).bind fun _ => .pure _
  | raise port target =>
    obtain rfl : target = v := hop
    exact (keeps_raiseAt i port.pageWord port.bit).bind fun _ => hemit.bind fun _ => .pure _
  | raiseAt word bit target =>
    obtain ⟨hword, rfl⟩ : word < 64 ∧ target = v := hop
    exact (keeps_raiseAt i ⟨word, hword⟩ bit).bind fun _ => hemit.bind fun _ => .pure _
  | unmask | isMasked | isPending | unmaskAt | clearAt | ready | alert => exact hop.elim

include hH in
theorem keeps_logged_of_run {op : Operation} (hpass : op.isPass = false)
    (hother : ∀ port, op ≠ .channels (.unmask port))
    (hrun : Keeps lost (Wakeful v H i.passes i.promised) (op.run (c.platform depth))) :
    Keeps lost (Wakeful v H i.passes i.promised) (op.logged (c.platform depth) depth) := by
  have hbegan : Keeps lost (Wakeful v H i.passes i.promised) (record (.began depth op)) :=
    keeps_record hH i.idle (fun _ => rfl) (fun _ => hpass) fun _ => trivial
  apply Operation.keeps_logged hbegan hrun
  intro result
  exact keeps_record hH i.idle (fun _ => rfl) (fun _ => hpass) fun _ => Entry.reflags_ended hother

include hH hcall in
theorem keeps_logged_scannerPass : Keeps lost (Wakeful v H i.passes i.promised)
    ((Operation.channels .scannerPass).logged (c.platform depth) depth) := by
  have hbegan : Leads lost (Wakeful v H i.passes i.promised)
      (record (.began depth (.channels .scannerPass))) fun _ =>
      Wakeful v H (i.passes + 1) i.promised := by
    apply Leads.record
    intro state o hs
    exact ⟨hs.config, hs.page, hH.began hs.account (hs.announced i.idle)⟩
  have hrun : Keeps lost (Wakeful v H (i.passes + 1) i.promised)
      ((Operation.channels .scannerPass).run (c.platform depth)) :=
    (keeps_scannerPass hH hcall).bind fun _ => .pure _
  apply Operation.keeps_logged hbegan hrun
  intro result
  apply Leads.record
  intro state o hs
  exact ⟨hs.config, hs.page, hH.ended hs.account fun hn => hs.page.announced (i.idle hn)⟩

include hH in
theorem keeps_logged_unmask (port : Port) : Keeps lost (Wakeful v H i.passes i.promised)
    ((Operation.channels (.unmask port)).logged (c.platform depth) depth) := by
  have hbegan : Keeps lost (Wakeful v H i.passes i.promised)
      (record (.began depth (.channels (.unmask port)))) :=
    keeps_record hH i.idle (fun _ => rfl) (fun _ => rfl) fun _ => trivial
  have hrun : Leads lost (Wakeful v H i.passes i.promised)
      ((Operation.channels (.unmask port)).run (c.platform depth)) fun _ s =>
      Wakeful v H i.passes i.promised s ∧ (s.channels.page.isPending port = true →
        (s.channels.page.vcpu v).selector.test port.pageWord = true) :=
    leads_unmask.bind fun _ => .pure fun _ => id
  apply Operation.keeps_logged hbegan hrun
  intro result
  apply Leads.record
  intro state o hs
  obtain ⟨hs, hflagged⟩ := hs
  refine ⟨hs.config, hs.page, hH.other rfl ?_ hs.account (hs.announced i.idle)⟩
  intro hpending
  refine ⟨hflagged hpending, hs.page.alerted fun hempty => ?_⟩
  have hflag := hflagged hpending
  rw [hempty, Word.test_empty] at hflag
  cases hflag

include hH hcall in
theorem keeps_logged {op : Operation} (hop : op.Wakes v) :
    Keeps lost (Wakeful v H i.passes i.promised) (op.logged (c.platform depth) depth) := by
  cases op with
  | page op =>
    have hrun : Keeps lost (Wakeful v H i.passes i.promised)
        ((Operation.page op).run (c.platform depth)) :=
      (keeps_page hH i hop).bind fun _ => .pure _
    exact keeps_logged_of_run hH i rfl nofun hrun
  | vcpu => exact hop.elim
  | table op =>
    have hrun : Keeps lost (Wakeful v H i.passes i.promised)
        ((Operation.table op).run (c.platform depth)) :=
      (slotIndifferent hH i).table_of_idle (stable hH hcall i) hop
    exact keeps_logged_of_run hH i rfl nofun hrun
  | channels op =>
    by_cases hscan : op = .scannerPass
    · subst hscan
      exact keeps_logged_scannerPass hH hcall i
    by_cases hunmask : ∃ port, op = .unmask port
    · obtain ⟨port, rfl⟩ := hunmask
      exact keeps_logged_unmask hH i port
    have hpass : (Operation.channels op).isPass = false := by
      cases op with
      | scannerPass => exact absurd rfl hscan
      | _ => rfl
    have hrun : Keeps lost (Wakeful v H i.passes i.promised)
        ((Operation.channels op).run (c.platform depth)) := keeps_run hH hcall i op hscan
    apply keeps_logged_of_run hH i hpass _ hrun
    intro port he
    cases he
    exact hunmask ⟨port, rfl⟩

end Operations

theorem maintains (hH : PassAccount v H)
    (hc : ∀ r history, (c.respond r history).Within (Operation.Wakes v)) (limit : Nat) :
    c.Maintains limit lost (fun i : PassStage => Wakeful v H i.passes i.promised)
      (fun i _ => Wakeful v H i.passes i.promised) fun _ => Operation.Wakes v where
  respond _ r s _ := hc r s.outside
  called i _ _ := keeps_record hH i.idle (fun _ => rfl) (fun _ => rfl) fun _ => trivial
  answered i _ _ _ := keeps_record hH i.idle (fun _ => rfl) (fun _ => rfl) fun _ => trivial
  logged _ _ hcall i _ hop := keeps_logged hH hcall i hop

/-- Before the pending state is discarded the page may be anything. -/
theorem leads_init
    (hcall : ∀ (i : PassStage) r, Keeps lost (Wakeful v (fun _ _ => True) i.passes i.promised)
      (call (c.platform depth) r)) :
    Leads lost (fun s => s.channels.config.upcallVcpu = v) (Guest.init (c.platform depth))
      fun result s => ∀ port, result = .ok port →
        Wakeful v (fun _ _ => True) 0 (fun _ _ => False) s := by
  let J (s : System History) : Prop := s.channels.config.upcallVcpu = v
  let idle : PassStage := ⟨0, fun _ _ => False, fun _ _ _ => id⟩
  let W : System History → Prop := Wakeful v (fun _ _ => True) idle.passes idle.promised
  have hH := passAccount_trivial v
  have hseen (e : Event) : Keeps lost J (emit (c.platform depth) e) :=
    Client.leads_emit fun _ _ hs => hs
  have htable (f : ActionTable → ActionTable) : Keeps lost J (modifyTable f) :=
    Leads.modifyTable fun _ _ hs => hs
  have hon {α : Type} (f : ActionTable → α × ActionTable) : Keeps lost J (onTable f) :=
    Leads.onTable fun _ _ hs => hs
  have hpage (f : SharedPage → SharedPage) : Keeps lost J (modifyPage f) :=
    Leads.modifyPage fun _ _ hs => hs
  have hmasked (masked : Bool) : Keeps lost J (setInterruptsMasked masked) := ⟨fun _ hs => hs⟩
  have hport (port : Option Port) : Keeps lost J (setSuspendPort port) := ⟨fun _ hs => hs⟩
  have hcancel (port : Port) : Keeps lost J (cancel (c.platform depth) port) :=
    Guest.keeps_cancel (hon _) fun _ => hseen _
  have hreset : Keeps lost J (resetTable (c.platform depth)) :=
    Guest.keeps_resetTable fun port => Guest.keeps_resetSlot (fun n _ => hseen (.noticed n)) (htable _)
      (hcancel port) (htable _) (hon _) (hseen _) (htable _)
  have hdiscard : Leads lost J (discardPending (c.platform depth)) fun _ => W := by
    apply leads_discardPending fun s hs => ⟨hs, trivial⟩
    · exact hpage _
    · exact fun pending => Client.leads_emit fun _ _ hs => hs
  have hrequiesce : Leads lost W (quiesce : Guest History Unit) fun _ => J :=
    Leads.of_post (keeps_quiesce (keeps_setInterruptsMasked true) (keeps_maskUpcalls true))
      fun _ _ hs => hs.config
  have hinit := Guest.leads_init (keeps_quiesce (hmasked true) (hpage _)) (hport none) (hpage _)
    (hreset.of_post (by rintro (e | _) s hs <;> exact hs)) hdiscard
    (fun value => hcall idle (.setParam .callbackIrq value)) (keeps_maskUpcalls false)
    (keeps_setInterruptsMasked false)
    (keeps_reserveSuspendPort hH hcall idle) (fun port => keeps_setSuspendPort (some port))
    (fun n _ => keeps_emit hH idle.idle (.noticed n)) hrequiesce fun _ hs => hs.config
  apply hinit.of_post
  rintro (e | port) s hs port' he
  · cases he
  · exact hs

end Wakeful

/-- No wakeup is lost, however operations and callbacks are nested. The state need only be announced
at the start, as it is over a zeroed page and after any initialisation that succeeds. -/
theorem no_wakeup_is_lost {c : Client} {v : Fin 32}
    (hc : ∀ r history, (c.respond r history).Within (Operation.Wakes v)) :
    (∀ {α : Type} (depth : Nat) (program : Program α) (start : Channels),
      program.Within (Operation.Wakes v) → start.config.upcallVcpu = v → start.page.Announced v →
      (c.history depth program start).Always (Entry.KeepsWakeups v)) ∧
    (∀ config start, Channels.ofPage .zero config = .ok start →
      ∃ u : Fin 32, start.config.upcallVcpu = u ∧ start.page.Announced u) ∧
    ∀ (depth : Nat) (start : Channels) history port s, start.config.upcallVcpu = v →
      Guest.init (c.platform depth) ⟨start, history⟩ = .ok (.ok port) s →
      s.channels.config.upcallVcpu = v ∧ s.channels.page.Announced v := by
  let idle : PassStage := ⟨0, fun _ _ => False, fun _ _ _ => id⟩
  refine ⟨?_, ?_, ?_⟩
  · intro α depth program start hprogram hconfig hpage
    have hH := passAccount_wakeupsKept v
    have hmaintains : c.Maintains (depth + 1)
        (fun s => s.outside.Always (Entry.KeepsWakeups v)) _ _ _ := Wakeful.maintains hH hc _
    exact hmaintains.holds idle hprogram ⟨hconfig, hpage.but, rfl, .nil⟩
      fun s hs => hs.account.2
  · intro config start hstart
    obtain ⟨hvcpu, rfl⟩ := Channels.eq_of_ofPage hstart
    exact ⟨⟨config.upcallVcpu, hvcpu⟩, rfl, SharedPage.announced_zero⟩
  · intro depth start history port s hconfig hinit
    have hmaintains : c.Maintains depth (fun _ => True) _ _ _ :=
      Wakeful.maintains (passAccount_trivial v) hc depth
    have hleads := Wakeful.leads_init (hmaintains.call (Nat.le_refl depth))
    have hs := hleads.of_ok hconfig hinit port rfl
    exact ⟨hs.config, hs.page.announced fun _ _ => id⟩

theorem no_wakeup_is_lost_reraising :
    (∀ r history, (Client.reraising.respond r history).Within (Operation.Wakes 0)) ∧
    SharedPage.zero.Announced 0 ∧
    (Client.reraising.history 2
      (.sequence () [.channels .init, .page (.raise ⟨7⟩ 0), .channels (.bindInline ⟨7⟩ "service"),
        .channels .scannerPass, .channels (.mask ⟨7⟩), .channels (.unmask ⟨7⟩)])
      ⟨.zero, .powerOn, { callbackIrq := 5 }, true, false, none⟩).Always
        (Entry.KeepsWakeups 0) := by
  have hc : ∀ r history, (Client.reraising.respond r history).Within (Operation.Wakes 0) :=
    Client.within_reraising (fun _ => rfl) trivial
  have hprogram : (Program.sequence () [.channels .init, .page (.raise ⟨7⟩ 0),
      .channels (.bindInline ⟨7⟩ "service"), .channels .scannerPass, .channels (.mask ⟨7⟩),
      .channels (.unmask ⟨7⟩)]).Within (Operation.Wakes 0) := by
    apply Program.within_sequence.2
    simp only [List.forall_mem_cons, Operation.Wakes]
    exact ⟨trivial, rfl, trivial, trivial, trivial, trivial, nofun⟩
  have hkept := (no_wakeup_is_lost hc).1 2 _
    ⟨.zero, .powerOn, { callbackIrq := 5 }, true, false, none⟩ hprogram rfl
    SharedPage.announced_zero
  exact ⟨hc, SharedPage.announced_zero, hkept⟩

end EventChannel
