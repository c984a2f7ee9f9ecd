import EventChannel.Proofs.Arrival
import EventChannel.Proofs.Contention

namespace EventChannel

open Guest

namespace Operation

/-- The port that an operation binds, with the action. -/
def bound? : Operation → Option (Port × Action)
  | table (.publish port action) => some (port, action)
  | channels (.bindInline port handler) => some (port, .normal handler)
  | channels (.bindDeferred port handler) => some (port, .deferredProcedure handler)
  | channels (.bindIrq port vector description handler) =>
    some (port, .deferredHardwareIrq (.ofDescription handler vector description))
  | _ => none

/-- Whether an operation that binds a port unmasks it, too. -/
def unmasks : Operation → Bool
  | channels _ => true
  | page _ | vcpu _ _ | table _ => false

end Operation

/-- What a bind changes in the action table. -/
structure ActionTable.BoundAt (p : Port) (a : Action) (t u : ActionTable) : Prop where
  slot : u.slot p = { t.slot p with kind := a.kind, action := a }
  others : ∀ q, p ≠ q → u.slot q = t.slot q
  outstanding : u.outstanding = t.outstanding
  queued : u.queued = t.queued

/-- What unmasking a port changes in the shared page. A port that is pending has its word flagged,
and the upcall is raised if the flag is new. -/
structure SharedPage.UnmaskedAt (v : Fin 32) (p : Port) (s t : SharedPage) : Prop where
  unmasked : t.isMasked p = false
  mask : ∀ w b, ¬(p.pageWord = w ∧ p.bit = b) → t.mask.test w b = s.mask.test w b
  pending : t.pending = s.pending
  silent : s.isPending p = false → t.vcpu v = s.vcpu v
  alerted : s.isPending p = true → t.vcpu v = { s.vcpu v with
    selector := (s.vcpu v).selector.insert p.pageWord
    upcallPending := if (s.vcpu v).selector.test p.pageWord then (s.vcpu v).upcallPending else 1 }
  others : ∀ i, i ≠ v → t.vcpu i = s.vcpu i
  reserved : t.reserved = s.reserved

namespace Channels

/-- What an operation changes that binds a port. -/
structure BoundBy (op : Operation) (v : Fin 32) (p : Port) (a : Action) (c d : Channels) : Prop where
  table : c.table.BoundAt p a d.table
  unmasked : op.unmasks = true → c.page.UnmaskedAt v p d.page
  page : op.unmasks = false → d.page = c.page
  rest : d = { c with page := d.page, table := d.table }

/-- What unbinding a port changes. The action survives if it has readers. -/
structure UnboundAt (p : Port) (c d : Channels) : Prop where
  page : d.page = c.page.setMask p.pageWord p.bit
  slot : d.table.slot p = { c.table.slot p with
    action := if (c.table.slot p).readers = 0 then .empty else (c.table.slot p).action
    work := .new }
  outstanding : d.table.outstanding = c.table.outstanding
  flagged : d.table.isFlagged p = false
  others : ∀ q, p ≠ q → ActionTable.AgreeAt q c.table d.table
  rest : d = { c with page := d.page, table := d.table }

/-- The state after an operation that bound a port. -/
def boundBy (c : Channels) (op : Operation) (v : Fin 32) (p : Port) (a : Action) : Channels := { c with
  page := if op.unmasks then c.page.arrive v (.unmasking p) else c.page
  table := c.table.bindAt p a }

/-- What remains to be done to bind a port whose action has readers: they end, and the bind is tried
again. -/
def retrial (c : Channels) (p : Port) (op : Operation) : List Operation := c.releases p ++ [op]

/-- What the retrial of a bind returns: each reader ends with what it read, and the port is bound. -/
def retrialResults (c : Channels) (p : Port) : List (Except ChannelError Report) :=
  .replicate (c.table.slot p).readers (.ok (.irqDetails (c.table.irqDetails? p))) ++ [.ok .done]

end Channels

/-- What a bind or an unbind of a port returns. -/
def ActionTable.replacement (t : ActionTable) (p : Port) : Except ChannelError Report :=
  if (t.slot p).readers = 0 then .ok .done else .error (.slotBusy p)

/-- The table after the action of a port was dropped, unless it has readers. -/
def ActionTable.dropAt (t : ActionTable) (p : Port) : ActionTable :=
  t.setAction p (if (t.slot p).readers = 0 then .empty else (t.slot p).action)

/-- The table after a port was unbound. -/
def ActionTable.unbindAt (t : ActionTable) (p : Port) : ActionTable := ((t.dropAt p).cancel p).2

theorem ActionTable.boundAt_bindAt (t : ActionTable) (p : Port) (a : Action) :
    t.BoundAt p a (t.bindAt p a) where
  slot := by rw [slot_bindAt, if_pos rfl]
  others q hne := by rw [slot_bindAt, if_neg hne]
  outstanding := rfl
  queued := rfl

theorem SharedPage.unmaskedAt_arrive (s : SharedPage) (v : Fin 32) (p : Port) :
    s.UnmaskedAt v p (s.arrive v (.unmasking p)) where
  unmasked := by
    rw [isMasked, test_mask_arrive, Arrival.uncovers_self, Bool.not_true, Bool.false_and]
  mask _ _ hne := (s.agreeAt_arrive v (.unmasking p) hne).mask.symm
  pending := pending_arrive v s (.unmasking p)
  silent hpending := by
    have halerts : (Arrival.unmasking p).alerts s = false := hpending
    rw [vcpu_arrive, halerts]
    rfl
  alerted hpending := by
    have halerts : (Arrival.unmasking p).alerts s = true := hpending
    rw [vcpu_arrive, halerts, if_pos rfl, VcpuSlot.alertAmong, if_pos List.mem_cons_self]
    change (s.vcpu v).alert p.pageWord = _
    cases hflag : (s.vcpu v).selector.test p.pageWord with
    | true =>
      have hsame : (s.vcpu v).selector.insert p.pageWord = (s.vcpu v).selector := by
        rw [← VcpuSlot.selector_alert, VcpuSlot.alert_of_flagged hflag]
      rw [VcpuSlot.alert_of_flagged hflag, hsame]
      rfl
    | false =>
      rw [VcpuSlot.alert_of_not_flagged (ne_true_of_eq_false hflag)]
      rfl
  others i hne := by
    rw [vcpu_arrive, VcpuSlot.alertAmong, if_neg]
    split
    · exact fun h => hne (List.mem_singleton.1 h)
    · exact List.not_mem_nil
  reserved := reserved_arrive v s (.unmasking p)

namespace Channels

variable (c : Channels) (v : Fin 32) (p : Port)

theorem boundBy_boundBy (op : Operation) (a : Action) : c.BoundBy op v p a (c.boundBy op v p a) where
  table := c.table.boundAt_bindAt p a
  unmasked h := by
    rw [boundBy, h]
    exact c.page.unmaskedAt_arrive v p
  page h := by
    rw [boundBy, h]
    rfl
  rest := rfl

theorem unboundAt_unbindAt : c.UnboundAt p { c with
    page := c.page.setMask p.pageWord p.bit, table := c.table.unbindAt p } where
  page := rfl
  slot := by
    change (c.table.unbindAt p).slot p = _
    rw [ActionTable.unbindAt, ActionTable.slot_cancel, ActionTable.setWork,
      ActionTable.slot_modifySlot_self, ActionTable.dropAt, ActionTable.setAction,
      ActionTable.slot_modifySlot_self]
    rfl
  outstanding := rfl
  flagged := (ActionTable.isFlagged_cancel _ p p).trans (if_pos rfl)
  others q hne := (ActionTable.AgreeAt.modifySlot_of_ne hne _ _).trans
    ((ActionTable.isLocal_cancel p).others _ q hne)
  rest := rfl

end Channels

namespace Guest

variable {σ : Type} {P : Platform σ} {lost : System σ → Prop} {K : σ → Prop} {c : Channels}
variable {port : Port}

section Observed

variable (hseen : ∀ e c o, K o → K (P.observe e c o))

include hseen

theorem held_attach_at {v : Fin 32} (hvcpu : c.config.upcallVcpu = v)
    (hfree : (c.table.slot port).readers = 0) (action : Action) :
    Leads lost (Held K c) (attach P port action) fun result s => result = .ok () ∧
      Held K { c with
        table := c.table.bindAt port action
        page := c.page.arrive v (.unmasking port) } s := by
  apply (held_publish hseen hfree action).bind_of_eq
  apply (held_unmask_at (c := { c with table := c.table.bindAt port action }) hvcpu port).bind
  intro _
  exact Leads.bind (held_emit hseen _) fun _ => .pure fun _ hs => ⟨rfl, hs⟩

/-- An operation that binds a port is carried out if the port's action has no readers. -/
theorem held_bind_free {op : Operation} {action : Action} {v : Fin 32}
    (hop : op.bound? = some (port, action)) (hvcpu : c.config.upcallVcpu = v)
    (hfree : (c.table.slot port).readers = 0) :
    Leads lost (Held K c) (op.run P) fun result s =>
      result = .ok .done ∧ Held K (c.boundBy op v port action) s := by
  have hattach (action : Action) : Leads lost (Held K c)
      (attach P port action >>= fun result => pure (Report.ofUnit result)) fun result s =>
      result = .ok .done ∧ Held K { c with
        page := c.page.arrive v (.unmasking port), table := c.table.bindAt port action } s :=
    (held_attach_at hseen hvcpu hfree action).bind_of_eq (.pure fun _ hs => ⟨rfl, hs⟩)
  unfold Operation.bound? at hop
  split at hop <;> cases hop
  · exact (held_publish hseen hfree action).bind_of_eq (.pure fun _ hs => ⟨rfl, hs⟩)
  all_goals exact hattach _

/-- An operation that binds a port leaves the event channels as they are if the port's action has
readers. -/
theorem held_bind_busy {op : Operation} {action : Action} (hop : op.bound? = some (port, action))
    (hbusy : (c.table.slot port).readers ≠ 0) :
    Leads lost (Held K c) (op.run P) fun result s =>
      result = .error (.slotBusy port) ∧ Held K c s := by
  have hattach (action : Action) : Leads lost (Held K c)
      (attach P port action >>= fun result => pure (Report.ofUnit result)) fun result s =>
      result = .error (.slotBusy port) ∧ Held K c s :=
    (held_attach_busy hseen hbusy action).bind_of_eq (.pure fun _ hs => ⟨rfl, hs⟩)
  unfold Operation.bound? at hop
  split at hop <;> cases hop
  · exact (held_publish_busy hseen hbusy action).bind_of_eq (.pure fun _ hs => ⟨rfl, hs⟩)
  all_goals exact hattach _

theorem held_dropAction : Leads lost (Held K c) (dropAction P port) fun result s =>
    Held K { c with table := c.table.dropAt port } s ∧
      Report.ofUnit result = c.table.replacement port := by
  apply held_table
  rw [ActionTable.replacement, ActionTable.dropAt]
  split
  next hfree =>
    apply (held_replaceAction hfree).bind_of_eq
    exact Leads.bind (held_emit hseen _) fun _ => .pure fun _ hs => ⟨hs, rfl⟩
  next hbusy =>
    have hsame : c.table.setAction port (c.table.slot port).action = c.table :=
      c.table.modifySlot_eq_self port rfl
    rw [hsame]
    exact (held_replaceAction_busy hseen hbusy).bind_of_eq (.pure fun _ hs => ⟨hs, rfl⟩)

theorem held_unbind : Leads lost (Held K c) (unbind P port) fun result s =>
    Report.ofUnit result = c.table.replacement port ∧ Held K { c with
      page := c.page.setMask port.pageWord port.bit, table := c.table.unbindAt port } s := by
  apply (held_onPage (PageM.mask_run c.page port)).discard.bind
  intro _
  apply (held_dropAction hseen).bind
  intro result
  apply Leads.assume
  intro hresult
  apply (held_cancel hseen).bind
  intro found
  apply Leads.guarded (fun _ => held_emit hseen _) (fun _ _ => id)
  intro _
  exact .pure fun _ hs => ⟨hresult, hs⟩

/-- The retrial of a bind ends like a bind that finds no readers. -/
theorem held_retrial {op : Operation} {action : Action} {v : Fin 32}
    (hop : op.bound? = some (port, action)) (hvcpu : c.config.upcallVcpu = v) :
    Leads lost (Held K c) (Operation.runAll P (c.retrial port op)) fun results s =>
      results = c.retrialResults port ∧
      Held K ({ c with table := c.table.setReaders port 0 }.boundBy op v port action) s := by
  generalize hd : { c with table := c.table.setReaders port 0 } = d
  have hreleased : Leads lost (Held K c) (Operation.runAll P (c.releases port)) _ :=
    held_releases hseen
  rw [hd] at hreleased
  have hfree : (d.table.slot port).readers = 0 := by
    rw [← hd, ActionTable.readers_setReaders, if_pos rfl]
  have hbind : Leads lost (Held K d) (Operation.runAll P [op]) fun results s =>
      results = [.ok .done] ∧ Held K (d.boundBy op v port action) s := by
    apply leads_runAll_cons (held_bind_free hseen hop (by rw [← hd]; exact hvcpu) hfree)
    exact leads_runAll_nil fun _ hs => ⟨rfl, hs⟩
  apply leads_runAll_append hreleased
  intro results
  apply Leads.of_pre (Leads.assume fun hresults => ?_) fun _ hs => hs.symm
  apply hbind.of_post
  rintro _ s ⟨rfl, hs⟩
  exact ⟨hresults ▸ rfl, hs⟩

/-- A bind that is refused first makes no difference to its retrial. -/
theorem held_refused_retrial {op : Operation} {action : Action} {v : Fin 32}
    (hop : op.bound? = some (port, action)) (hvcpu : c.config.upcallVcpu = v)
    (hbusy : (c.table.slot port).readers ≠ 0) :
    Leads lost (Held K c) (Operation.runAll P (op :: c.retrial port op)) fun results s =>
      results = .error (.slotBusy port) :: c.retrialResults port ∧
      Held K ({ c with table := c.table.setReaders port 0 }.boundBy op v port action) s := by
  apply leads_runAll_cons (held_bind_busy hseen hop hbusy)
  apply (held_retrial hseen hop hvcpu).of_post
  rintro _ s ⟨rfl, hs⟩
  exact ⟨rfl, hs⟩

end Observed

end Guest

/-- A refused bind leaves no trace. A port is bound if its action has no readers, and then only its
published kind and its action change, and where the operation unmasks the port, its mask bit and,
for a pending port, the upcall of the virtual processor; otherwise nothing changes, so that it makes
no difference to a later attempt whether there was an earlier one. An unbind masks the port and takes
its work off the queue in either case, and drops the action if it has no readers. -/
theorem refused_bind_leaves_no_trace {σ : Type} (P : Platform σ) (s : System σ) {v : Fin 32}
    (hvcpu : s.channels.config.upcallVcpu = v) (port : Port) :
    (∀ op action, op.bound? = some (port, action) → ∃ s',
      op.run P s = .ok (s.channels.table.replacement port) s' ∧
      ((s.channels.table.slot port).readers = 0 → s.channels.BoundBy op v port action s'.channels) ∧
      ((s.channels.table.slot port).readers ≠ 0 → s'.channels = s.channels ∧
        ∃ t t',
          Operation.runAll P (op :: s.channels.retrial port op) s =
            .ok (.error (.slotBusy port) :: s.channels.retrialResults port) t ∧
          Operation.runAll P (s.channels.retrial port op) s =
            .ok (s.channels.retrialResults port) t' ∧
          t.channels = t'.channels)) ∧
    ∃ s', (Operation.channels (.unbind port)).run P s = .ok (s.channels.table.replacement port) s' ∧
      s.channels.UnboundAt port s'.channels := by
  have hstart : Held (fun _ => True) s.channels s := ⟨rfl, trivial⟩
  have hseen (e : Event) (c : Channels) (o : σ) (_ : True) : True := trivial
  constructor
  · intro op action hop
    by_cases hfree : (s.channels.table.slot port).readers = 0
    · have hbind : Leads (fun _ => False) (Held (fun _ => True) _) _ _ :=
        held_bind_free (P := P) hseen hop hvcpu hfree
      obtain ⟨_, s', hrun, rfl, hs'⟩ := hbind.exists_ok hstart
      rw [ActionTable.replacement, if_pos hfree]
      refine ⟨s', hrun, fun _ => ?_, fun hbusy => absurd hfree hbusy⟩
      rw [hs'.channels]
      exact s.channels.boundBy_boundBy v port op action
    · have hbind : Leads (fun _ => False) (Held (fun _ => True) _) _ _ :=
        held_bind_busy (P := P) hseen hop hfree
      have hrefused : Leads (fun _ => False) (Held (fun _ => True) _) _ _ :=
        held_refused_retrial (P := P) hseen hop hvcpu hfree
      have hretrial : Leads (fun _ => False) (Held (fun _ => True) _) _ _ :=
        held_retrial (P := P) hseen hop hvcpu
      obtain ⟨_, s', hrun, rfl, hs'⟩ := hbind.exists_ok hstart
      obtain ⟨_, t, ht, rfl, hrefused⟩ := hrefused.exists_ok hstart
      obtain ⟨_, t', ht', rfl, hretrial⟩ := hretrial.exists_ok hstart
      rw [ActionTable.replacement, if_neg hfree]
      exact ⟨s', hrun, fun h => absurd h hfree, fun _ => ⟨hs'.channels, t, t', ht, ht',
        hrefused.channels.trans hretrial.channels.symm⟩⟩
  · have hunbind : Leads (fun _ => False) (Held (fun _ => True) s.channels)
        ((Operation.channels (.unbind port)).run P) fun result s' =>
        result = s.channels.table.replacement port ∧ Held (fun _ => True) _ s' :=
      (held_unbind hseen).bind fun _ => .pure fun _ hs => hs
    obtain ⟨_, s', hrun, rfl, hs'⟩ := hunbind.exists_ok hstart
    refine ⟨s', hrun, ?_⟩
    rw [hs'.channels]
    exact s.channels.unboundAt_unbindAt port

/-- Port 5 is pending, and another context reads its description. The bind is refused and an unbind
leaves the binding, while port 6 can be bound. -/
theorem refused_bind_leaves_no_trace_while_read :
    let busy : Port := ⟨5⟩
    let free : Port := ⟨6⟩
    let table := (ActionTable.powerOn.bindAt busy (.deferredHardwareIrq ⟨"card", 7, "nic"⟩)).setReaders
      busy 1
    let start : Channels :=
      ⟨(SharedPage.zero.setMask 0 5).setPending 0 5, table, { callbackIrq := 5 }, false, false, none⟩
    let bind (port : Port) : Operation := .channels (.bindInline port "line")
    start.config.upcallVcpu = (0 : Fin 32) ∧ (table.slot busy).readers ≠ 0 ∧
    (table.slot free).readers = 0 ∧
    ∃ s t t' u w,
      (bind busy).run (Client.reraising.platform 0) ⟨start, []⟩ = .ok (.error (.slotBusy busy)) s ∧
      s.channels = start ∧
      Operation.runAll (Client.reraising.platform 0) (bind busy :: start.retrial busy (bind busy))
        ⟨start, []⟩ = .ok [.error (.slotBusy busy), .ok (.irqDetails (some (7, "nic"))), .ok .done] t ∧
      Operation.runAll (Client.reraising.platform 0) (start.retrial busy (bind busy)) ⟨start, []⟩ =
        .ok [.ok (.irqDetails (some (7, "nic"))), .ok .done] t' ∧
      t.channels = t'.channels ∧
      (bind free).run (Client.reraising.platform 0) ⟨start, []⟩ = .ok (.ok .done) u ∧
      start.BoundBy (bind free) 0 free (.normal "line") u.channels ∧
      (Operation.channels (.unbind busy)).run (Client.reraising.platform 0) ⟨start, []⟩ =
        .ok (.error (.slotBusy busy)) w ∧ start.UnboundAt busy w.channels := by
  intro busy free table start bind
  have hbusy : (start.table.slot busy).readers = 1 := by
    rw [ActionTable.readers_setReaders, if_pos rfl]
  have hfree : (start.table.slot free).readers = 0 := by decide +kernel
  have hdetails : start.table.irqDetails? busy = some (7, "nic") := by decide +kernel
  have hresults : start.retrialResults busy = [.ok (.irqDetails (some (7, "nic"))), .ok .done] := by
    rw [Channels.retrialResults, hbusy, hdetails]
    rfl
  have hne : (start.table.slot busy).readers ≠ 0 := by
    rw [hbusy]
    decide
  obtain ⟨hbinds, w, hunbind, hw⟩ := refused_bind_leaves_no_trace (Client.reraising.platform 0)
    ⟨start, []⟩ (v := 0) rfl busy
  obtain ⟨s, hrun, -, hrefused⟩ := hbinds (bind busy) _ rfl
  obtain ⟨hs, t, t', ht, ht', hsame⟩ := hrefused hne
  obtain ⟨u, hbind, hbound, -⟩ := (refused_bind_leaves_no_trace (Client.reraising.platform 0)
    ⟨start, []⟩ (v := 0) rfl free).1 (bind free) _ rfl
  rw [ActionTable.replacement, if_neg hne] at hrun hunbind
  rw [ActionTable.replacement, if_pos hfree] at hbind
  rw [hresults] at ht ht'
  exact ⟨rfl, hne, hfree, s, t, t', u, w, hrun, hs, ht, ht', hsame, hbind, hbound hfree, hunbind, hw⟩

end EventChannel
