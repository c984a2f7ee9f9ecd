import EventChannel.Guest.Lifecycle
import EventChannel.Operation.Run
import EventChannel.Proofs.Keeping.Scan

namespace EventChannel.Guest

variable {σ : Type} {P : Platform σ} {lost J : System σ → Prop} {port : Port}

theorem keeps_signal (h : Stable P lost J) : Keeps lost J (signal P port) := by
  apply (h.call _ rfl rfl rfl).bind
  intro reply
  split
  · exact h.note _ rfl
  · exact .pure _

theorem keeps_giveBack (h : Stable P lost J) (number : UInt32) :
    Keeps lost J (giveBack P number) := by
  apply (h.call _ rfl rfl rfl).bind
  intro reply
  split
  · exact h.note _ rfl
  · exact .pure _

theorem keeps_adopt (h : Stable P lost J) (number : UInt32) : Keeps lost J (adopt P number) := by
  unfold adopt
  split
  · exact .pure _
  · exact (h.note _ rfl).bind fun _ => (keeps_giveBack h number).bind fun _ => .pure _

/-- An allocation is settled by the hypervisor's answer, or by what becomes of the number it grants. -/
theorem leads_allocate {pre : System σ → Prop} {op : Hypercall}
    {answered : Except Errno UInt32 → System σ → Prop}
    {post : Except ChannelError Port → System σ → Prop}
    (hcall : Leads lost pre (call P (.hypercall op)) answered)
    (hrefused : ∀ errno s, answered (.error errno) s → post (.error (.hypercall op.name errno)) s)
    (hadopt : ∀ number, Leads lost (answered (.ok number)) (adopt P number) post) :
    Leads lost pre (allocate P op) post := by
  apply hcall.bind
  intro reply
  cases reply with
  | error errno => exact .pure (hrefused errno)
  | ok number => exact hadopt number

theorem keeps_allocate (h : Stable P lost J) (op : Hypercall) : Keeps lost J (allocate P op) :=
  leads_allocate (h.call (.hypercall op) rfl rfl rfl) (fun _ _ => id) fun number => keeps_adopt h number

theorem keeps_quiesce (hmasked : Keeps lost J (setInterruptsMasked true))
    (hupcalls : Keeps lost J (maskUpcalls true)) : Keeps lost J (quiesce : Guest σ Unit) :=
  hmasked.bind fun _ => hupcalls

/-- The port for suspend broadcasts is handed back where it cannot be bound. -/
theorem leads_reserveSuspendPort {pre : System σ → Prop}
    {allocated post : Except ChannelError Port → System σ → Prop}
    {attached : Port → Except ChannelError Unit → System σ → Prop}
    (hallocate : ∀ config : Config, Leads lost (fun s => pre s ∧ s.channels.config = config)
      (allocIpi P config.suspendVcpu) allocated)
    (hrefused : ∀ e s, allocated (.error e) s → post (.error e) s)
    (hattach : ∀ port, Leads lost (allocated (.ok port)) (attach P port .suspend) (attached port))
    (hattached : ∀ port s, attached port (.ok ()) s → post (.ok port) s)
    (hclose : ∀ port e, Leads lost (attached port (.error e)) (close P port) fun _ =>
      post (.error e)) :
    Leads lost pre (reserveSuspendPort P) post := by
  apply Leads.config.bind
  intro config
  apply (hallocate config).bind
  intro result
  cases result with
  | error e => exact .pure (hrefused e)
  | ok port =>
    apply (hattach port).bind
    intro result
    cases result with
    | error e => exact (hclose port e).bind fun _ => .pure fun _ => id
    | ok _ => exact .pure (hattached port)

/-- The request for the port may be what makes an assertion hold. -/
theorem leads_reserveSuspendPort_of_call {pre : System σ → Prop} (h : Stable P lost J)
    (hcall : ∀ op, Leads lost pre (call P (.hypercall op)) fun _ => J)
    (hpublish : ∀ port, Keeps lost J (publish P port .suspend))
    (hunmask : ∀ port, Keeps lost J (unmask port)) :
    Leads lost pre (reserveSuspendPort P) fun _ => J := by
  have hallocate (op : Hypercall) : Leads lost pre (allocate P op) fun _ => J :=
    leads_allocate (hcall op) (fun _ _ => id) fun number => keeps_adopt h number
  exact leads_reserveSuspendPort
    (fun config => (hallocate (.bindIpi config.suspendVcpu)).of_pre fun _ hs => hs.1)
    (fun _ _ => id) (fun port => keeps_attach h.note (hpublish port) (hunmask port))
    (fun _ _ => id) fun port _ => keeps_giveBack h port.number

theorem keeps_reserveSuspendPort (h : Stable P lost J)
    (hpublish : ∀ port, Keeps lost J (publish P port .suspend))
    (hunmask : ∀ port, Keeps lost J (unmask port)) : Keeps lost J (reserveSuspendPort P) :=
  leads_reserveSuspendPort_of_call h (fun op => h.call (.hypercall op) rfl rfl rfl) hpublish hunmask

/-- Initialisation step by step. Its result is settled by the reset of the table, by the answer to the
request for upcalls, or by what becomes of the port for suspend broadcasts. -/
theorem leads_init_of_steps {pre quiet unreserved closed calm unmasked opened : System σ → Prop}
    {emptied : Except ChannelError Unit → System σ → Prop}
    {answered : Except Errno Unit → System σ → Prop}
    {allotted post : Except ChannelError Port → System σ → Prop} {reserved : Port → System σ → Prop}
    (hquiesce : Leads lost pre quiesce fun _ => quiet)
    (hport : Leads lost quiet (setSuspendPort none) fun _ => unreserved)
    (hmaskAll : Leads lost unreserved (modifyPage fun s => s.maskAll) fun _ => closed)
    (hreset : Leads lost closed (resetTable P) emptied)
    (hbusy : ∀ e s, emptied (.error e) s → post (.error e) s)
    (hdiscard : Leads lost (emptied (.ok ())) (discardPending P) fun _ => calm)
    (hcall : ∀ config : Config, Leads lost (fun s => calm s ∧ s.channels.config = config)
      (call P (.setParam .callbackIrq config.callbackIrq.toUInt64)) answered)
    (hrefused : ∀ errno s, answered (.error errno) s →
      post (.error (.hypercall DomainParam.callbackIrq.setterName errno)) s)
    (hupcalls : Leads lost (answered (.ok ())) (maskUpcalls false) fun _ => unmasked)
    (hmasked : Leads lost unmasked (setInterruptsMasked false) fun _ => opened)
    (hreserve : Leads lost opened (reserveSuspendPort P) allotted)
    (hrequiesce : ∀ e, Leads lost (allotted (.error e)) quiesce fun _ => post (.error e))
    (hreserved : ∀ port, Leads lost (allotted (.ok port)) (setSuspendPort (some port)) fun _ =>
      reserved port)
    (hnote : ∀ callbackIrq port, Leads lost (reserved port) (note P (.initialised callbackIrq port))
      fun _ => post (.ok port)) :
    Leads lost pre (init P) post := by
  apply hquiesce.bind
  intro _
  apply hport.bind
  intro _
  apply hmaskAll.bind
  intro _
  apply hreset.bind
  intro reset
  cases reset with
  | error e => exact .pure (hbusy e)
  | ok _ =>
    apply hdiscard.bind
    intro _
    apply Leads.config.bind
    intro config
    apply (hcall config).bind
    intro reply
    cases reply with
    | error errno => exact .pure (hrefused errno)
    | ok _ =>
      apply hupcalls.bind
      intro _
      apply hmasked.bind
      intro _
      apply hreserve.bind
      intro result
      cases result with
      | error e => exact (hrequiesce e).bind fun _ => .pure fun _ => id
      | ok port =>
        apply (hreserved port).bind
        intro _
        exact (hnote _ port).bind fun _ => .pure fun _ => id

/-- Initialisation quiesces the event channels, empties the table, discards what is pending, and only
then enables delivery; where it is refused, less may be left. -/
theorem leads_init {pre quiet emptied calm opened refused : System σ → Prop}
    (hquiesce : Leads lost pre quiesce fun _ => quiet)
    (hport : Keeps lost quiet (setSuspendPort none))
    (hmaskAll : Keeps lost quiet (modifyPage fun s => s.maskAll))
    (hreset : Leads lost quiet (resetTable P) fun reset s => match reset with
      | .ok _ => emptied s
      | .error _ => refused s)
    (hdiscard : Leads lost emptied (discardPending P) fun _ => calm)
    (hcall : ∀ value, Keeps lost calm (call P (.setParam .callbackIrq value)))
    (hupcalls : Keeps lost calm (maskUpcalls false))
    (hmasked : Leads lost calm (setInterruptsMasked false) fun _ => opened)
    (hreserve : Leads lost opened (reserveSuspendPort P) fun _ => J)
    (hreserved : ∀ port, Keeps lost J (setSuspendPort (some port)))
    (hnote : KeepsRemarks P lost J) (hrequiesce : Leads lost J quiesce fun _ => refused)
    (hrefused : ∀ s, calm s → refused s) :
    Leads lost pre (init P) fun result s => match result with
      | .ok _ => J s
      | .error _ => refused s := by
  have hanswered (config : Config) : Leads lost (fun s => calm s ∧ s.channels.config = config)
      (call P (.setParam .callbackIrq config.callbackIrq.toUInt64))
      fun _ : Except Errno Unit => calm :=
    Leads.of_pre (hcall _) fun _ hs => hs.1
  exact leads_init_of_steps hquiesce hport hmaskAll hreset (fun _ _ => id) hdiscard hanswered
    (fun _ => hrefused) hupcalls hmasked hreserve (fun _ => hrequiesce) hreserved
    fun _ _ => hnote _ rfl

theorem keeps_init {opened : System σ → Prop} (h : Stable P lost J)
    (hquiesce : Keeps lost J (quiesce : Guest σ Unit))
    (hport : ∀ port, Keeps lost J (setSuspendPort port))
    (hmaskAll : Keeps lost J (modifyPage fun s => s.maskAll))
    (hreset : Keeps lost J (resetTable P)) (hdiscard : Keeps lost J (discardPending P))
    (hupcalls : Keeps lost J (maskUpcalls false))
    (hmasked : Leads lost J (setInterruptsMasked false) fun _ => opened)
    (hreserve : Leads lost opened (reserveSuspendPort P) fun _ => J) : Keeps lost J (init P) := by
  have hreset' : Leads lost J (resetTable P) fun reset s => match reset with
      | .ok _ => J s
      | .error _ => J s := by
    apply Leads.of_post hreset
    rintro (e | _) s hs <;> exact hs
  have hinit := leads_init hquiesce (hport none) hmaskAll hreset' hdiscard
    (fun value => h.call (.setParam .callbackIrq value) rfl rfl rfl) hupcalls hmasked hreserve
    (fun port => hport (some port)) h.note hquiesce fun _ => id
  apply hinit.of_post
  rintro (e | port) s hs <;> exact hs

theorem keeps_connectLine (h : Stable P lost J)
    (hcall : ∀ r, r.concernsLine = true → Keeps lost J (call P r))
    (hconnected : ∀ connected, Keeps lost J (setConnected connected)) :
    Keeps lost J (connectLine P) := by
  apply Keeps.channels.bind
  intro c
  apply (hconnected _).bind
  intro _
  dsimp only
  split
  · exact .pure _
  · apply Keeps.config.bind
    intro config
    apply (hcall _ rfl).bind
    intro reply
    cases reply with
    | error status => exact (hconnected _).bind fun _ => .pure _
    | ok _ => exact (h.note _ rfl).bind fun _ => .pure _

theorem keeps_disconnectLine (h : Stable P lost J)
    (hcall : ∀ r, r.concernsLine = true → Keeps lost J (call P r))
    (hconnected : ∀ connected, Keeps lost J (setConnected connected)) :
    Keeps lost J (disconnectLine P) := by
  apply Keeps.channels.bind
  intro c
  apply (hconnected _).bind
  intro _
  dsimp only
  split
  · apply Keeps.config.bind
    intro config
    exact (hcall (.disconnect _) rfl).bind fun _ => h.note _ rfl
  · exact .pure _

/-- The second sweep leaves what holds when the queue is empty. -/
theorem leads_emptyQueue {drained emptied : System σ → Prop} (h : Stable P lost J)
    (hfirst : Keeps lost J (cancelAll P)) (hsecond : Leads lost J (cancelAll P) fun _ => drained)
    (hport : Leads lost drained (setSuspendPort none) fun _ => emptied)
    (hnote : KeepsRemarks P lost emptied) :
    Leads lost J (emptyQueue P) fun _ => emptied := by
  apply Leads.bind hfirst
  intro before
  apply Leads.bind (h.call .flushDeferred rfl rfl rfl)
  intro _
  apply hsecond.bind
  intro after
  exact hport.bind fun _ => hnote _ rfl

theorem keeps_emptyQueue (h : Stable P lost J) (hcancel : ∀ port, Keeps lost J (cancel P port))
    (hport : ∀ port, Keeps lost J (setSuspendPort port)) : Keeps lost J (emptyQueue P) :=
  leads_emptyQueue h (keeps_cancelAll hcancel) (keeps_cancelAll hcancel) (hport none) h.note

theorem leads_suspend {pre emptied : System σ → Prop}
    (hquiesce : Leads lost pre quiesce fun _ => J)
    (hempty : Leads lost J (emptyQueue P) fun _ => emptied) (hnote : KeepsRemarks P lost emptied) :
    Leads lost pre (suspend P) fun _ => emptied :=
  hquiesce.bind fun _ => hempty.bind fun _ => hnote _ rfl

theorem leads_shutdown {pre emptied : System σ → Prop} (h : Stable P lost J)
    (hquiesce : Leads lost pre quiesce fun _ => J)
    (hempty : Leads lost J (emptyQueue P) fun _ => emptied) (hnote : KeepsRemarks P lost emptied) :
    Leads lost pre (shutdown P) fun _ => emptied := by
  apply hquiesce.bind
  intro _
  have hrest : Leads lost J (emptyQueue P >>= fun _ => note P .shutDown) fun _ => emptied :=
    hempty.bind fun _ => hnote _ rfl
  apply Leads.bind (h.call (.setParam .callbackIrq 0) rfl rfl rfl)
  intro reply
  cases reply with
  | error errno => exact Leads.bind (h.note _ rfl) fun _ => hrest
  | ok _ => exact hrest

end EventChannel.Guest
