import EventChannel.Proofs.LifecycleState.Phase

namespace EventChannel

open Guest

theorem Operation.isLifecycle_of_bringsUp {op : Operation} (h : op.bringsUp = true) :
    op.isLifecycle = true := by
  cases op with
  | channels op =>
    cases op with
    | init | resume => rfl
    | _ => cases h
  | _ => cases h

namespace InPhase

variable {c : Client} {depth : Nat} {i : Phase} {mode : Mode} {course : Course}

theorem leads_called (i : Phase) (r : Request) :
    Leads InPhaseUntil (fun s => InPhase i s ∧ i.Permits r) (record (.called depth r))
      fun _ => InPhase (i.during r) := by
  apply Leads.record
  intro state before hs
  obtain ⟨hs, hpermits⟩ := hs
  cases hline : r.concernsLine with
  | false =>
    rw [Phase.during_of_not_line hline]
    have hcourse := History.course_called depth state before r
    rw [Course.called_of_not_line hline] at hcourse
    cases r with
    | connect | disconnect => cases hline
    | _ => exact hs.cons rfl rfl hcourse rfl rfl rfl
  | true =>
    cases i with
    | resting =>
      rw [Phase.Permits, hline] at hpermits
      cases hpermits
    | moving mode course =>
      obtain ⟨⟨htransitions, hmode, hcourse⟩, halways⟩ := hs
      have hbusy : ¬before.transitions = 0 := by
        rw [htransitions]
        exact Nat.one_ne_zero
      have hentry : (Entry.called depth r state).InStep before := by
        refine ⟨fun hrest => absurd hrest hbusy, fun hrest => absurd hrest hbusy, ?_, ?_, nofun⟩
        · intro hrequests
          cases r with
          | connect line => exact hcourse ▸ hpermits
          | _ => cases hrequests
        · intro hdisconnects
          cases r with
          | disconnect line => exact hcourse ▸ hpermits
          | _ => cases hdisconnects
      have hcalled := History.course_called depth state before r
      rw [hcourse] at hcalled
      exact ⟨⟨htransitions, hmode, hcalled⟩, .cons hentry halways⟩

theorem leads_answered {i : Phase} {r : Request} (hpermits : i.Permits r) (reply : r.Reply) :
    Leads InPhaseUntil (InPhase (i.during r)) (record (.answered depth r reply))
      fun _ => InPhase (i.after r reply) := by
  apply Leads.record
  intro state before hs
  cases i with
  | resting =>
    have hcourse := History.course_answered depth state before r reply
    rw [Course.answered_of_not_line hpermits] at hcourse
    exact hs.cons rfl rfl hcourse rfl rfl rfl
  | moving mode course =>
    obtain ⟨⟨htransitions, hmode, hcourse⟩, halways⟩ := hs
    have hbusy : ¬before.transitions = 0 := by
      rw [htransitions]
      exact Nat.one_ne_zero
    have hentry : (Entry.answered depth r reply state).InStep before :=
      ⟨fun hrest => absurd hrest hbusy, fun hrest => absurd hrest hbusy, nofun, nofun, nofun⟩
    have hanswered := History.course_answered depth state before r reply
    rw [hcourse] at hanswered
    exact ⟨⟨htransitions, hmode, hanswered⟩, .cons hentry halways⟩

/-- An operation of the lifecycle is under way, and the flags say how the ones before it ended. -/
def Settled (s : System History) : Prop :=
  ∃ mode course, InPhase (.moving mode course) s ∧ mode.Follows course

/-- Initialisation has ended in one of two modes. -/
def Initialised (connected : Bool) (course : Course) :
    Except ChannelError Port → System History → Prop
  | .ok port, s => InPhase (.moving (.up port connected) course) s
  | .error _, s => InPhase (.moving (.down connected) course) s

theorem Initialised.settled {connected : Bool} {result : Except ChannelError Port} {s : System History}
    (h : Initialised connected course result s)
    (hline : course.connections = course.disconnections + connected.toNat) {op : Operation}
    (hop : op.bringsUp = true) : ∃ mode course', InPhase (.moving mode course') s ∧
      mode.Follows (course'.ended op (Report.ofPort result)) := by
  have hlifecycle := Operation.isLifecycle_of_bringsUp hop
  cases result with
  | error e =>
    refine ⟨_, course, h, ?_⟩
    rw [Report.ofPort, Course.ended, hlifecycle, if_pos rfl]
    exact Mode.follows_down hline
  | ok port =>
    refine ⟨_, course, h, ?_⟩
    rw [Report.ofPort, Course.ended, hlifecycle, if_pos rfl, hop]
    exact Mode.follows_up port hline

theorem leads_connected : Leads InPhaseUntil (InPhase (.moving mode course)) channels
    fun state s => InPhase (.moving mode course) s ∧ mode.connected = state.connected := by
  apply Leads.channels.of_post
  intro state s hs
  obtain ⟨hs, rfl⟩ := hs
  exact ⟨hs, congrArg Mode.connected hs.fits.2.1.symm⟩

theorem began {state : Channels} {before : History} (h : InPhase .resting ⟨state, before⟩)
    {op : Operation} (hop : op.isTransition = true) (depth : Nat) :
    Settled ⟨state, .began depth op state :: before⟩ := by
  obtain ⟨⟨hrest, hfollows⟩, halways⟩ := h
  have htransitions := History.openCount_began Operation.isTransition depth op state before
  rw [hop] at htransitions
  have hbusy : History.transitions (.began depth op state :: before) = 1 := by
    rw [History.transitions, htransitions]
    exact congrArg (· + 1) hrest
  have hentry : (Entry.began depth op state).InStep before := by
    refine ⟨fun _ => hfollows, fun hidle => ?_, nofun, nofun, nofun⟩
    rw [hbusy] at hidle
    cases hidle
  exact ⟨_, _, ⟨⟨hbusy, rfl, rfl⟩, .cons hentry halways⟩, hfollows⟩

theorem failsBringUp_of_not_lifecycle {op : Operation} (h : op.isLifecycle = false)
    {result : Except ChannelError Report} {state : Channels} :
    (Entry.ended depth op result state).failsBringUp = false := by
  cases result with
  | ok report => rfl
  | error e =>
    rw [Entry.failsBringUp, Bool.eq_false_iff]
    intro hup
    rw [Operation.isLifecycle_of_bringsUp hup] at h
    cases h

theorem leads_ended {op : Operation} (hop : op.isTransition = true)
    (result : Except ChannelError Report) : Leads InPhaseUntil
      (fun s => ∃ mode course, InPhase (.moving mode course) s ∧ mode.Follows (course.ended op result))
      (record (.ended depth op result)) fun _ => InPhase .resting := by
  apply Leads.record
  intro state before hs
  obtain ⟨mode, course, ⟨⟨hbusy, hmode, hcourse⟩, halways⟩, hfollows⟩ := hs
  have htransitions := History.openCount_ended Operation.isTransition depth op result state before
  rw [hop] at htransitions
  have hrest : History.transitions (.ended depth op result state :: before) = 0 := by
    rw [History.transitions, htransitions]
    exact congrArg (· - 1) hbusy
  have hended := History.course_ended depth op state before result
  rw [← hmode, ← hcourse, ← hended] at hfollows
  refine ⟨⟨hrest, hfollows⟩, .cons ⟨fun hidle => ?_, fun _ => hfollows, nofun, nofun, ?_⟩ halways⟩
  · rw [hidle] at hbusy
    cases hbusy
  · intro hfails
    cases result with
    | ok report => cases hfails
    | error e =>
      rw [hended, Course.ended, Operation.isLifecycle_of_bringsUp hfails, if_pos rfl] at hfollows
      have hmasked : state.interruptsMasked = true := hfollows.masked
      have hreserved : state.suspendPort = none :=
        Option.not_isSome_iff_eq_none.1 (Bool.eq_false_iff.1 hfollows.reserved)
      exact ⟨hmasked, hreserved, fun v => (hfollows.upcalls rfl v).trans hmasked⟩

section Calls

variable (hcall : ∀ i r, Leads InPhaseUntil (fun s => InPhase i s ∧ i.Permits r)
  (call (c.platform depth) r) fun reply => InPhase (i.after r reply))

include hcall

theorem keeps_call {r : Request} (hr : r.concernsLine = false) :
    Keeps InPhaseUntil (InPhase i) (call (c.platform depth) r) := by
  apply (hcall i r).weaken fun _ hs => ⟨hs, Phase.permits_of_not_line hr⟩
  intro reply s hs
  rw [Phase.after_of_not_line hr] at hs
  exact hs

theorem flags : FlagsOnly (c.platform depth) InPhaseUntil (InPhase i) :=
  ⟨fun _ => keeps_call hcall, keeps_emit, keeps_modifyTable, keeps_onTable, keeps_modifyPage,
    keeps_onPage⟩

theorem leads_init : Leads InPhaseUntil (InPhase (.moving mode course)) (Guest.init (c.platform depth))
    (Initialised mode.connected course) := by
  let down : System History → Prop := InPhase (.moving (.down mode.connected) course)
  let opened : System History → Prop :=
    InPhase (.moving ⟨false, fun _ => false, none, mode.connected⟩ course)
  have hreset : Keeps InPhaseUntil down (resetTable (c.platform depth)) :=
    keeps_resetTable (flags hcall).slotIndifferent.resetSlot
  have hcallback (config : Config) : Leads InPhaseUntil
      (fun s => down s ∧ s.channels.config = config)
      (call (c.platform depth) (.setParam .callbackIrq config.callbackIrq.toUInt64))
      fun _ : Except Errno Unit => down := Leads.of_pre (keeps_call hcall rfl) fun _ hs => hs.1
  let unmasked : System History → Prop :=
    InPhase (.moving ⟨true, fun _ => false, none, mode.connected⟩ course)
  have hunmasked : Leads InPhaseUntil down (maskUpcalls false) fun _ => unmasked :=
    leads_maskUpcalls false
  have hopened : Leads InPhaseUntil unmasked (setInterruptsMasked false) fun _ => opened :=
    leads_setInterruptsMasked false
  have hreserve : Keeps InPhaseUntil opened (reserveSuspendPort (c.platform depth)) :=
    keeps_reserveSuspendPort (flags hcall).stable
      (fun port => (flags hcall).slotIndifferent.publish port _) (flags hcall).unmask
  have hreserved (port : Port) : Leads InPhaseUntil opened (setSuspendPort (some port))
      fun _ => InPhase (.moving (.up port mode.connected) course) := leads_setSuspendPort (some port)
  exact leads_init_of_steps leads_quiesce (leads_setSuspendPort none)
    (keeps_modifyPage fun _ => rfl) hreset (fun _ _ => id) leads_discardPending hcallback
    (fun _ _ => id) hunmasked hopened hreserve (fun _ => leads_quiesce) hreserved fun _ _ => keeps_emit _

theorem leads_resume : Leads InPhaseUntil (InPhase (.moving mode course))
    (Guest.resume (c.platform depth)) (Initialised mode.connected course) :=
  Leads.bind (keeps_emit _) fun _ => leads_init hcall

theorem leads_emptyQueue : Leads InPhaseUntil (InPhase (.moving mode.quiet course))
    (emptyQueue (c.platform depth)) fun _ => InPhase (.moving (.down mode.connected) course) :=
  Guest.leads_emptyQueue (flags hcall).stable (keeps_cancelAll (flags hcall).cancel)
    (keeps_cancelAll (flags hcall).cancel) (leads_setSuspendPort none) (flags hcall).stable.note

/-- The line counts as connected while the host is asked for it, and as free again if it refuses. -/
theorem leads_connectLine (hfollows : mode.Follows course) :
    Leads InPhaseUntil (InPhase (.moving mode course)) (connectLine (c.platform depth))
      fun _ => Settled := by
  apply leads_connected.bind
  intro state
  apply Leads.assume
  intro hconnected
  apply (leads_setConnected true).bind
  intro _
  dsimp only
  split
  next hstate =>
    apply Leads.pure
    intro s hs
    refine ⟨_, course, hs, hfollows.masked, hfollows.reserved, hfollows.upcalls, ?_⟩
    rw [hfollows.line, hconnected, hstate]
  next hstate =>
    rw [Bool.not_eq_true] at hstate
    have hfree : course.connections = course.disconnections := by
      rw [hfollows.line, hconnected, hstate]
      rfl
    apply Leads.bind Keeps.config
    intro config
    apply Leads.bind ((hcall (.moving _ course) (.connect config.line)).of_pre fun _ hs => ⟨hs, hfree⟩)
    intro reply
    cases reply with
    | error status =>
      apply (leads_setConnected false).bind
      intro _
      apply Leads.pure
      intro s hs
      exact ⟨_, _, hs, hfollows.masked, hfollows.reserved, hfollows.upcalls, hfree⟩
    | ok accepted =>
      apply Leads.bind (keeps_emit _)
      intro _
      apply Leads.pure
      intro s hs
      refine ⟨_, _, hs, hfollows.masked, hfollows.reserved, hfollows.upcalls, ?_⟩
      change course.connections + 1 = course.disconnections + 1
      rw [hfree]

theorem leads_disconnectLine (hfollows : mode.Follows course) :
    Leads InPhaseUntil (InPhase (.moving mode course)) (disconnectLine (c.platform depth))
      fun _ => Settled := by
  apply leads_connected.bind
  intro state
  apply Leads.assume
  intro hconnected
  apply (leads_setConnected false).bind
  intro _
  dsimp only
  split
  next hstate =>
    have htaken : course.connections = course.disconnections + 1 := by
      rw [hfollows.line, hconnected, hstate]
      rfl
    apply Leads.bind Keeps.config
    intro config
    apply Leads.bind
      ((hcall (.moving _ course) (.disconnect config.line)).of_pre fun _ hs => ⟨hs, htaken⟩)
    intro _
    apply Leads.of_post (keeps_emit _)
    intro _ s hs
    exact ⟨_, _, hs, hfollows.masked, hfollows.reserved, hfollows.upcalls, htaken⟩
  next hstate =>
    rw [Bool.not_eq_true] at hstate
    apply Leads.pure
    intro s hs
    refine ⟨_, course, hs, hfollows.masked, hfollows.reserved, hfollows.upcalls, ?_⟩
    rw [hfollows.line, hconnected, hstate]

/-- However an operation of the lifecycle ends, the flags say so. -/
theorem leads_transition {op : Operation} (hop : op.isTransition = true) :
    Leads InPhaseUntil Settled (op.run (c.platform depth)) fun result s =>
      ∃ mode course, InPhase (.moving mode course) s ∧ mode.Follows (course.ended op result) := by
  constructor
  intro s hs
  obtain ⟨mode, course, hs, hfollows⟩ := hs
  refine Leads.run ?_ s hs
  cases op with
  | page | vcpu | table => cases hop
  | channels op =>
    cases op with
    | init =>
      apply (leads_init hcall).bind
      intro result
      exact .pure fun s hs => hs.settled hfollows.line rfl
    | resume =>
      apply (leads_resume hcall).bind
      intro result
      exact .pure fun s hs => hs.settled hfollows.line rfl
    | suspend =>
      apply Leads.bind (leads_suspend leads_quiesce (leads_emptyQueue hcall) (flags hcall).stable.note)
      intro _
      exact .pure fun _ hs => ⟨_, _, hs, Mode.follows_down hfollows.line⟩
    | shutdown =>
      apply (leads_shutdown (flags hcall).stable leads_quiesce (leads_emptyQueue hcall)
        (flags hcall).stable.note).bind
      intro _
      exact .pure fun _ hs => ⟨_, _, hs, Mode.follows_down hfollows.line⟩
    | connect =>
      apply (leads_connectLine hcall hfollows).bind
      intro result
      apply Leads.pure
      intro s hs
      obtain ⟨mode, course, hs, hfollows⟩ := hs
      have hended (result : Except ChannelError Report) :
          course.ended (.channels .connect) result = course :=
        Course.ended_of_not_lifecycle rfl result
      exact ⟨mode, course, hs, (hended _).symm ▸ hfollows⟩
    | disconnect =>
      apply (leads_disconnectLine hcall hfollows).bind
      intro _
      exact .pure fun _ hs => hs
    | _ => cases hop

theorem keeps_logged {op : Operation} (hop : i.Allows op) :
    Keeps InPhaseUntil (InPhase i) (op.logged (c.platform depth) depth) := by
  cases htransition : op.isTransition with
  | true =>
    cases i with
    | moving mode course =>
      rw [hop.2] at htransition
      cases htransition
    | resting =>
      apply Operation.keeps_logged _ (leads_transition hcall htransition)
      · exact fun result => leads_ended htransition result
      · apply Leads.record
        exact fun state before hs => hs.began htransition depth
  | false =>
    have hordinary : op.masksUpcall = false ∧ op.isLifecycle = false := by
      rw [Operation.isTransition, Bool.or_eq_false_iff] at htransition
      cases i with
      | resting => exact ⟨hop, htransition.1⟩
      | moving mode course => exact ⟨hop.1, htransition.1⟩
    obtain ⟨hmasks, hlifecycle⟩ := hordinary
    apply Operation.keeps_logged _ ((flags hcall).run (fun _ hs => hs.always) hmasks htransition)
    · intro result
      apply Leads.record
      intro state before hs
      have htransitions := History.openCount_ended Operation.isTransition depth op result state before
      have hcourse := History.course_ended depth op state before result
      rw [htransition] at htransitions
      rw [Course.ended_of_not_lifecycle hlifecycle] at hcourse
      exact hs.cons rfl htransitions hcourse rfl rfl (failsBringUp_of_not_lifecycle hlifecycle)
    · apply Leads.record
      intro state before hs
      have htransitions := History.openCount_began Operation.isTransition depth op state before
      rw [htransition] at htransitions
      exact hs.cons rfl htransitions rfl rfl rfl rfl

end Calls

theorem sustains (hc : ∀ r history, (c.respond r history).Within fun op =>
      op.masksUpcall = false ∧ (op.isTransition = true → history.transitions = 0)) (limit : Nat) :
    c.Sustains limit InPhaseUntil InPhase (fun i r s => InPhase i s ∧ i.Permits r)
      Phase.during Phase.after Phase.Allows where
  respond i r s hs := by
    apply (hc r s.outside).mono
    intro op hop
    obtain ⟨hmasks, hrest⟩ := hop
    cases i with
    | resting => exact hmasks
    | moving mode course =>
      refine ⟨hmasks, ?_⟩
      rw [Bool.eq_false_iff]
      intro htransition
      have hbusy := hs.1.fits.1
      rw [hrest htransition] at hbusy
      cases hbusy
  called i _ r := leads_called i r
  answered _ _ _ reply hready := by
    obtain ⟨_, _, hpermits⟩ := hready
    exact leads_answered hpermits reply
  logged _ _ hcall _ _ hop := keeps_logged hcall hop

end InPhase

/-- Whatever the hypervisor, the host and the handlers do, the flags follow the lifecycle, as long as
none of its operations is started while another one is under way: interrupts are unmasked exactly if
there is a port for suspend broadcasts, and exactly if the event channels were last brought up; from
the first such operation on every upcall mask says the same; the host's calls about the line
alternate; and where the event channels could not be brought up everything is masked. -/
theorem flags_follow_lifecycle {c : Client}
    (hc : ∀ r history, (c.respond r history).Within fun op =>
      op.masksUpcall = false ∧ (op.isTransition = true → history.transitions = 0))
    (depth : Nat) {α : Type} {program : Program α}
    (hprogram : program.Within fun op => op.masksUpcall = false) {page : SharedPage}
    {config : Config} {start : Channels} (hstart : Channels.ofPage page config = .ok start) :
    (c.history depth program start).Always Entry.InStep := by
  obtain ⟨_, rfl⟩ := Channels.eq_of_ofPage hstart
  have hbegin : InPhase .resting ⟨⟨page, .powerOn, config, true, false, none⟩, []⟩ :=
    ⟨⟨rfl, rfl, rfl, nofun, rfl⟩, .nil⟩
  exact (InPhase.sustains hc (depth + 1)).holds .resting hprogram hbegin fun _ hs => hs.always

/-- A client whose handlers take the line, bring the event channels down and up again and let go of
the line, unless one of these is under way, and which starts a scanner pass when it is asked for
upcalls. -/
def Client.bouncing : Client where
  respond r history := .sequence (r.granted 3) <| match r with
    | .handle _ _ _ =>
      if history.transitions = 0 then
        [.channels .connect, .channels .shutdown, .channels .init, .channels .disconnect]
      else []
    | .setParam _ _ => [.channels .scannerPass]
    | _ => []
  answer r _ := r.granted 3

theorem flags_follow_lifecycle_bouncing :
    (∀ r history, (Client.bouncing.respond r history).Within fun op =>
      op.masksUpcall = false ∧ (op.isTransition = true → history.transitions = 0)) ∧
    (Client.bouncing.history 2
      (.sequence () [.channels .init, .channels (.bindInline ⟨6⟩ "inline"), .page (.raise ⟨6⟩ 0),
        .channels .scannerPass, .channels .suspend, .channels .resume])
      ⟨.zero, .powerOn, { callbackIrq := 5 }, true, false, none⟩).Always Entry.InStep := by
  have hc : ∀ r history, (Client.bouncing.respond r history).Within fun op =>
      op.masksUpcall = false ∧ (op.isTransition = true → history.transitions = 0) := by
    intro r history
    apply Program.within_sequence.2
    cases r with
    | handle context handler port =>
      dsimp only
      split
      next hrest =>
        simp only [List.forall_mem_cons]
        exact ⟨⟨rfl, fun _ => hrest⟩, ⟨rfl, fun _ => hrest⟩, ⟨rfl, fun _ => hrest⟩,
          ⟨rfl, fun _ => hrest⟩, nofun⟩
      · exact fun _ hop => absurd hop List.not_mem_nil
    | setParam param value =>
      simp only [List.forall_mem_cons]
      exact ⟨⟨rfl, nofun⟩, nofun⟩
    | _ => exact fun _ hop => absurd hop List.not_mem_nil
  have hprogram : (Program.sequence () [.channels .init, .channels (.bindInline ⟨6⟩ "inline"),
      .page (.raise ⟨6⟩ 0), .channels .scannerPass, .channels .suspend, .channels .resume]).Within
        fun op => op.masksUpcall = false := by
    apply Program.within_sequence.2
    simp only [List.forall_mem_cons]
    exact ⟨rfl, rfl, rfl, rfl, rfl, rfl, nofun⟩
  have hstart : Channels.ofPage .zero { callbackIrq := 5 } =
      .ok ⟨.zero, .powerOn, { callbackIrq := 5 }, true, false, none⟩ := rfl
  exact ⟨hc, flags_follow_lifecycle hc 2 hprogram hstart⟩

end EventChannel
