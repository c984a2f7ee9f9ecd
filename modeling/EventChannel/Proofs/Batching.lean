import EventChannel.Proofs.Batching.Page
import EventChannel.Proofs.ScannerPass

namespace EventChannel

open Guest

/-- What drives the scanner: an event on a port, or an interrupt. -/
inductive Occurrence where
  | event (port : Port)
  | interrupt
deriving DecidableEq

namespace Occurrence

def operation (v : Fin 32) : Occurrence → Operation
  | event port => .page (.raise port v)
  | interrupt => .channels .scannerPass

def port? : Occurrence → Option Port
  | event port => some port
  | interrupt => none

/-- A schedule has one event on each of some ports, and an interrupt after the last of them. -/
structure Schedules (ports : List Port) (schedule : List Occurrence) : Prop where
  events : (schedule.filterMap port?).Perm ports
  last : schedule.getLast? = some interrupt

end Occurrence

/-- What a scanner pass reported, if the result is one of a pass. -/
def PassOutcome.reported? : Except ChannelError Report → Option PassOutcome
  | .ok (.scanned outcome) => some outcome
  | _ => none

namespace ActionTable

variable {t u v : ActionTable} {earlier later ports : List Port}

/-- The handler that a scanner pass starts for an event on a port. -/
def inlineStart? (t : ActionTable) (port : Port) : Option Request :=
  match t.kind port with
  | .normal => (t.handler? port .normal).map fun handler => .handle .inline handler port
  | _ => none

/-- The calls for events on ports are the handlers that they start, and requests for deferred runs. -/
theorem filter_requests (earlier ports : List Port) :
    (t.requests earlier ports).filter (· ≠ .queueDeferred) = ports.filterMap t.inlineStart? := by
  induction ports generalizing earlier with
  | nil => rfl
  | cons port ports ih =>
    rw [requests, List.filter_append, ih, List.filterMap_cons, requestsAt, inlineStart?]
    cases t.kind port with
    | empty => rfl
    | normal => cases t.handler? port .normal <;> rfl
    | deferredProcedure | deferredHardwareIrq | suspend =>
      dsimp only
      split <;> rfl

theorem Gains.inlineStart?_eq {counted marked queued : Port → Bool}
    (h : t.Gains counted marked queued u) : u.inlineStart? = t.inlineStart? := by
  funext p
  rw [inlineStart?, inlineStart?, h.kind, h.handler]

theorem Gains.outcome_eq {counted marked queued : Port → Bool}
    (h : t.Gains counted marked queued u) (ports : List Port) : u.outcome ports = t.outcome ports := by
  simp only [outcome, h.kind]

end ActionTable

theorem SharedPage.mem_duePorts {s : SharedPage} {v : Fin 32} {p : Port} :
    p ∈ s.duePorts v ↔ s.isDue v p.pageWord p.bit = true := by
  rw [duePorts, List.mem_filter]
  exact and_iff_right p.mem_all

theorem SharedPage.nodup_duePorts (s : SharedPage) (v : Fin 32) : (s.duePorts v).Nodup :=
  Port.nodup_all.filter _

namespace Guest

variable {c : Client} {lost : System History → Prop} {requests : List Request}
  {dispatched ports : List Port} {start : Channels} {v : Fin 32}

/-- Events on ports have been raised and serviced, in however many passes, since the history told of
certain calls. -/
def Settled (start : Channels) (v : Fin 32) (requests : List Request) (ports : List Port)
    (results : List (Except ChannelError Report)) (s : System History) : Prop :=
  ∃ due, (start.page.raiseEach v ports).duePorts v = due ∧
    PassOutcome.unionOf (results.filterMap PassOutcome.reported?) = start.table.outcome due ∧
    ∃ u calls dispatched, Held (History.Tells (requests ++ calls) dispatched)
        { start with page := (start.page.raiseEach v ports).caughtUp v, table := u } s ∧
      start.table.Gains due.contains (start.table.marks due) (start.table.queues due) u ∧
      (calls.filter (· ≠ .queueDeferred)).Perm (due.filterMap start.table.inlineStart?)

theorem held_event (port : Port) : Leads lost (Held (History.Tells requests dispatched) start)
    (((Occurrence.event port).operation v).run (c.platform 0)) fun result s =>
      result = .ok (.truth (!start.page.isPending port)) ∧
      Held (History.Tells requests dispatched)
        { start with page := start.page.arrive v port.event } s := by
  have hraise : Leads lost (Held (History.Tells requests dispatched) start)
      ((PageOperation.raise port v).run (c.platform 0)) fun report s =>
        report = .truth (!start.page.isPending port) ∧ Held (History.Tells requests dispatched)
          { start with page := start.page.arrive v port.event } s := by
    rw [PageOperation.run_raise]
    apply PageOperation.held_raiseAt
    intro w b state o ho
    exact ⟨ho.1, (History.dispatched_saw rfl 0 state o).trans ho.2⟩
  apply hraise.bind_of_eq
  exact .pure fun _ hs => ⟨rfl, hs⟩

theorem leads_interrupt (hmasked : start.interruptsMasked = false)
    (hvcpu : start.config.upcallVcpu = v) :
    Leads lost (Held (History.Tells requests dispatched) start)
      ((Occurrence.interrupt.operation v).run (c.platform 0)) fun result s =>
        result = .ok (.scanned (start.table.outcome (start.page.duePorts v))) ∧
        ∃ u, Held (History.Tells
            (requests ++ start.table.requests [] (start.page.duePorts v))
            (dispatched ++ start.page.duePorts v))
            { start with page := start.page.caughtUp v, table := u } s ∧
          start.table.Gains (start.page.duePorts v).contains
            (start.table.marks (start.page.duePorts v))
            (start.table.queues (start.page.duePorts v)) u := by
  apply (leads_scannerPass hmasked hvcpu).bind_of_eq
  apply Leads.pure
  rintro s ⟨u, hs, hgains⟩
  rw [SharedPage.ofBits_dueBits] at hs hgains
  exact ⟨rfl, u, hs, hgains⟩

theorem held_interrupt_masked (hmasked : start.interruptsMasked = true) :
    Leads lost (Held (History.Tells requests dispatched) start)
      ((Occurrence.interrupt.operation v).run (c.platform 0)) fun result s =>
        result = .ok (.scanned .empty) ∧ Held (History.Tells requests dispatched) start s := by
  have hscan : Leads lost (Held (History.Tells requests dispatched) start)
      (scannerPass (c.platform 0)) fun outcome s =>
        outcome = .empty ∧ Held (History.Tells requests dispatched) start s := by
    apply held_interruptsMasked.bind_of_eq
    rw [hmasked, if_pos rfl]
    apply Leads.bind (held_told rfl)
    exact fun _ => .pure fun _ hs => ⟨rfl, hs⟩
  apply hscan.bind_of_eq
  exact .pure fun _ hs => ⟨rfl, hs⟩

theorem settled_of_pass {u : ActionTable} {told : List Port} {s : System History}
    (hs : Held (History.Tells (requests ++ start.table.requests [] (start.page.duePorts v)) told)
      { start with page := start.page.caughtUp v, table := u } s)
    (hgains : start.table.Gains (start.page.duePorts v).contains
      (start.table.marks (start.page.duePorts v)) (start.table.queues (start.page.duePorts v)) u) :
    Settled start v requests []
      [.ok (.scanned (start.table.outcome (start.page.duePorts v)))] s := by
  refine ⟨_, rfl, ?_, u, _, told, hs, hgains, ?_⟩
  · exact (PassOutcome.unionOf_cons _ []).trans (PassOutcome.union_empty _)
  · rw [ActionTable.filter_requests]
    exact .refl _

/-- What is settled after a pass is settled as well as if that pass had been left out. -/
theorem settled_after_pass {u : ActionTable} {results : List (Except ChannelError Report)}
    {s : System History} (hports : ports.Nodup)
    (hclear : ∀ p ∈ ports, start.page.isPending p = false)
    (hgains : start.table.Gains (start.page.duePorts v).contains
      (start.table.marks (start.page.duePorts v)) (start.table.queues (start.page.duePorts v)) u)
    (h : Settled { start with page := start.page.caughtUp v, table := u } v
      (requests ++ start.table.requests [] (start.page.duePorts v)) ports results s) :
    Settled start v requests ports
      (.ok (.scanned (start.table.outcome (start.page.duePorts v))) :: results) s := by
  obtain ⟨later, hlater, houtcome, t, calls, told, hs, hgains', hcalls⟩ := h
  have hmem (p : Port) : p ∈ (start.page.raiseEach v ports).duePorts v ↔
      p ∈ start.page.duePorts v ∨ p ∈ later := by
    rw [← hlater, SharedPage.mem_duePorts, SharedPage.mem_duePorts, SharedPage.mem_duePorts,
      SharedPage.isDue_merge hports hclear, Bool.or_eq_true]
  have hnew (p : Port) (hp : p ∈ start.page.duePorts v) : p ∉ later := by
    rw [← hlater, SharedPage.mem_duePorts,
      SharedPage.isDue_disjoint hports hclear (SharedPage.mem_duePorts.1 hp)]
    exact Bool.false_ne_true
  have hperm : ((start.page.raiseEach v ports).duePorts v).Perm (start.page.duePorts v ++ later) := by
    apply (List.perm_ext_iff_of_nodup (SharedPage.nodup_duePorts _ v) _).2
    · intro p
      rw [hmem, List.mem_append]
    · apply List.Nodup.append (SharedPage.nodup_duePorts _ v) (hlater ▸ SharedPage.nodup_duePorts _ v)
      exact hnew
  refine ⟨_, rfl, ?_, t, start.table.requests [] (start.page.duePorts v) ++ calls, told, ?_,
    hgains.merge hgains' hmem hnew, ?_⟩
  · have hrest : PassOutcome.unionOf (results.filterMap PassOutcome.reported?) =
        start.table.outcome later := houtcome.trans (hgains.outcome_eq later)
    rw [ActionTable.outcome_of_mem hmem, ← hrest]
    exact PassOutcome.unionOf_cons _ _
  · rw [← SharedPage.caughtUp_merge hports hclear, ← List.append_assoc]
    exact hs
  · rw [hgains.inlineStart?_eq] at hcalls
    rw [List.filter_append, ActionTable.filter_requests]
    apply (hcalls.append_left _).trans
    rw [← List.filterMap_append]
    exact (hperm.filterMap _).symm

/-- What is settled after an event was settled with it. -/
theorem settled_after_event {port : Port} {results : List (Except ChannelError Report)}
    {s : System History} (raised : Bool)
    (h : Settled { start with page := start.page.arrive v port.event } v requests ports results s) :
    Settled start v requests (port :: ports) (.ok (.truth raised) :: results) s := h

theorem isPending_arrive_event {page : SharedPage} {port : Port} (hport : port ∉ ports)
    (hclear : ∀ p ∈ ports, page.isPending p = false) :
    ∀ p ∈ ports, (page.arrive v port.event).isPending p = false := by
  intro p hp
  have hother : port.event.delivers p.pageWord p.bit = false :=
    decide_eq_false (Port.place_ne fun he => hport (he ▸ hp))
  rw [SharedPage.isPending, SharedPage.test_pending_arrive, hother, Bool.false_or]
  exact hclear p hp

/-- However a schedule that ends with an interrupt goes, its events are settled at its end. -/
theorem leads_schedule (hmasked : start.interruptsMasked = false)
    (hvcpu : start.config.upcallVcpu = v) (schedule : List Occurrence)
    (hlast : schedule.getLast? = some .interrupt)
    (hports : (schedule.filterMap Occurrence.port?).Nodup)
    (hclear : ∀ p ∈ schedule.filterMap Occurrence.port?, start.page.isPending p = false) :
    Leads lost (Held (History.Tells requests dispatched) start)
      (schedule.mapM fun o => (o.operation v).run (c.platform 0))
      (Settled start v requests (schedule.filterMap Occurrence.port?)) := by
  induction schedule generalizing start requests dispatched with
  | nil => cases hlast
  | cons o schedule ih =>
    rw [List.mapM_cons]
    cases o with
    | event port =>
      obtain ⟨hport, hports⟩ := List.nodup_cons.1 hports
      obtain ⟨-, hclear⟩ := List.forall_mem_cons.1 hclear
      have hlast' : schedule.getLast? = some .interrupt := by
        cases schedule with
        | nil => cases hlast
        | cons o schedule => exact hlast
      apply (held_event port).bind_of_eq
      let now : Channels := { start with page := start.page.arrive v port.event }
      have hrest : Leads lost (Held (History.Tells requests dispatched) now)
          (schedule.mapM fun o => (o.operation v).run (c.platform 0))
          (Settled now v requests (schedule.filterMap Occurrence.port?)) :=
        ih hmasked hvcpu hlast' hports (isPending_arrive_event hport hclear)
      apply hrest.bind
      intro results
      exact .pure fun s hs => settled_after_event _ hs
    | interrupt =>
      apply (leads_interrupt hmasked hvcpu).bind_of_eq
      apply Leads.of_exists
      intro u
      apply Leads.assume
      intro hgains
      cases schedule with
      | nil =>
        rw [List.mapM_nil, pure_bind]
        exact .pure fun s hs => settled_of_pass hs hgains
      | cons o schedule =>
        have hclear' : ∀ p ∈ (o :: schedule).filterMap Occurrence.port?,
            (start.page.caughtUp v).isPending p = false := by
          intro p hp
          rw [SharedPage.isPending, SharedPage.test_pending_caughtUp]
          exact (congrArg (· && _) (hclear p hp)).trans (Bool.false_and _)
        let now : Channels := { start with page := start.page.caughtUp v, table := u }
        let made := requests ++ start.table.requests [] (start.page.duePorts v)
        have hrest : Leads lost
            (Held (History.Tells made (dispatched ++ start.page.duePorts v)) now)
            ((o :: schedule).mapM fun o => (o.operation v).run (c.platform 0))
            (Settled now v made ((o :: schedule).filterMap Occurrence.port?)) :=
          ih hmasked hvcpu hlast hports hclear'
        apply hrest.bind
        intro results
        exact .pure fun s hs => settled_after_pass hports hclear hgains hs

/-- While interrupts are masked, events arrive and passes do nothing. -/
theorem leads_schedule_masked (hmasked : start.interruptsMasked = true)
    (schedule : List Occurrence) :
    Leads lost (Held (History.Tells requests dispatched) start)
      (schedule.mapM fun o => (o.operation v).run (c.platform 0)) fun results s =>
        Held (History.Tells requests dispatched)
          { start with page := start.page.raiseEach v (schedule.filterMap Occurrence.port?) } s ∧
        PassOutcome.unionOf (results.filterMap PassOutcome.reported?) = .empty := by
  induction schedule generalizing start with
  | nil =>
    rw [List.mapM_nil]
    exact .pure fun _ hs => ⟨hs, rfl⟩
  | cons o schedule ih =>
    rw [List.mapM_cons]
    cases o with
    | event port =>
      apply (held_event port).bind_of_eq
      let now : Channels := { start with page := start.page.arrive v port.event }
      have hrest : Leads lost (Held (History.Tells requests dispatched) now)
          (schedule.mapM fun o => (o.operation v).run (c.platform 0)) fun results s =>
            Held (History.Tells requests dispatched)
              { now with page := now.page.raiseEach v (schedule.filterMap Occurrence.port?) } s ∧
            PassOutcome.unionOf (results.filterMap PassOutcome.reported?) = .empty := ih hmasked
      apply hrest.bind
      intro results
      exact .pure fun _ hs => hs
    | interrupt =>
      apply (held_interrupt_masked hmasked).bind_of_eq
      apply (ih hmasked).bind
      intro results
      apply Leads.pure
      intro s hs
      refine ⟨hs.1, (PassOutcome.unionOf_cons _ _).trans ?_⟩
      rw [PassOutcome.empty_union]
      exact hs.2

end Guest

/-- When calls do nothing but leave a trace, it makes no difference how events on ports that have none
pending are ordered and how many passes come between them, if a pass comes last. The state is the
same in the end, the passes report the same between them and start the same handlers, and masked
ports keep their events. Only deferred runs may be requested more or less often. -/
theorem batching_does_not_matter (c : Client) {s : System History} {v : Fin 32}
    (hvcpu : s.channels.config.upcallVcpu = v) {ports : List Port} (hports : ports.Nodup)
    (hclear : ∀ p ∈ ports, s.channels.page.isPending p = false) {first second : List Occurrence}
    (hfirst : Occurrence.Schedules ports first) (hsecond : Occurrence.Schedules ports second) :
    ∃ results s₁ calls results' s₂ calls',
      (first.mapM fun o => (o.operation v).run (c.platform 0) : Guest History _) s =
        .ok results s₁ ∧
      (second.mapM fun o => (o.operation v).run (c.platform 0) : Guest History _) s =
        .ok results' s₂ ∧
      s₁.channels = s₂.channels ∧
      PassOutcome.unionOf (results.filterMap PassOutcome.reported?) =
        PassOutcome.unionOf (results'.filterMap PassOutcome.reported?) ∧
      s₁.outside.requests = s.outside.requests ++ calls ∧
      s₂.outside.requests = s.outside.requests ++ calls' ∧
      (calls.filter (· ≠ .queueDeferred)).Perm (calls'.filter (· ≠ .queueDeferred)) ∧
      ∀ p ∈ ports, s.channels.page.isMasked p = true → s₁.channels.page.isPending p = true := by
  have hstart : Held (History.Tells s.outside.requests s.outside.dispatched) s.channels s :=
    ⟨rfl, rfl, rfl⟩
  have hraise {schedule : List Occurrence} (h : Occurrence.Schedules ports schedule) :
      s.channels.page.raiseEach v (schedule.filterMap Occurrence.port?) =
        s.channels.page.raiseEach v ports := SharedPage.raiseEach_perm v _ h.events
  cases hmasked : s.channels.interruptsMasked with
  | true =>
    obtain ⟨results, s₁, hrun, hs₁, houtcome⟩ :=
      (leads_schedule_masked (v := v) hmasked first).exists_ok hstart
    obtain ⟨results', s₂, hrun', hs₂, houtcome'⟩ :=
      (leads_schedule_masked (v := v) hmasked second).exists_ok hstart
    rw [hraise hfirst] at hs₁
    rw [hraise hsecond] at hs₂
    refine ⟨results, s₁, [], results', s₂, [], hrun, hrun', hs₁.channels.trans hs₂.channels.symm,
      houtcome.trans houtcome'.symm, ?_, ?_, .refl _, fun p hp _ => ?_⟩
    · exact hs₁.outside.1.trans (List.append_nil _).symm
    · exact hs₂.outside.1.trans (List.append_nil _).symm
    · rw [hs₁.channels]
      exact SharedPage.isPending_raiseEach v _ hp
  | false =>
    have hsettled {schedule : List Occurrence} (h : Occurrence.Schedules ports schedule) :=
      (leads_schedule (c := c) hmasked hvcpu schedule h.last (h.events.nodup_iff.2 hports)
        fun p hp => hclear p (h.events.mem_iff.1 hp)).exists_ok hstart
    obtain ⟨results, s₁, hrun, due, hdue, houtcome, u, calls, told, hs₁, hgains, hcalls⟩ :=
      hsettled hfirst
    obtain ⟨results', s₂, hrun', due', hdue', houtcome', u', calls', told', hs₂, hgains', hcalls'⟩ :=
      hsettled hsecond
    rw [hraise hfirst] at hdue hs₁
    rw [hraise hsecond] at hdue' hs₂
    obtain rfl : due = due' := hdue.symm.trans hdue'
    obtain rfl : u = u' := hgains.unique hgains'
    refine ⟨results, s₁, calls, results', s₂, calls', hrun, hrun',
      hs₁.channels.trans hs₂.channels.symm, houtcome.trans houtcome'.symm, hs₁.outside.1,
      hs₂.outside.1, hcalls.trans hcalls'.symm, fun p hp hmask => ?_⟩
    rw [hs₁.channels]
    exact SharedPage.isPending_caughtUp_raiseEach v _ hp hmask

/-- The broadcast of port 4 comes before the event of port 5 in one schedule, and in the same pass in the
other. Port 9 is masked, and the event that waits on port 2 has not been flagged. -/
theorem batching_does_not_matter_broadcast :
    let bindings : List (Port × Action) := [(⟨1⟩, .normal "timer"), (⟨4⟩, .suspend),
      (⟨5⟩, .deferredHardwareIrq ⟨"line", 11, "serial"⟩)]
    let table := bindings.foldl (fun t x => (t.setAction x.1 x.2).setKind x.1 x.2.kind) .powerOn
    let start : Channels := ⟨(SharedPage.zero.setMask 0 9).setPending 0 2, table,
      { callbackIrq := 5 }, false, false, none⟩
    let ports : List Port := [⟨1⟩, ⟨4⟩, ⟨5⟩, ⟨9⟩]
    let first : List Occurrence := [.event ⟨4⟩, .interrupt, .event ⟨9⟩, .interrupt, .event ⟨5⟩,
      .event ⟨1⟩, .interrupt]
    let second : List Occurrence := [.event ⟨1⟩, .event ⟨9⟩, .event ⟨5⟩, .event ⟨4⟩, .interrupt]
    let run (schedule : List Occurrence) : Guest History (List (Except ChannelError Report)) :=
      schedule.mapM fun o => (o.operation 0).run (Client.reraising.platform 0)
    start.config.upcallVcpu = (0 : Fin 32) ∧ ports.Nodup ∧
    (∀ p ∈ ports, start.page.isPending p = false) ∧ Occurrence.Schedules ports first ∧
    Occurrence.Schedules ports second ∧
    ∃ results s₁ results' s₂, run first ⟨start, []⟩ = .ok results s₁ ∧
      run second ⟨start, []⟩ = .ok results' s₂ ∧ s₁.channels = s₂.channels ∧
      (s₁.outside.requests.filter (· ≠ .queueDeferred)).Perm
        (s₂.outside.requests.filter (· ≠ .queueDeferred)) ∧
      s₁.channels.page.isPending ⟨9⟩ = true := by
  intro bindings table start ports first second run
  have hclear : ∀ p ∈ ports, start.page.isPending p = false := by decide +kernel
  have hfirst : Occurrence.Schedules ports first := ⟨by decide, rfl⟩
  have hsecond : Occurrence.Schedules ports second := ⟨by decide, rfl⟩
  obtain ⟨results, s₁, calls, results', s₂, calls', hrun, hrun', hsame, -, hcalls, hcalls', hperm,
    hmasked⟩ := batching_does_not_matter Client.reraising (s := ⟨start, []⟩) (v := 0) rfl
      (by decide : ports.Nodup) hclear hfirst hsecond
  obtain rfl : s₁.outside.requests = calls := hcalls
  obtain rfl : s₂.outside.requests = calls' := hcalls'
  exact ⟨rfl, by decide, hclear, hfirst, hsecond, results, s₁, results', s₂, hrun, hrun', hsame, hperm,
    hmasked ⟨9⟩ (by decide) (by decide +kernel)⟩

end EventChannel
