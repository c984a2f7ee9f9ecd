import EventChannel.Proofs.DeferredPass

namespace EventChannel

open Guest

/-- Whether a call starts a handler on the port. -/
def Request.startsOn (port : Port) : Request → Bool
  | .handle _ _ p => decide (p = port)
  | _ => false

namespace ActionTable

/-- A table in which every legacy interrupt port of another has been triggered again: the ports are
bound as they were, and all queued work can be found by a deferred pass. -/
structure Retriggered (t u : ActionTable) : Prop where
  kind : ∀ q, u.kind q = t.kind q
  action : ∀ q, (u.slot q).action = (t.slot q).action
  outstanding : ∀ q, t.isIrq q = true → u.isOutstanding q = true
  queued : ∀ q, t.isIrq q = true → u.isQueued q = true
  flagged : ∀ q, u.isQueued q = true → u.isFlagged q = true

variable {t u v : ActionTable} {counted : Port → Bool} {port : Port} {ports : List Port}

theorem Gains.retriggered (h : t.Gains counted t.isIrq t.isIrq u)
    (hflagged : ∀ q, t.isQueued q = true → t.isFlagged q = true) : t.Retriggered u := by
  refine ⟨h.kind, fun q => ?_, fun q hq => ?_, fun q hq => ?_, fun q hq => ?_⟩
  · rw [h.slot]
  · rw [h.outstanding, hq, Bool.or_true]
  · rw [h.isQueued, hq, Bool.or_true]
  · rw [h.isQueued] at hq
    rw [h.flagged]
    cases hbefore : t.isQueued q with
    | true => rw [hflagged q hbefore, Bool.true_or]
    | false =>
      rw [hbefore, Bool.false_or] at hq
      rw [hq, Bool.not_false, Bool.and_true, Bool.or_true]

theorem Retriggered.trans (h : t.Retriggered u) (h' : u.Retriggered v) : t.Retriggered v := by
  have hirq (q : Port) (hq : t.isIrq q = true) : u.isIrq q = true := by
    rw [isIrq, h.kind]
    exact hq
  exact ⟨fun q => (h'.kind q).trans (h.kind q), fun q => (h'.action q).trans (h.action q),
    fun q hq => h'.outstanding q (hirq q hq), fun q hq => h'.queued q (hirq q hq), h'.flagged⟩

theorem startsOn_of_deferredStart? {r : Request} {p : Port} (h : t.deferredStart? p = some r) :
    r.startsOn port = decide (p = port) := by
  rw [deferredStart?_eq] at h
  split at h
  · obtain ⟨handler, -, rfl⟩ := Option.map_eq_some_iff.1 h
    rfl
  · cases h

/-- Of the handlers that are owed to some ports, each once, at most one is started on a port. -/
theorem filter_startsOn_deferredStarts (hports : ports.Nodup) : (t.deferredStarts ports).filter
    (Request.startsOn port) = if port ∈ ports then (t.deferredStart? port).toList else [] := by
  induction ports with
  | nil => rfl
  | cons p ports ih =>
    obtain ⟨hnew, hports⟩ := List.nodup_cons.1 hports
    have hfirst : (t.deferredStart? p).toList.filter (Request.startsOn port) =
        if p = port then (t.deferredStart? port).toList else [] := by
      cases hstart : t.deferredStart? p with
      | none =>
        split
        next hp => rw [← hp, hstart, Option.toList_none, List.filter_nil]
        next => rfl
      | some r =>
        rw [Option.toList_some, List.filter_cons, startsOn_of_deferredStart? hstart, List.filter_nil]
        split
        next hp =>
          rw [if_pos (of_decide_eq_true hp), ← of_decide_eq_true hp, hstart, Option.toList_some]
        next hp => rw [if_neg fun he => hp (decide_eq_true he)]
    rw [← List.singleton_append, deferredStarts_append, deferredStarts_singleton, List.filter_append,
      ih hports, hfirst, List.singleton_append]
    by_cases hp : p = port
    · subst hp
      rw [if_pos rfl, if_neg hnew, if_pos List.mem_cons_self, List.append_nil]
    · have hmem : port ∈ p :: ports ↔ port ∈ ports := by
        rw [List.mem_cons, or_iff_right fun he => hp he.symm]
      simp only [hp, hmem, if_false, List.nil_append]

end ActionTable

namespace Guest

variable {c : Client} {lost : System History → Prop} {start channels : Channels}
  {requests : List Request} {ports : List Port} {port : Port}

/-- Every legacy interrupt port has been triggered again, and no calls have been made except for
deferred runs. -/
def Broadcasted (start : Channels) (requests : List Request) (s : System History) : Prop :=
  ∃ u n ports, Held (History.Tells (requests ++ .replicate n .queueDeferred) ports)
    { start with table := u } s ∧ start.table.Retriggered u

/-- An event on a port for suspend broadcasts triggers every legacy interrupt port again. -/
theorem leads_deliver_suspend (hmasked : channels.interruptsMasked = false)
    (hflagged : ∀ q, channels.table.isQueued q = true → channels.table.isFlagged q = true)
    (hkind : channels.table.kind port = .suspend) :
    Leads lost (Held (History.Tells requests ports) channels) (deliver (c.platform 0) port)
      fun _ => Broadcasted channels requests := by
  have hmarks : channels.table.marks [port] = channels.table.isIrq :=
    funext (ActionTable.marks_of_suspend hkind)
  have hqueues : channels.table.queues [port] = channels.table.isIrq :=
    funext (ActionTable.queues_of_suspend hkind)
  apply (leads_deliver hmasked).of_post
  rintro one s ⟨⟨u, hs, hgains⟩, -⟩
  rw [hmarks, hqueues] at hgains
  rw [ActionTable.requestsAt_of_suspend hkind] at hs
  have hrequested (b : Bool) : (if b = true then [Request.queueDeferred] else []) =
      .replicate b.toNat .queueDeferred := by cases b <;> rfl
  rw [hrequested] at hs
  exact ⟨u, _, _, hs, hgains.retriggered hflagged⟩

/-- Further events on ports for suspend broadcasts change nothing about that. -/
theorem keeps_deliver_suspend (hmasked : start.interruptsMasked = false)
    (hkind : start.table.kind port = .suspend) :
    Keeps lost (Broadcasted start requests) (discard (deliver (c.platform 0) port)) := by
  apply Keeps.discard
  constructor
  rintro s ⟨u, n, ports, hs, hu⟩
  let calls := requests ++ .replicate n .queueDeferred
  have hagain : Leads lost (Held (History.Tells calls ports) { start with table := u })
      (deliver (c.platform 0) port) fun _ => Broadcasted { start with table := u } calls :=
    leads_deliver_suspend hmasked hu.flagged ((hu.kind port).trans hkind)
  apply (hagain.of_post _).run s hs
  rintro _ s ⟨v, k, ports', hs, hv⟩
  rw [List.append_assoc, List.replicate_append_replicate] at hs
  exact ⟨v, n + k, ports', hs, hu.trans hv⟩

theorem keeps_deliver_suspends (hmasked : start.interruptsMasked = false) {events : List Port}
    (hkinds : ∀ p ∈ events, start.table.kind p = .suspend) :
    Keeps lost (Broadcasted start requests)
      (forM events fun p => discard (deliver (c.platform 0) p)) := by
  induction events with
  | nil => exact .pure ()
  | cons p events ih =>
    obtain ⟨hkind, hkinds⟩ := List.forall_mem_cons.1 hkinds
    rw [List.forM_cons]
    exact Keeps.bind (keeps_deliver_suspend hmasked hkind) fun _ => ih hkinds

/-- Calls have been made that start one handler on every legacy interrupt port that has one, and these
ports are outstanding. -/
structure Renewed (start : Channels) (requests calls : List Request) (s : System History) : Prop where
  made : s.outside.requests = requests ++ calls
  once : ∀ q irq, start.table.isIrq q = true →
    (start.table.slot q).action = .deferredHardwareIrq irq →
    calls.filter (Request.startsOn q) = [.handle .deferred irq.handler q]
  outstanding : ∀ q, start.table.isIrq q = true → s.channels.table.isOutstanding q = true

/-- A deferred pass after suspend broadcasts runs all that they have queued. -/
theorem leads_deferredPass_of_broadcasted (hmasked : start.interruptsMasked = false) :
    Leads lost (Broadcasted start requests) (deferredPass (c.platform 0)) fun _ s =>
      ∃ calls, Renewed start requests calls s := by
  constructor
  rintro s ⟨u, n, ports, hs, hu⟩
  have hpass : Leads lost
      (Held (History.Tells (requests ++ .replicate n .queueDeferred) ports) { start with table := u })
      (deferredPass (c.platform 0)) _ := leads_deferredPass hmasked hu.flagged
  apply (hpass.of_post _).run s hs
  rintro _ s ⟨-, hs⟩
  refine ⟨_, hs.outside.1.trans (List.append_assoc _ _ _), fun q irq hq hirq => ?_, fun q hq => ?_⟩
  · have hstart : u.deferredStart? q = some (.handle .deferred irq.handler q) := by
      have hkind : (u.slot q).kind = .deferredHardwareIrq :=
        (hu.kind q).trans (of_decide_eq_true hq)
      have hqueued : (u.slot q).work.queued = true := hu.queued q hq
      rw [ActionTable.deferredStart?, Slot.deferredStart?, hqueued, hkind, hu.action, hirq]
    have hruns : (List.replicate n Request.queueDeferred).filter (Request.startsOn q) = [] := by
      rw [List.filter_replicate]
      rfl
    rw [List.filter_append, hruns, ActionTable.filter_startsOn_deferredStarts Port.nodup_all,
      if_pos q.mem_all, hstart]
    rfl
  · rw [hs.channels]
    exact hu.outstanding q hq

theorem leads_suspendEvents (hmasked : start.interruptsMasked = false)
    (hflagged : ∀ q, start.table.isQueued q = true → start.table.isFlagged q = true)
    {events : List Port} (hkind : start.table.kind port = .suspend)
    (hkinds : ∀ p ∈ events, start.table.kind p = .suspend) :
    Leads lost (Held (History.Tells requests ports) start)
      (do
        forM (port :: events) fun p => discard (deliver (c.platform 0) p)
        deferredPass (c.platform 0))
      fun _ s => ∃ calls, Renewed start requests calls s := by
  rw [List.forM_cons, bind_assoc]
  apply (leads_deliver_suspend hmasked hflagged hkind).discard.bind
  intro _
  apply Leads.bind (keeps_deliver_suspends hmasked hkinds)
  intro _
  exact leads_deferredPass_of_broadcasted hmasked

/-- Acknowledging ports removes the outstanding marks of just these. -/
theorem leads_acknowledgeEach {σ : Type} {lost : System σ → Prop} (earlier : List Port)
    (marked : Bool) :
    Leads lost (fun s => s.channels.table.isOutstanding port = marked)
      (forM earlier fun q => discard (acknowledge q)) fun _ s =>
        s.channels.table.isOutstanding port = (marked && !earlier.contains port) := by
  induction earlier generalizing marked with
  | nil =>
    apply Leads.pure
    intro s hs
    rw [List.contains_nil, Bool.not_false, Bool.and_true, hs]
  | cons q earlier ih =>
    have hone : Leads lost (fun s => s.channels.table.isOutstanding port = marked)
        (acknowledge q) fun _ s =>
          s.channels.table.isOutstanding port = (marked && !decide (q = port)) := by
      apply Leads.onTable
      intro c _ hc
      have hbefore : c.table.isOutstanding port = marked := hc
      change (c.table.acknowledge q).2.isOutstanding port = _
      rw [ActionTable.isOutstanding_acknowledge, hbefore]
      by_cases hq : q = port
      · rw [if_pos hq, decide_eq_true hq, Bool.not_true, Bool.and_false]
      · rw [if_neg hq, decide_eq_false hq, Bool.not_false, Bool.and_true]
    rw [List.forM_cons]
    apply hone.discard.bind
    intro _
    apply (ih _).of_post
    intro _ s hs
    rw [hs, List.contains_cons, Bool.beq_eq_decide_eq, Bool.not_or, Bool.and_assoc,
      decide_eq_decide.2 eq_comm]

end Guest

/-- A broadcast counts the legacy interrupt ports and those of them whose work was not queued, marks
all of them outstanding, queues their work, and changes nothing else; another broadcast finds
nothing to do. So, after any events on ports for suspend broadcasts and a deferred pass in which
calls only leave a trace, one handler has been started on every legacy interrupt port that has
one, and every such port can be acknowledged exactly once. -/
theorem suspend_broadcast_retriggers_every_irq_port :
    (∀ {σ : Type} (P : Platform σ) (s : System σ),
      let t := s.channels.table
      ∃ u s', broadcast P s = .ok
          (Port.all.countP t.isIrq, Port.all.countP fun p => t.isIrq p && !t.isQueued p) s' ∧
        s'.channels = { s.channels with table := u } ∧
        t.Gains ActionTable.nowhere t.isIrq t.isIrq u ∧
        broadcast P s' = .ok (Port.all.countP t.isIrq, 0) s') ∧
    ∀ (c : Client) (s : System History) (events : List Port),
      s.channels.interruptsMasked = false →
      (∀ p, s.channels.table.isQueued p = true → s.channels.table.isFlagged p = true) →
      events ≠ [] → (∀ p ∈ events, s.channels.table.kind p = .suspend) →
      ∃ ran s' calls,
        (do
          forM events fun p => discard (deliver (c.platform 0) p)
          deferredPass (c.platform 0)) s = .ok ran s' ∧
        s'.outside.requests = s.outside.requests ++ calls ∧
        (∀ p irq, s.channels.table.kind p = .deferredHardwareIrq →
          (s.channels.table.slot p).action = .deferredHardwareIrq irq →
          calls.filter (Request.startsOn p) = [.handle .deferred irq.handler p]) ∧
        ∀ p, s.channels.table.kind p = .deferredHardwareIrq → ∀ earlier : List Port, ∃ s'',
          (do
            forM earlier fun q => discard (acknowledge q)
            acknowledge p) s' = .ok (!earlier.contains p) s'' := by
  constructor
  · intro σ P s t
    obtain ⟨counts, s', hrun, ⟨u, hs', hgains⟩, hcounts⟩ :=
      (held_broadcast (P := P) (K := fun _ => True) fun _ _ _ _ => id).exists_ok
        (s := s) ⟨rfl, trivial⟩
    have hirq : s'.channels.table.isIrq = t.isIrq := by
      rw [hs'.channels]
      exact funext hgains.isIrq_eq
    have houtstanding (p : Port) (hp : s'.channels.table.isIrq p = true) :
        s'.channels.table.isOutstanding p = true := by
      rw [hirq] at hp
      rw [hs'.channels, hgains.outstanding, hp, Bool.or_true]
    have hqueued (p : Port) (hp : s'.channels.table.isIrq p = true) :
        s'.channels.table.isQueued p = true := by
      rw [hirq] at hp
      rw [hs'.channels, hgains.isQueued, hp, Bool.or_true]
    obtain ⟨again, after, hagain, hnone, hsame⟩ :=
      (leads_broadcastTo_of_renewed (P := P) Port.all houtstanding hqueued).exists_ok rfl
    rw [hcounts] at hrun
    rw [hnone, hsame, hirq] at hagain
    exact ⟨u, s', hrun, hs'.channels, hgains, hagain⟩
  · intro c s events hmasked hflagged hevents hkinds
    obtain ⟨port, events, rfl⟩ := List.exists_cons_of_ne_nil hevents
    obtain ⟨hkind, hkinds⟩ := List.forall_mem_cons.1 hkinds
    obtain ⟨ran, s', hrun, calls, hrenewed⟩ :=
      (leads_suspendEvents (c := c) hmasked hflagged hkind hkinds).exists_ok (s := s) ⟨rfl, rfl, rfl⟩
    refine ⟨ran, s', calls, hrun, hrenewed.made, ?_, ?_⟩
    · intro p irq hp hirq
      exact hrenewed.once p irq (decide_eq_true hp) hirq
    · intro p hp earlier
      have hack (marked : Bool) : Leads (fun _ => False)
          (fun s : System History => s.channels.table.isOutstanding p = marked) (acknowledge p)
          fun found _ => found = marked := Leads.onTable fun _ _ hc => hc
      have hmarked := hrenewed.outstanding p (decide_eq_true hp)
      obtain ⟨found, s'', hfound, rfl⟩ :=
        ((leads_acknowledgeEach earlier true).bind fun _ => hack _).exists_ok hmarked
      exact ⟨s'', hfound⟩

/-- Port 2 is queued already, port 3 has lost its action, and port 6 is queued for a procedure. -/
theorem suspend_broadcast_retriggers_every_irq_port_mixed :
    let slot : Nat → Slot
      | 1 => ⟨.deferredHardwareIrq, .deferredHardwareIrq ⟨"line", 11, "serial"⟩, 0, ⟨false⟩, 0⟩
      | 2 => ⟨.deferredHardwareIrq, .deferredHardwareIrq ⟨"disk", 12, "ide"⟩, 0, ⟨true⟩, 4⟩
      | 3 => ⟨.deferredHardwareIrq, .empty, 0, ⟨false⟩, 0⟩
      | 6 => ⟨.deferredProcedure, .deferredProcedure "ring", 0, ⟨true⟩, 0⟩
      | 65 => ⟨.suspend, .suspend, 0, ⟨false⟩, 0⟩
      | _ => .powerOn
    let flags : Bitmap 16 := [2, 6].foldl (fun m bit => m.insert 0 bit) (.replicate 16 .empty)
    let start : Channels := ⟨.zero, ⟨Vector.ofFn fun i => slot i.val, .replicate 16 .empty, flags⟩,
      { callbackIrq := 5 }, false, false, none⟩
    let events : List Port := [⟨65⟩, ⟨65⟩]
    let earlier : List Port := [⟨1⟩, ⟨3⟩]
    start.interruptsMasked = false ∧
    (∀ p, start.table.isQueued p = true → start.table.isFlagged p = true) ∧
    events ≠ [] ∧ (∀ p ∈ events, start.table.kind p = .suspend) ∧
    ∃ ran s' calls,
      (do
        forM events fun p => discard (deliver (Client.reraising.platform 0) p)
        deferredPass (Client.reraising.platform 0)) ⟨start, []⟩ = .ok ran s' ∧
      s'.outside.requests = calls ∧
      calls.filter (Request.startsOn ⟨1⟩) = [.handle .deferred "line" ⟨1⟩] ∧
      calls.filter (Request.startsOn ⟨2⟩) = [.handle .deferred "disk" ⟨2⟩] ∧
      ∃ s'', (do
        forM earlier fun q => discard (acknowledge q)
        acknowledge ⟨3⟩) s' = .ok false s'' := by
  intro slot flags start events earlier
  have hslot (p : Port) : start.table.slot p = slot p.index.val := Vector.getElem_ofFn p.index.isLt
  have hkind (p : Port) : start.table.kind p = (slot p.index.val).kind := congrArg Slot.kind (hslot p)
  have haction (p : Port) : (start.table.slot p).action = (slot p.index.val).action :=
    congrArg Slot.action (hslot p)
  have hflagged (p : Port) (hp : start.table.isQueued p = true) : start.table.isFlagged p = true := by
    rw [ActionTable.isQueued, hslot] at hp
    dsimp only [slot] at hp
    split at hp
    next hi => cases hp
    next hi =>
      obtain rfl : p = ⟨2⟩ := Port.ext (Fin.ext hi)
      decide +kernel
    next hi => cases hp
    next hi =>
      obtain rfl : p = ⟨6⟩ := Port.ext (Fin.ext hi)
      decide +kernel
    next hi => cases hp
    next => cases hp
  have hevents (p : Port) (hp : p ∈ events) : start.table.kind p = .suspend := by
    obtain rfl : p = ⟨65⟩ := by
      rcases List.mem_cons.1 hp with hp | hp
      · exact hp
      · exact List.mem_singleton.1 hp
    exact hkind ⟨65⟩
  obtain ⟨ran, s', calls, hrun, hcalls, hstarts, hacks⟩ :=
    suspend_broadcast_retriggers_every_irq_port.2 Client.reraising ⟨start, []⟩ events rfl hflagged
      (List.cons_ne_nil _ _) hevents
  refine ⟨rfl, hflagged, List.cons_ne_nil _ _, hevents, ran, s', calls, hrun, hcalls, ?_, ?_, ?_⟩
  · exact hstarts ⟨1⟩ ⟨"line", 11, "serial"⟩ (hkind _) (haction _)
  · exact hstarts ⟨2⟩ ⟨"disk", 12, "ide"⟩ (hkind _) (haction _)
  · exact hacks ⟨3⟩ (hkind _) earlier

end EventChannel
