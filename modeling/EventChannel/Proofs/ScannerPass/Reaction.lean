import EventChannel.PassOutcome
import EventChannel.Platform
import EventChannel.Proofs.ActionTable

namespace EventChannel

/-- What servicing an event on a port of the kind reports. -/
def Kind.outcome : Kind → PassOutcome
  | .empty | .normal => .onlyHandled
  | .deferredProcedure | .deferredHardwareIrq | .suspend => .handledDeferred

namespace ActionTable

variable (t : ActionTable)

/-- Whether a legacy interrupt is published on the port. -/
def isIrq (port : Port) : Bool := decide (t.kind port = .deferredHardwareIrq)

/-- Events on the ports mark the port outstanding: a legacy interrupt is marked by its own events and
by those on a port for suspend broadcasts. -/
def marks (ports : List Port) (port : Port) : Bool :=
  t.isIrq port && (ports.contains port || ports.any fun p => decide (t.kind p = .suspend))

/-- Events on the ports put the port's work item on the queue. -/
def queues (ports : List Port) (port : Port) : Bool :=
  t.marks ports port || decide (t.kind port = .deferredProcedure) && ports.contains port

/-- The calls that servicing an event on a port makes, after events on other ports. A deferred run is
requested for work that is not queued already. -/
def requestsAt (earlier : List Port) (port : Port) : List Request :=
  match t.kind port with
  | .empty => []
  | .normal =>
    match t.handler? port .normal with
    | some handler => [.handle .inline handler port]
    | none => []
  | .deferredProcedure | .deferredHardwareIrq =>
    if t.isQueued port || t.queues earlier port then [] else [.queueDeferred]
  | .suspend =>
    if Port.all.any fun p => t.isIrq p && !(t.isQueued p || t.queues earlier p)
    then [.queueDeferred] else []

/-- The calls that servicing events on ports in turn makes, after events on other ports. -/
def requests (earlier : List Port) : List Port → List Request
  | [] => []
  | port :: ports => t.requestsAt earlier port ++ requests (earlier ++ [port]) ports

/-- What servicing events on ports reports. -/
def outcome (ports : List Port) : PassOutcome :=
  ⟨!ports.isEmpty, ports.any fun p => (t.kind p).outcome.deferred⟩

/-- A table that differs from another in this only: some deliveries have been counted, some ports
marked outstanding, and some work items queued. -/
structure Gains (counted marked queued : Port → Bool) (u : ActionTable) : Prop where
  slot : ∀ q, u.slot q = { t.slot q with
    work := ⟨t.isQueued q || queued q⟩
    deliveries := if counted q then (t.slot q).deliveries + 1 else (t.slot q).deliveries }
  outstanding : ∀ q, u.isOutstanding q = (t.isOutstanding q || marked q)
  flagged : ∀ q, u.isFlagged q = (t.isFlagged q || !t.isQueued q && queued q)

def nowhere (_ : Port) : Bool := false

variable {t} {u v : ActionTable} {counted counted' marked marked' queued queued' : Port → Bool}
  {ports : List Port} {p q : Port}

theorem queues_nil : t.queues [] = nowhere := by
  funext q
  simp only [queues, marks, nowhere, List.contains_nil, List.any_nil, Bool.or_self, Bool.and_false]

theorem contains_singleton (p q : Port) : [p].contains q = decide (p = q) := by
  rw [List.contains_cons, List.contains_nil, Bool.or_false, Bool.beq_eq_decide_eq, decide_eq_decide]
  exact eq_comm

theorem isIrq_and_contains_cons (hp : t.isIrq p = false) (list : List Port) (q : Port) :
    (t.isIrq q && list.contains q) = (t.isIrq q && (p :: list).contains q) := by
  rw [List.contains_cons, Bool.beq_eq_decide_eq]
  by_cases hq : q = p
  · rw [hq, hp, Bool.false_and, Bool.false_and]
  · rw [decide_eq_false hq, Bool.false_or]

namespace Gains

theorem kind (h : t.Gains counted marked queued u) (q : Port) : u.kind q = t.kind q := by
  rw [ActionTable.kind, h.slot]
  rfl

theorem handler (h : t.Gains counted marked queued u) (q : Port) (expected : Kind) :
    u.handler? q expected = t.handler? q expected := by
  rw [handler?, h.slot]
  rfl

theorem isQueued (h : t.Gains counted marked queued u) (q : Port) :
    u.isQueued q = (t.isQueued q || queued q) := by
  rw [ActionTable.isQueued, h.slot]

theorem isIrq_eq (h : t.Gains counted marked queued u) (q : Port) : u.isIrq q = t.isIrq q := by
  rw [isIrq, h.kind]
  rfl

theorem marks_eq (h : t.Gains counted marked queued u) (ports : List Port) (q : Port) :
    u.marks ports q = t.marks ports q := by
  simp only [marks, h.isIrq_eq, h.kind]

theorem queues_eq (h : t.Gains counted marked queued u) (ports : List Port) (q : Port) :
    u.queues ports q = t.queues ports q := by
  simp only [queues, h.marks_eq, h.kind]

theorem refl (t : ActionTable) : t.Gains nowhere nowhere nowhere t := by
  refine ⟨fun q => ?_, fun q => ?_, fun q => ?_⟩
  · rw [nowhere, Bool.or_false]
    rfl
  · rw [nowhere, Bool.or_false]
  · rw [nowhere, Bool.and_false, Bool.or_false]

/-- A delivery is counted once. -/
theorem trans (h : t.Gains counted marked queued u) (h' : u.Gains counted' marked' queued' v)
    (hcounted : ∀ q, counted q = true → counted' q = false) :
    t.Gains (fun q => counted q || counted' q) (fun q => marked q || marked' q)
      (fun q => queued q || queued' q) v := by
  refine ⟨fun q => ?_, fun q => ?_, fun q => ?_⟩
  · rw [h'.slot, h.isQueued, h.slot, Bool.or_assoc]
    cases hq : counted q with
    | true =>
      rw [hcounted q hq]
      rfl
    | false => rfl
  · rw [h'.outstanding, h.outstanding, Bool.or_assoc]
  · rw [h'.flagged, h.flagged, h.isQueued]
    cases t.isFlagged q <;> cases t.isQueued q <;> cases queued q <;> rfl

theorem congr (h : t.Gains counted marked queued u) (hcounted : ∀ q, counted q = counted' q)
    (hmarked : ∀ q, marked q = marked' q) (hqueued : ∀ q, queued q = queued' q) :
    t.Gains counted' marked' queued' u := by
  obtain rfl : counted = counted' := funext hcounted
  obtain rfl : marked = marked' := funext hmarked
  obtain rfl : queued = queued' := funext hqueued
  exact h

theorem countDelivery (t : ActionTable) (p : Port) :
    t.Gains (fun q => decide (p = q)) nowhere nowhere (t.countDelivery p).2 := by
  refine ⟨fun q => ?_, fun q => ?_, fun q => ?_⟩
  · change (t.setDeliveries p ((t.slot p).deliveries + 1)).slot q = _
    rw [setDeliveries, slot_modifySlot, nowhere, Bool.or_false]
    by_cases hq : p = q
    · subst hq
      rw [if_pos rfl, decide_eq_true rfl]
      rfl
    · rw [if_neg hq, decide_eq_false hq]
      rfl
  · rw [nowhere, Bool.or_false]
    rfl
  · rw [nowhere, Bool.and_false, Bool.or_false]
    rfl

theorem setOutstanding (t : ActionTable) (p : Port) :
    t.Gains nowhere (fun q => decide (p = q)) nowhere (t.setOutstanding p).2 := by
  refine ⟨fun q => ?_, fun q => ?_, fun q => ?_⟩
  · rw [nowhere, Bool.or_false]
    rfl
  · rw [isOutstanding_setOutstanding]
    by_cases hq : p = q
    · rw [if_pos hq, decide_eq_true hq, Bool.or_true]
    · rw [if_neg hq, decide_eq_false hq, Bool.or_false]
  · rw [nowhere, Bool.and_false, Bool.or_false]
    rfl

theorem enqueue (t : ActionTable) (p : Port) :
    t.Gains nowhere nowhere (fun q => decide (p = q)) (t.enqueue p).2 := by
  refine ⟨fun q => ?_, fun q => ?_, fun q => ?_⟩
  · rw [slot_enqueue, setWork, slot_modifySlot]
    by_cases hq : p = q
    · rw [if_pos hq, decide_eq_true hq, Bool.or_true]
      rfl
    · rw [if_neg hq, decide_eq_false hq, Bool.or_false]
      rfl
  · rw [isOutstanding_enqueue, nowhere, Bool.or_false]
  · by_cases hp : t.isQueued p = true
    · rw [t.isFlagged_enqueue_of_queued p q hp]
      by_cases hq : p = q
      · rw [← hq, hp, Bool.not_true, Bool.false_and, Bool.or_false]
      · rw [decide_eq_false hq, Bool.and_false, Bool.or_false]
    · rw [Bool.not_eq_true] at hp
      rw [t.isFlagged_enqueue p q hp]
      by_cases hq : p = q
      · rw [if_pos hq, ← hq, hp, decide_eq_true rfl, Bool.not_false, Bool.and_true, Bool.or_true]
      · rw [if_neg hq, decide_eq_false hq, Bool.and_false, Bool.or_false]

/-- A port that is renewed is marked outstanding and queued. -/
theorem renew (t : ActionTable) (p : Port) :
    t.Gains nowhere (fun q => decide (p = q)) (fun q => decide (p = q))
      ((t.setOutstanding p).2.enqueue p).2 :=
  ((setOutstanding t p).trans (enqueue _ p) fun _ h => absurd h Bool.false_ne_true).congr
    (fun _ => rfl) (fun _ => Bool.or_false _) fun _ => Bool.false_or _

/-- Renewing a legacy interrupt port and then those of a list. -/
theorem renew_cons {list : List Port} (hp : t.isIrq p = true)
    (h : ((t.setOutstanding p).2.enqueue p).2.Gains nowhere (fun q => t.isIrq q && list.contains q)
      (fun q => t.isIrq q && list.contains q) u) :
    t.Gains nowhere (fun q => t.isIrq q && (p :: list).contains q)
      (fun q => t.isIrq q && (p :: list).contains q) u := by
  have hcons (q : Port) : (decide (p = q) || t.isIrq q && list.contains q) =
      (t.isIrq q && (p :: list).contains q) := by
    rw [List.contains_cons, Bool.beq_eq_decide_eq]
    by_cases hq : p = q
    · rw [← hq, hp, decide_eq_true rfl]
      rfl
    · have hq' : ¬q = p := fun he => hq he.symm
      rw [decide_eq_false hq, decide_eq_false hq']
      rfl
  exact ((renew t p).trans h fun _ he => absurd he Bool.false_ne_true).congr (fun _ => rfl) hcons hcons

/-- After events on some ports, servicing one on another makes the calls that are left to make. -/
theorem requestsAt_eq (h : t.Gains counted marked (t.queues ports) u) (p : Port) :
    u.requestsAt [] p = t.requestsAt ports p := by
  have hqueued (q : Port) : (u.isQueued q || u.queues [] q) = (t.isQueued q || t.queues ports q) := by
    rw [queues_nil, nowhere, Bool.or_false, h.isQueued]
  simp only [requestsAt, h.kind, h.isIrq_eq, h.handler, hqueued]

end Gains

theorem marks_of_suspend (h : t.kind p = .suspend) (q : Port) :
    t.marks [p] q = t.isIrq q := by
  rw [marks, List.any_cons, h, decide_eq_true rfl, Bool.true_or, Bool.or_true, Bool.and_true]

theorem marks_of_ne_suspend (h : t.kind p ≠ .suspend) (q : Port) :
    t.marks [p] q = (t.isIrq p && decide (p = q)) := by
  rw [marks, List.any_cons, List.any_nil, decide_eq_false h, Bool.or_self, Bool.or_false]
  rw [contains_singleton]
  by_cases hq : p = q
  · rw [hq]
  · rw [decide_eq_false hq, Bool.and_false, Bool.and_false]

theorem queues_of_suspend (h : t.kind p = .suspend) (q : Port) :
    t.queues [p] q = t.isIrq q := by
  have hnot : (decide (t.kind q = .deferredProcedure) && [p].contains q) = false := by
    rw [contains_singleton]
    by_cases hq : p = q
    · rw [← hq, h]
      rfl
    · rw [decide_eq_false hq, Bool.and_false]
  rw [queues, marks_of_suspend h, hnot, Bool.or_false]

theorem queues_of_ne_suspend (h : t.kind p ≠ .suspend) (q : Port) :
    t.queues [p] q = ((t.kind p).isDeferred && decide (p = q)) := by
  rw [queues, marks_of_ne_suspend h, contains_singleton]
  by_cases hq : p = q
  · rw [← hq, decide_eq_true rfl, isIrq]
    cases t.kind p <;> rfl
  · rw [decide_eq_false hq, Bool.and_false, Bool.and_false, Bool.and_false, Bool.or_self]

section Members

variable {earlier later : List Port} (h : ∀ p, p ∈ ports ↔ p ∈ earlier ∨ p ∈ later)

include h

theorem any_of_mem (f : Port → Bool) : ports.any f = (earlier.any f || later.any f) := by
  rw [Bool.eq_iff_iff, Bool.or_eq_true, List.any_eq_true, List.any_eq_true, List.any_eq_true]
  simp only [h, or_and_right, exists_or]

theorem contains_of_mem (q : Port) :
    ports.contains q = (earlier.contains q || later.contains q) := by
  rw [Bool.eq_iff_iff, Bool.or_eq_true, List.contains_iff_mem, List.contains_iff_mem,
    List.contains_iff_mem, h]

/-- What events on ports do to a port does not depend on their order. -/
theorem marks_of_mem (q : Port) : t.marks ports q = (t.marks earlier q || t.marks later q) := by
  rw [marks, marks, marks, contains_of_mem h, any_of_mem h, ← Bool.and_or_distrib_left]
  ac_rfl

theorem queues_of_mem (q : Port) : t.queues ports q = (t.queues earlier q || t.queues later q) := by
  rw [queues, queues, queues, marks_of_mem h, contains_of_mem h, Bool.and_or_distrib_left]
  ac_rfl

theorem outcome_of_mem : t.outcome ports = t.outcome earlier ∪ t.outcome later := by
  have hhandled (list : List Port) : (!list.isEmpty) = list.any fun _ => true := by
    cases list <;> rfl
  apply PassOutcome.ext
  · change (!ports.isEmpty) = (!earlier.isEmpty || !later.isEmpty)
    rw [hhandled, hhandled, hhandled, any_of_mem h]
  · exact any_of_mem h _

end Members

namespace Gains

theorem of_prompt (hkind : t.kind p = .empty ∨ t.kind p = .normal) :
    t.Gains nowhere (t.marks [p]) (t.queues [p]) t := by
  have hsuspend : t.kind p ≠ .suspend := by rcases hkind with h | h <;> rw [h] <;> nofun
  apply (refl t).congr (fun _ => rfl)
  · intro q
    rw [marks_of_ne_suspend hsuspend, isIrq]
    rcases hkind with h | h <;> rw [h] <;> rfl
  · intro q
    rw [queues_of_ne_suspend hsuspend]
    rcases hkind with h | h <;> rw [h] <;> rfl

theorem of_deferredProcedure (hkind : t.kind p = .deferredProcedure) :
    t.Gains nowhere (t.marks [p]) (t.queues [p]) (t.enqueue p).2 := by
  have hsuspend : t.kind p ≠ .suspend := hkind ▸ nofun
  apply (enqueue t p).congr (fun _ => rfl)
  · intro q
    rw [marks_of_ne_suspend hsuspend, isIrq, hkind]
    rfl
  · intro q
    rw [queues_of_ne_suspend hsuspend, hkind]
    rfl

theorem of_deferredHardwareIrq (hkind : t.kind p = .deferredHardwareIrq) :
    t.Gains nowhere (t.marks [p]) (t.queues [p]) ((t.setOutstanding p).2.enqueue p).2 := by
  have hsuspend : t.kind p ≠ .suspend := hkind ▸ nofun
  apply (renew t p).congr (fun _ => rfl)
  · intro q
    rw [marks_of_ne_suspend hsuspend, isIrq, hkind]
    rfl
  · intro q
    rw [queues_of_ne_suspend hsuspend, hkind]
    rfl

/-- A broadcast is the event of a port for suspend broadcasts. -/
theorem of_suspend (h : t.Gains nowhere t.isIrq t.isIrq u) (hkind : t.kind p = .suspend) :
    t.Gains nowhere (t.marks [p]) (t.queues [p]) u :=
  h.congr (fun _ => rfl) (fun q => (marks_of_suspend hkind q).symm)
    fun q => (queues_of_suspend hkind q).symm

end Gains

/-- What a table has gained from events on some ports and then gains from events on others. -/
theorem Gains.merge {earlier later : List Port}
    (h : t.Gains earlier.contains (t.marks earlier) (t.queues earlier) u)
    (h' : u.Gains later.contains (u.marks later) (u.queues later) v)
    (hmem : ∀ p, p ∈ ports ↔ p ∈ earlier ∨ p ∈ later) (hnew : ∀ p ∈ earlier, p ∉ later) :
    t.Gains ports.contains (t.marks ports) (t.queues ports) v := by
  have hcounted (q : Port) (hq : earlier.contains q = true) : later.contains q = false := by
    rw [← Bool.not_eq_true, List.contains_iff_mem]
    exact hnew q (List.contains_iff_mem.1 hq)
  apply (h.trans h' hcounted).congr
  · exact fun q => (contains_of_mem hmem q).symm
  · intro q
    rw [h.marks_eq, marks_of_mem hmem]
  · intro q
    rw [h.queues_eq, queues_of_mem hmem]

theorem Gains.append (h : t.Gains ports.contains (t.marks ports) (t.queues ports) u)
    (h' : u.Gains [p].contains (u.marks [p]) (u.queues [p]) v) (hp : p ∉ ports) :
    t.Gains (ports ++ [p]).contains (t.marks (ports ++ [p])) (t.queues (ports ++ [p])) v :=
  h.merge h' (fun _ => List.mem_append) fun _ hq hqp => hp (List.mem_singleton.1 hqp ▸ hq)

/-- Nothing else about a table that has gained something is left open. -/
theorem Gains.unique (h : t.Gains counted marked queued u) (h' : t.Gains counted marked queued v) :
    u = v := by
  apply ext_ports
  · exact fun q => (h.slot q).trans (h'.slot q).symm
  · exact fun q => (h.outstanding q).trans (h'.outstanding q).symm
  · exact fun q => (h.flagged q).trans (h'.flagged q).symm

/-- Before any other event, whether a run is requested depends on what is queued already. -/
theorem requestsAt_of_isDeferred (h : (t.kind p).isDeferred = true) :
    t.requestsAt [] p = if t.isQueued p then [] else [.queueDeferred] := by
  rw [requestsAt, queues_nil, nowhere, Bool.or_false]
  cases hkind : t.kind p with
  | deferredProcedure | deferredHardwareIrq => rfl
  | empty | normal | suspend =>
    rw [hkind] at h
    cases h

theorem requestsAt_of_suspend (h : t.kind p = .suspend) :
    t.requestsAt [] p =
      if Port.all.any fun q => t.isIrq q && !t.isQueued q then [.queueDeferred] else [] := by
  simp only [requestsAt, h, queues_nil, nowhere, Bool.or_false]

theorem requests_append (earlier ports : List Port) (p : Port) :
    t.requests earlier (ports ++ [p]) =
      t.requests earlier ports ++ t.requestsAt (earlier ++ ports) p := by
  induction ports generalizing earlier with
  | nil => rw [List.nil_append, requests, requests, requests, List.append_nil, List.append_nil,
      List.nil_append]
  | cons port ports ih =>
    rw [List.cons_append, requests, requests, ih, List.append_assoc, List.append_assoc]
    rfl

theorem outcome_append (ports : List Port) (p : Port) :
    t.outcome (ports ++ [p]) = t.outcome ports ∪ (t.kind p).outcome := by
  have hone : t.outcome [p] = (t.kind p).outcome := by
    rw [outcome, List.any_cons, List.any_nil, Bool.or_false]
    cases t.kind p <;> rfl
  rw [← hone]
  exact outcome_of_mem fun _ => List.mem_append

end ActionTable

end EventChannel
