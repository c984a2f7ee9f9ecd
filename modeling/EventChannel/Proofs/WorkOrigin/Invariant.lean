import EventChannel.Proofs.Teardown.Invariant

namespace EventChannel

open Guest

/-- The port that an operation acknowledges. -/
def Operation.acknowledged? : Operation → Option Port
  | channels (.acknowledge port) | table (.acknowledge port) => some port
  | _ => none

namespace Entry

/-- The kind under which a port is published from an entry on, if that tells of one. -/
def publishes? (port : Port) : Entry → Option Kind
  | saw _ (.published p action) _ => if p = port then some action.kind else none
  | saw _ (.slotReset p) _ => if p = port then some .empty else none
  | _ => none

/-- Whether an entry tells of a change to the queued work of a port. -/
def movesWork (port : Port) : Entry → Bool
  | saw _ (.workQueued p _) _ | saw _ (.workClaimed p) _ | saw _ (.workCancelled p _) _
  | saw _ (.slotReset p) _ => p = port
  | _ => false

/-- Whether an operation begins that acknowledges a port. -/
def acknowledges (port : Port) : Entry → Bool
  | began _ op _ => op.acknowledged? = some port
  | _ => false

/-- Whether a mark is due to a port from an entry on: it is when work is queued for a legacy
interrupt, until it is acknowledged or the work is cancelled. -/
def marks? (port : Port) : Entry → Option Bool
  | saw _ (.workQueued p kind) _ => if p = port then some (kind = .deferredHardwareIrq) else none
  | saw _ (.workCancelled p _) _ => if p = port then some false else none
  | began _ op _ => if op.acknowledged? = some port then some false else none
  | _ => none

variable {entry : Entry} {port : Port} {before : History}

theorem marks?_eq_none (hmoves : entry.movesWork port = false)
    (hack : entry.acknowledges port = false) : entry.marks? port = none := by
  unfold marks?
  split
  · rw [if_neg (of_decide_eq_false hmoves)]
  · rw [if_neg (of_decide_eq_false hmoves)]
  · rw [if_neg (of_decide_eq_false hack)]
  · rfl

/-- To acknowledge a port, or to cancel its work, leaves no mark due. -/
theorem unmarks_ne {p : Prop} [Decidable p] : (if p then some false else none) ≠ some true := by
  split
  · exact fun h => Bool.false_ne_true (Option.some.inj h)
  · exact (Option.some_ne_none true).symm

theorem isWaiting_of_still (hmoves : entry.movesWork port = false) :
    History.isWaiting port (entry :: before) = before.isWaiting port := by
  cases hentry : entry.changesWork with
  | false => exact History.isWaiting_cons hentry port before
  | true =>
    cases entry with
    | saw _ event _ =>
      cases event with
      | workQueued p _ | workClaimed p | workCancelled p _ | slotReset p =>
        have hother : p ≠ port := of_decide_eq_false hmoves
        simp only [History.isWaiting, hother, ne_eq, not_false_eq_true, decide_true, decide_false,
          Bool.true_and, Bool.false_or]
      | _ => cases hentry
    | _ => cases hentry

/-- Of all that moves the work of a port, only to queue it leaves it waiting. -/
theorem queues_of_isWaiting (hmoves : entry.movesWork port = true)
    (h : History.isWaiting port (entry :: before) = true) :
    ∃ depth kind state, entry = saw depth (.workQueued port kind) state := by
  unfold movesWork at hmoves
  split at hmoves
  case h_1 depth p kind state =>
    obtain rfl : p = port := of_decide_eq_true hmoves
    exact ⟨depth, kind, state, rfl⟩
  case h_5 => cases hmoves
  all_goals
    rw [History.isWaiting, of_decide_eq_true hmoves, decide_eq_false fun hne => hne rfl] at h
    cases h

theorem called_of_startedDeferred? {handler : HandlerName}
    (h : entry.startedDeferred? = some (handler, port)) :
    ∃ depth state, entry = called depth (.handle .deferred handler port) state := by
  unfold startedDeferred? at h
  split at h
  · cases h
    exact ⟨_, _, rfl⟩
  · cases h

theorem saw_of_claimedHandler? {handler : HandlerName}
    (h : entry.claimedHandler? = some (handler, port)) :
    ∃ depth state, entry = saw depth (.workClaimed port) state := by
  unfold claimedHandler? at h
  split at h
  · split at h
    · obtain ⟨_, -, he⟩ := Option.map_eq_some_iff.1 h
      cases he
      exact ⟨_, _, rfl⟩
    · cases h
  · cases h

end Entry

namespace History

/-- The kind that was published last on a port, unless the port was reset since. -/
def kind (port : Port) (history : History) : Kind :=
  (history.findSome? (Entry.publishes? port)).getD .empty

/-- Whether a port is to be outstanding, since its latest work was queued for a legacy interrupt. -/
def isMarked (port : Port) (history : History) : Bool :=
  (history.findSome? (Entry.marks? port)).getD false

/-- The port whose event a scanner pass is serving, and the kind under which it found the port. -/
def serving? : History → Option (Port × Kind)
  | .saw _ (.noticed (.delivering port kind _)) _ :: _ => some (port, kind)
  | .saw _ (.workQueued ..) _ :: before | .saw _ (.noticed (.suspendBroadcast ..)) _ :: before =>
    serving? before
  | _ => none

/-- A scanner pass calls for deferred work of a port under a kind: it serves an event of the port
under that kind, which is deferred, and interrupts are not masked; or it serves a suspend event, which
is broadcast to the legacy interrupts. -/
def CallsFor (history : History) (state : Channels) (port : Port) (kind : Kind) : Prop :=
  (history.serving? = some (port, kind) ∧ kind.isDeferred = true ∧
    state.interruptsMasked = false) ∨
  (kind = .deferredHardwareIrq ∧ ∃ p, history.serving? = some (p, .suspend))

/-- Work of a port is queued under the kind that is published there, for which a scanner pass called;
a legacy interrupt is outstanding by then. -/
structure Queues (history : History) (state : Channels) (port : Port) (kind : Kind) : Prop where
  called : history.CallsFor state port kind
  published : history.kind port = kind
  found : state.table.kind port = kind
  marked : kind = .deferredHardwareIrq → state.table.isOutstanding port = true

/-- A deferred handler is found under the kind that was published last on its port, and the port is
outstanding if it is to be. -/
structure Starts (history : History) (state : Channels) (handler : HandlerName) (port : Port) :
    Prop where
  deferred : (state.table.kind port).isDeferred = true
  found : state.table.handler? port (state.table.kind port) = some handler
  published : history.kind port = state.table.kind port
  marked : history.isMarked port = true → state.table.isOutstanding port = true

variable {entry : Entry} {port : Port}

theorem kind_cons (entry : Entry) (port : Port) (before : History) :
    kind port (entry :: before) = (entry.publishes? port).getD (before.kind port) := by
  rw [kind, List.findSome?_cons]
  cases entry.publishes? port <;> rfl

theorem isMarked_cons (entry : Entry) (port : Port) (before : History) :
    isMarked port (entry :: before) = (entry.marks? port).getD (before.isMarked port) := by
  rw [isMarked, List.findSome?_cons]
  cases entry.marks? port <;> rfl

/-- A kind is the one that was published before, or it was published since. -/
theorem kind_append (later earlier : History) : kind port (later ++ earlier) = earlier.kind port ∨
    ∃ entry ∈ later, entry.publishes? port = some (kind port (later ++ earlier)) := by
  rw [kind, List.findSome?_append]
  cases hlater : later.findSome? (Entry.publishes? port) with
  | none => exact .inl rfl
  | some kind => exact .inr (List.exists_of_findSome?_eq_some hlater)

/-- A mark that is due stays due while the work is not moved and the port is not acknowledged. -/
theorem isMarked_append {later earlier : History}
    (hmoves : ∀ entry ∈ later, entry.movesWork port = false)
    (hack : ∀ entry ∈ later, entry.acknowledges port = false) (h : earlier.isMarked port = true) :
    isMarked port (later ++ earlier) = true := by
  induction later with
  | nil => exact h
  | cons entry later ih =>
    obtain ⟨hmoves, hlater⟩ := List.forall_mem_cons.1 hmoves
    obtain ⟨hack, hlater'⟩ := List.forall_mem_cons.1 hack
    rw [List.cons_append, isMarked_cons, Entry.marks?_eq_none hmoves hack]
    exact ih hlater hlater'

/-- The work of a port that waits was queued at some point and has not been moved since. -/
theorem exists_queued_of_isWaiting {history : History} (h : history.isWaiting port = true) :
    ∃ later depth kind state earlier,
      history = later ++ .saw depth (.workQueued port kind) state :: earlier ∧
      ∀ entry ∈ later, entry.movesWork port = false := by
  induction history with
  | nil => cases h
  | cons entry before ih =>
    cases hmoves : entry.movesWork port with
    | true =>
      obtain ⟨depth, kind, state, rfl⟩ := Entry.queues_of_isWaiting hmoves h
      exact ⟨[], depth, kind, state, before, rfl, fun _ hmem => absurd hmem List.not_mem_nil⟩
    | false =>
      rw [Entry.isWaiting_of_still hmoves] at h
      obtain ⟨later, depth, kind, state, earlier, rfl, hlater⟩ := ih h
      exact ⟨entry :: later, depth, kind, state, earlier, rfl, List.forall_mem_cons.2 ⟨hmoves, hlater⟩⟩

/-- The claim at the end of a history uses up a queueing of the port's work, after which that work was
not moved any more. -/
structure UsesUp (history : History) (port : Port) (kind : Kind) (state : Channels)
    (later earlier : History) : Prop where
  split : ∃ depth claimed depth', history = .saw depth (.workClaimed port) claimed ::
    (later ++ .saw depth' (.workQueued port kind) state :: earlier)
  still : ∀ entry ∈ later, entry.movesWork port = false

namespace UsesUp

variable {kind : Kind} {state : Channels} {history later earlier : History}

/-- The port has the kind that it had as the work was queued, or has been bound again. -/
theorem kind_eq (h : history.UsesUp port kind state later earlier) :
    history.kind port = earlier.kind port ∨
      ∃ entry ∈ later, entry.publishes? port = some (history.kind port) := by
  obtain ⟨depth, claimed, depth', rfl⟩ := h.split
  exact kind_append later (.saw depth' (.workQueued port kind) state :: earlier)

theorem isMarked_eq (h : history.UsesUp port kind state later earlier)
    (hkind : kind = .deferredHardwareIrq)
    (hack : ∀ entry ∈ later, entry.acknowledges port = false) : history.isMarked port = true := by
  obtain ⟨depth, claimed, depth', rfl⟩ := h.split
  have hqueued : History.isMarked port (.saw depth' (.workQueued port kind) state :: earlier) =
      true := by
    rw [isMarked_cons, Entry.marks?, if_pos rfl, decide_eq_true hkind, Option.getD_some]
  exact isMarked_append h.still hack hqueued

end UsesUp

end History

/-- What is known of every entry about the origin of deferred work. -/
def Entry.TracesWork : Entry → History → Prop
  | saw _ (.workQueued port kind) state, before => before.Queues state port kind
  | called _ .queueDeferred state, before => ∃ port kind, before.CallsFor state port kind
  | called _ (.handle .deferred handler port) state, before => before.Starts state handler port
  | ended _ op _ state, _ => op.bringsDown = true → ∀ port, state.table.isQueued port = false
  | _, _ => True

/-- Every port has the kind that the history suggests, every mark that is due is there, and the
deferred work of every entry so far is traced to its origin. -/
structure Traced (suits : Port → Kind → Kind → Prop) (s : System History) : Prop where
  published : ∀ port, suits port (s.channels.table.kind port) (s.outside.kind port)
  marked : ∀ port, s.outside.isMarked port = true → s.channels.table.isOutstanding port = true
  always : s.outside.Always Entry.TracesWork

/-- What is left of it by a fault. -/
def TracedUntil (s : System History) : Prop := s.outside.Always Entry.TracesWork

namespace Traced

/-- The kind of a port is the one that was published last. -/
def Told (_ : Port) (kind published : Kind) : Prop := kind = published

/-- One port has a kind already that is yet to be told, after another. -/
def Untold (port : Port) (now former : Kind) (q : Port) (kind published : Kind) : Prop :=
  if port = q then kind = now ∧ published = former else kind = published

variable {suits suits' : Port → Kind → Kind → Prop} {state : Channels} {history before : History}
  {entry : Entry}

theorem log (h : Traced suits ⟨state, before⟩)
    (hpublished : ∀ port, suits port (state.table.kind port) (before.kind port) →
      suits' port (state.table.kind port) (History.kind port (entry :: before)))
    (hmarks : ∀ port, entry.marks? port = some true → state.table.isOutstanding port = true)
    (htraces : entry.TracesWork before) : Traced suits' ⟨state, entry :: before⟩ where
  published port := hpublished port (h.published port)
  marked port hport := by
    have hmarked := h.marked port
    rw [History.isMarked_cons] at hport
    cases hentry : entry.marks? port with
    | none =>
      rw [hentry] at hport
      exact hmarked hport
    | some mark =>
      rw [hentry] at hport
      obtain rfl : mark = true := hport
      exact hmarks port hentry
  always := .cons htraces h.always

theorem cons (h : Traced suits ⟨state, before⟩) (hquiet : ∀ port, entry.publishes? port = none)
    (hmarks : ∀ port, entry.marks? port ≠ some true) (htraces : entry.TracesWork before) :
    Traced suits ⟨state, entry :: before⟩ := by
  apply h.log _ (fun port hport => absurd hport (hmarks port)) htraces
  intro port hport
  rw [History.kind_cons, hquiet port]
  exact hport

theorem setTable {t : ActionTable} (h : Traced suits ⟨state, history⟩)
    (hkind : ∀ q, suits q (state.table.kind q) (history.kind q) →
      suits' q (t.kind q) (history.kind q))
    (hmarked : ∀ q, history.isMarked q = true → state.table.isOutstanding q = true →
      t.isOutstanding q = true) :
    Traced suits' ⟨{ state with table := t }, history⟩ where
  published q := hkind q (h.published q)
  marked q hq := hmarked q hq (h.marked q hq)
  always := h.always

/-- What is told of one port leaves the others told. -/
theorem told_of_untold {port : Port} {now former : Kind}
    (h : Traced (Untold port now former) ⟨state, before⟩)
    (hport : entry.publishes? port = some now) (hother : ∀ q, port ≠ q → entry.publishes? q = none)
    (hmarks : ∀ q, entry.marks? q ≠ some true) (htraces : entry.TracesWork before) :
    Traced Told ⟨state, entry :: before⟩ := by
  apply h.log _ (fun q hq => absurd hq (hmarks q)) htraces
  intro q hq
  rw [History.kind_cons]
  unfold Untold at hq
  split at hq
  next he =>
    rw [← he, hport]
    exact he ▸ hq.1
  next hne =>
    rw [hother q hne]
    exact hq

end Traced

end EventChannel
