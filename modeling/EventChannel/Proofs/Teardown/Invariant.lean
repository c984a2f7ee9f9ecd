import EventChannel.Proofs.Invocation
import EventChannel.Proofs.WorkAccount.Ledger

namespace EventChannel

open Guest

namespace Operation

/-- Whether an operation brings the event channels up. -/
def bringsUp : Operation → Bool
  | channels .init | channels .resume => true
  | _ => false

def bringsDown : Operation → Bool
  | channels .suspend | channels .shutdown => true
  | _ => false

end Operation

namespace Entry

/-- Whether an operation of a class begins at an entry. -/
def begins (class? : Operation → Bool) : Entry → Bool
  | began _ op _ => class? op
  | _ => false

def ends (class? : Operation → Bool) : Entry → Bool
  | ended _ op _ _ => class? op
  | _ => false

/-- Whether a scanner pass has just broadcast a suspend event. -/
def tellsBroadcast : Entry → Bool
  | saw _ (.noticed (.suspendBroadcast ..)) _ => true
  | _ => false

/-- Whether a deferred run starts the handler of a port in a certain word of the queue. -/
def startsIn (word : Fin 16) : Entry → Bool
  | called _ (.handle .deferred _ port) _ => port.word = word
  | _ => false

/-- Whether an operation of a depth begins or ends at an entry. -/
def bounds (depth : Nat) : Entry → Bool
  | began d _ _ | ended d _ _ _ => d = depth
  | saw .. | called .. | answered .. => false

end Entry

namespace History

/-- How many operations that bring the event channels up are under way. -/
def bringUps (history : History) : Nat := history.openCount Operation.bringsUp

/-- Whether an operation has begun to bring the event channels down, and since then none has begun
to bring them up and none under way has enabled delivery. -/
def isClosing : History → Bool
  | [] => false
  | entry :: before =>
    entry.begins Operation.bringsDown || isClosing before && !entry.begins Operation.bringsUp &&
      (entry.state.interruptsMasked || bringUps before = 0)

/-- The same, and an operation that brings them down has ended. -/
def isDown : History → Bool
  | [] => false
  | entry :: before =>
    isClosing (entry :: before) && (entry.ends Operation.bringsDown || isDown before)

/-- Whether a suspend event has been broadcast since the event channels were last brought down. -/
def isRetriggered : History → Bool
  | [] => false
  | entry :: before =>
    !entry.ends Operation.bringsDown && (entry.tellsBroadcast || isRetriggered before)

/-- Whether the operation of a depth waits for a handler that it has started in a certain word. -/
def awaits (depth : Nat) (word : Fin 16) : History → Bool
  | [] => false
  | entry :: before => if entry.depth = depth then entry.startsIn word else awaits depth word before

/-- Whether the operation of a depth is a deferred run that was in the middle of a certain word when
the event channels were last brought down, so that it had taken the word before. -/
def outlasts (depth : Nat) (word : Fin 16) : History → Bool
  | [] => false
  | entry :: before =>
    if entry.ends Operation.bringsDown then awaits depth word before
    else !entry.bounds depth && outlasts depth word before

/-- A deferred run has claimed the work of a port just now, in a word that it had taken before the
event channels were last brought down. -/
inductive IsBelated (port : Port) : History → Prop where
  | intro {depth state before} (taken : outlasts depth port.word before = true) :
    IsBelated port (.saw depth (.workClaimed port) state :: before)

variable {entry : Entry} {before : History}

theorem isClosing_of_isDown {history : History} (h : history.isDown = true) :
    history.isClosing = true := by
  cases history with
  | nil => cases h
  | cons entry before =>
    rw [isDown, Bool.and_eq_true] at h
    exact h.1

theorem isClosing_of_cons (hbegins : entry.begins Operation.bringsDown = false)
    (h : isClosing (entry :: before) = true) : before.isClosing = true ∧
      (entry.state.interruptsMasked = true ∨ bringUps before = 0) := by
  rw [isClosing, hbegins, Bool.false_or, Bool.and_eq_true, Bool.and_eq_true, Bool.or_eq_true,
    decide_eq_true_eq] at h
  exact ⟨h.1.1, h.2⟩

theorem isDown_of_cons (hends : entry.ends Operation.bringsDown = false)
    (h : isDown (entry :: before) = true) : before.isDown = true := by
  rw [isDown, hends, Bool.false_or, Bool.and_eq_true] at h
  exact h.2

theorem isRetriggered_cons (hends : entry.ends Operation.bringsDown = false)
    (h : before.isRetriggered = true) : isRetriggered (entry :: before) = true := by
  rw [isRetriggered, hends, h, Bool.or_true]
  rfl

/-- A suspend event was broadcast if the event channels are down. -/
def IsExcused (history : History) : Prop := history.isDown = true → history.isRetriggered = true

theorem IsExcused.cons (hends : entry.ends Operation.bringsDown = false) (h : before.IsExcused) :
    IsExcused (entry :: before) :=
  fun hdown => isRetriggered_cons hends (h (isDown_of_cons hends hdown))

/-- The deferred run of a depth took a word before the event channels were last brought down, if they
are. -/
def TookBefore (depth : Nat) (word : Fin 16) (history : History) : Prop :=
  history.isDown = true → history.outlasts depth word = true

/-- If the event channels are down, a handler may be started for a port only if a suspend event was
broadcast since, and only by a deferred run that took the word before. -/
def MayStart (port : Port) (history : History) : Prop :=
  history.isDown = true → history.isRetriggered = true ∧ history.IsBelated port

section TookBefore

variable {depth : Nat} {word : Fin 16}

theorem TookBefore.cons (hends : entry.ends Operation.bringsDown = false)
    (hbounds : entry.bounds depth = false) (h : before.TookBefore depth word) :
    TookBefore depth word (entry :: before) := by
  intro hdown
  rw [outlasts, hends, hbounds, h (isDown_of_cons hends hdown)]
  rfl

/-- While a run waits for a handler that it has started in a word, a teardown may end. -/
theorem TookBefore.cons_below (hdepth : entry.depth < depth)
    (h : before.awaits depth word = true ∧ before.TookBefore depth word) :
    awaits depth word (entry :: before) = true ∧ TookBefore depth word (entry :: before) := by
  obtain ⟨hawaits, htook⟩ := h
  have hne : entry.depth ≠ depth := Nat.ne_of_lt hdepth
  refine ⟨(if_neg hne).trans hawaits, ?_⟩
  cases hends : entry.ends Operation.bringsDown with
  | true =>
    intro _
    rw [outlasts, hends]
    exact hawaits
  | false =>
    apply TookBefore.cons hends _ htook
    cases entry with
    | began | ended => exact decide_eq_false hne
    | _ => rfl

/-- The work of a port is claimed in the word that was taken. -/
theorem MayStart.of_claim {port : Port} {state : Channels} (hexcused : before.IsExcused)
    (htook : before.TookBefore depth port.word) :
    MayStart port (.saw depth (.workClaimed port) state :: before) := by
  intro hdown
  have hbefore := isDown_of_cons rfl hdown
  exact ⟨isRetriggered_cons rfl (hexcused hbefore), .intro (htook hbefore)⟩

end TookBefore

end History

/-- While the event channels are down interrupts are masked, and a deferred handler is started only
after a suspend event was broadcast meanwhile, and only by a deferred run that was in the middle of
its word as the event channels were brought down. -/
structure Entry.RespectsTeardown (entry : Entry) (before : History) : Prop where
  masked : History.isDown (entry :: before) = true → entry.state.interruptsMasked = true
  idle : ∀ handler port, entry.startedDeferred? = some (handler, port) → before.MayStart port

/-- What holds while so many operations bring the event channels up. That interrupts are masked may
have to be settled first, and what was queued may have to be drained. -/
structure Closed (n : Nat) (settled drained : Prop) (s : System History) : Prop where
  bringUps : s.outside.bringUps = n
  always : s.outside.Always Entry.RespectsTeardown
  masked : settled → s.outside.isClosing = true → s.channels.interruptsMasked = true
  idle : drained → s.outside.IsExcused ∨ QueuedAmong [] s

/-- What is left of it by a fault. -/
def ClosedUntil (s : System History) : Prop := s.outside.Always Entry.RespectsTeardown

namespace Closed

variable {c : Client} {depth : Nat} {α : Type} {port : Port} {n m : Nat}
  {settled drained : Prop}

theorem weaken {settled' drained' : Prop} {s : System History} (h : Closed n settled drained s)
    (hsettled : settled' → settled) (hdrained : drained' → drained) :
    Closed n settled' drained' s :=
  ⟨h.bringUps, h.always, fun hs => h.masked (hsettled hs), fun hd => h.idle (hdrained hd)⟩

theorem masked_of_isDown {s : System History} (h : Closed n True drained s)
    (hdown : s.outside.isDown = true) : s.channels.interruptsMasked = true :=
  h.masked trivial (History.isClosing_of_isDown hdown)

theorem isExcused_of_open {s : System History} (h : Closed n True drained s)
    (hopen : s.channels.interruptsMasked = false) : s.outside.IsExcused :=
  fun hdown => absurd (h.masked_of_isDown hdown) (Bool.eq_false_iff.1 hopen)

section Entries

variable {entry : Entry} {state : Channels} {before : History}

theorem log {drained' : Prop} (h : Closed n settled drained ⟨state, before⟩)
    (hsettled : n = 0 → settled) (hstate : entry.state = state)
    (hbringUps : History.bringUps (entry :: before) = m)
    (hbegins : entry.begins Operation.bringsDown = false)
    (hstarts : ∀ handler port, entry.startedDeferred? = some (handler, port) → before.MayStart port)
    (hidle : drained' → History.IsExcused (entry :: before) ∨
      QueuedAmong [] (⟨state, entry :: before⟩ : System History)) :
    Closed m True drained' ⟨state, entry :: before⟩ := by
  have hmasked (hclosing : History.isClosing (entry :: before) = true) :
      state.interruptsMasked = true := by
    -- Only a bring-up under way can have enabled delivery, and then the entry shows it.
    obtain ⟨hclosing, hmasked | hnone⟩ := History.isClosing_of_cons hbegins hclosing
    · exact hstate ▸ hmasked
    · exact h.masked (hsettled (h.bringUps.symm.trans hnone)) hclosing
  have hentry : entry.RespectsTeardown before :=
    ⟨fun hdown => hstate ▸ hmasked (History.isClosing_of_isDown hdown), hstarts⟩
  exact ⟨hbringUps, .cons hentry h.always, fun _ => hmasked, hidle⟩

theorem cons (h : Closed n settled drained ⟨state, before⟩) (hsettled : n = 0 → settled)
    (hstate : entry.state = state) (hbringUps : History.bringUps (entry :: before) = m)
    (hbegins : entry.begins Operation.bringsDown = false)
    (hends : entry.ends Operation.bringsDown = false)
    (hstarts : ∀ handler port, entry.startedDeferred? = some (handler, port) →
      before.MayStart port) :
    Closed m True drained ⟨state, entry :: before⟩ :=
  h.log hsettled hstate hbringUps hbegins hstarts fun hdrained =>
    (h.idle hdrained).imp_left (History.IsExcused.cons hends)

/-- As an operation begins to bring the event channels down, interrupts may not be masked yet. -/
theorem began (h : Closed n True drained ⟨state, before⟩) (depth : Nat) (op : Operation) :
    Closed (n + op.bringsUp.toNat) False drained ⟨state, .began depth op state :: before⟩ := by
  have hentry : (Entry.began depth op state).RespectsTeardown before := by
    refine ⟨fun hdown => h.masked trivial ?_, nofun⟩
    exact History.isClosing_of_isDown (History.isDown_of_cons rfl hdown)
  have hcount := History.openCount_began Operation.bringsUp depth op state before
  exact ⟨h.bringUps ▸ hcount, .cons hentry h.always, False.elim,
    fun hdrained => (h.idle hdrained).imp_left (History.IsExcused.cons rfl)⟩

end Entries

end Closed

end EventChannel
