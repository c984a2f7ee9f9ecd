import EventChannel.Proofs.ActionTable
import EventChannel.Proofs.History
import EventChannel.Proofs.Keeping.Operation

namespace EventChannel

open Guest

def Operation.isLifecycle : Operation → Bool
  | channels op => op.isLifecycle
  | page _ | vcpu _ _ | table _ => false

/-- Whether an operation leaves it to the event channels to queue work and to run it. -/
def Operation.leavesWork : Operation → Bool
  | table op => !op.movesWork
  | page _ | vcpu _ _ | channels _ => true

namespace History

/-- Whether the host was asked for a deferred run since the latest one began that did not find
interrupts masked. -/
def isRequested : History → Bool
  | [] => false
  | .called _ .queueDeferred _ :: _ => true
  | .began _ (.channels .deferredPass) state :: before =>
    state.interruptsMasked && isRequested before
  | _ :: before => isRequested before

/-- How many operations are under way. -/
def running (history : History) : Nat := history.openCount fun _ => true

def lifecycles (history : History) : Nat := history.openCount Operation.isLifecycle

end History

/-- Deferred work that is queued can be found in the bitmap, and unless interrupts are masked the
host has yet to run it. -/
def NothingStranded (state : Channels) (history : History) : Prop :=
  ∀ port, state.table.isQueued port = true → state.table.isFlagged port = true ∧
    (state.interruptsMasked = false → history.isRequested = true)

/-- No work is stranded when the last operation under way has ended. -/
def Entry.StrandsNothing (entry : Entry) (before : History) : Prop :=
  History.running (entry :: before) = 0 → NothingStranded entry.state (entry :: before)

/-- An operation under way, by what it has still to do about deferred work. -/
inductive Frame where
  /-- A request for a deferred run may be due. -/
  | ordinary (due : Bool)
  /-- A deferred run has captured some ports with their word and awaits the words of others. -/
  | draining (captured awaited : Port → Prop)
  /-- The event channels are brought up or down, and while that is calm nothing is queued. -/
  | lifecycle (calm : Bool)

namespace Frame

def captures : Frame → Port → Prop
  | draining captured _, port => captured port
  | ordinary _, _ | lifecycle _, _ => False

def awaits : Frame → Port → Prop
  | ordinary due, _ => due = true
  | draining _ awaited, port => awaited port
  | lifecycle _, _ => False

def isLifecycle : Frame → Bool
  | lifecycle _ => true
  | ordinary _ | draining _ _ => false

/-- The frame of an operation that begins. -/
def opening : Operation → Frame
  | .channels .deferredPass => draining (fun _ => False) fun _ => True
  | op => if op.isLifecycle then lifecycle false else ordinary false

theorem opening_of_ne {op : Operation} (h : op ≠ .channels .deferredPass) :
    opening op = if op.isLifecycle then lifecycle false else ordinary false := by
  rw [opening]
  exact h

theorem isLifecycle_opening (op : Operation) : (opening op).isLifecycle = op.isLifecycle := by
  unfold opening
  split
  · rfl
  · cases op.isLifecycle <;> rfl

end Frame

def Captured : List Frame → Port → Prop
  | [], _ => False
  | frame :: frames, port => frame.captures port ∨ Captured frames port

def Awaited : List Frame → Port → Prop
  | [], _ => False
  | frame :: frames, port => frame.awaits port ∨ Awaited frames port

/-- Every queued port is accounted for while operations are under way, the innermost first. -/
structure Attending (frames : List Frame) (state : Channels) (history : History) : Prop where
  tracked : ∀ port, state.table.isQueued port = true →
    state.table.isFlagged port = true ∨ Captured frames port
  solicited : state.interruptsMasked = false → ∀ port, state.table.isQueued port = true →
    history.isRequested = true ∨ Captured frames port ∨ Awaited frames port
  calm : .lifecycle true ∈ frames →
    state.interruptsMasked = true ∧ ∀ port, state.table.isQueued port = false
  running : history.running = frames.length
  lifecycles : history.lifecycles = frames.countP Frame.isLifecycle

namespace Attending

variable {frames : List Frame} {frame frame' : Frame} {state state' : Channels} {history : History}

theorem nothingStranded (h : Attending [] state history) : NothingStranded state history := by
  intro port hqueued
  constructor
  · rcases h.tracked port hqueued with hflagged | hcaptured
    · exact hflagged
    · cases hcaptured
  · intro hmasked
    rcases h.solicited hmasked port hqueued with hrequested | hcaptured | hawaited
    · exact hrequested
    · cases hcaptured
    · cases hawaited

theorem strandsNothing {entry : Entry} (h : Attending frames state (entry :: history))
    (hstate : entry.state = state) : entry.StrandsNothing history := by
  intro hrunning
  have hframes : frames = [] := List.length_eq_zero_iff.1 (h.running ▸ hrunning)
  subst hframes
  rw [hstate]
  exact h.nothingStranded

/-- Work may be taken off the queue, and flags of captured ports may be removed. -/
theorem shrink (h : Attending frames state history)
    (hmasked : state'.interruptsMasked = state.interruptsMasked)
    (hqueued : ∀ port, state'.table.isQueued port = true → state.table.isQueued port = true)
    (hflagged : ∀ port, state'.table.isQueued port = true → state.table.isFlagged port = true →
      state'.table.isFlagged port = true ∨ Captured frames port) :
    Attending frames state' history where
  tracked port hport := (h.tracked port (hqueued port hport)).elim (hflagged port hport) .inr
  solicited hopen port hport := h.solicited (hmasked ▸ hopen) port (hqueued port hport)
  calm hmem := by
    obtain ⟨hquiet, hnone⟩ := h.calm hmem
    refine ⟨hmasked.trans hquiet, fun port => ?_⟩
    rw [Bool.eq_false_iff]
    intro hport
    have hport' := hqueued port hport
    rw [hnone port] at hport'
    cases hport'
  running := h.running
  lifecycles := h.lifecycles

theorem enqueue_of_queued {port : Port} (h : Attending frames state history)
    (hqueued : state.table.isQueued port = true) :
    Attending frames { state with table := (state.table.enqueue port).2 } history := by
  apply h.shrink
  · rfl
  · intro q hq
    rw [ActionTable.isQueued_enqueue] at hq
    split at hq
    next he => exact he ▸ hqueued
    · exact hq
  · intro q _ hflag
    exact .inl ((state.table.isFlagged_enqueue_of_queued port q hqueued).trans hflag)

/-- A request is due for what is newly queued. -/
theorem enqueue {due : Bool} {port : Port} (h : Attending (.ordinary due :: frames) state history)
    (hcalm : .lifecycle true ∉ frames) (hfresh : state.table.isQueued port = false) :
    Attending (.ordinary true :: frames) { state with table := (state.table.enqueue port).2 }
      history where
  tracked q hq := by
    rw [ActionTable.isQueued_enqueue] at hq
    rw [ActionTable.isFlagged_enqueue _ _ _ hfresh]
    split at hq
    next he => exact .inl (if_pos he)
    next hne =>
      rw [if_neg hne]
      exact h.tracked q hq
  solicited _ _ _ := .inr (.inr (.inl rfl))
  calm hmem := absurd ((List.mem_cons.1 hmem).resolve_left nofun) hcalm
  running := h.running
  lifecycles := h.lifecycles

/-- The innermost operation moves on to another frame. -/
theorem exchange (h : Attending (frame :: frames) state history)
    (hclass : frame'.isLifecycle = frame.isLifecycle)
    (hcaptured : ∀ port, state.table.isQueued port = true → frame.captures port →
      frame'.captures port)
    (hawaited : state.interruptsMasked = false → ∀ port, state.table.isQueued port = true →
      frame.awaits port → frame'.captures port ∨ frame'.awaits port ∨ Captured frames port)
    (hcalm : .lifecycle true = frame' →
      state.interruptsMasked = true ∧ ∀ port, state.table.isQueued port = false) :
    Attending (frame' :: frames) state history where
  tracked port hport := by
    rcases h.tracked port hport with hflagged | hframe | hrest
    · exact .inl hflagged
    · exact .inr (.inl (hcaptured port hport hframe))
    · exact .inr (.inr hrest)
  solicited hmasked port hport := by
    rcases h.solicited hmasked port hport with hrequested | (hframe | hrest) | hframe | hrest
    · exact .inl hrequested
    · exact .inr (.inl (.inl (hcaptured port hport hframe)))
    · exact .inr (.inl (.inr hrest))
    · rcases hawaited hmasked port hport hframe with hcaptured | hawaited | hrest
      · exact .inr (.inl (.inl hcaptured))
      · exact .inr (.inr (.inl hawaited))
      · exact .inr (.inl (.inr hrest))
    · exact .inr (.inr (.inr hrest))
  calm hmem := by
    rcases List.mem_cons.1 hmem with he | hmem
    · exact hcalm he
    · exact h.calm (List.mem_cons_of_mem _ hmem)
  running := h.running
  lifecycles := by rw [h.lifecycles, List.countP_cons, List.countP_cons, hclass]

theorem cons {entry : Entry} (h : Attending frames state history)
    (hopen : ∀ class?, History.openCount class? (entry :: history) = history.openCount class?)
    (hrequested : history.isRequested = true → History.isRequested (entry :: history) = true) :
    Attending frames state (entry :: history) where
  tracked := h.tracked
  solicited hmasked port hport := (h.solicited hmasked port hport).imp_left hrequested
  calm := h.calm
  running := (hopen _).trans h.running
  lifecycles := (hopen _).trans h.lifecycles

theorem began (h : Attending frames state history) (depth : Nat) (op : Operation) :
    Attending (.opening op :: frames) state (.began depth op state :: history) where
  tracked port hport := (h.tracked port hport).imp_right .inr
  solicited hmasked port hport := by
    by_cases hop : op = .channels .deferredPass
    · -- The requests so far are spent, but the run has every port before it.
      subst hop
      exact .inr (.inr (.inl trivial))
    · have he : History.isRequested (.began depth op state :: history) = history.isRequested := by
        rw [History.isRequested]
        · exact nofun
        · intro _ _ he
          injection he with _ he
          exact hop he
      rw [he]
      exact (h.solicited hmasked port hport).imp_right (Or.imp .inr .inr)
  calm hmem := by
    rcases List.mem_cons.1 hmem with he | hmem
    · unfold Frame.opening at he
      split at he
      · cases he
      · cases hop : op.isLifecycle <;> rw [hop] at he <;> cases he
    · exact h.calm hmem
  running := congrArg (· + 1) h.running
  lifecycles := by
    rw [List.countP_cons, Frame.isLifecycle_opening, ← h.lifecycles]
    unfold History.lifecycles
    rw [History.openCount]
    split <;> rfl

/-- An operation may end once nothing is left to it. -/
theorem ended (h : Attending (frame :: frames) state history) {op : Operation}
    (hclass : frame.isLifecycle = op.isLifecycle) (hcaptured : ∀ port, ¬frame.captures port)
    (hawaited : ∀ port, ¬frame.awaits port) (depth : Nat) (result : Except ChannelError Report) :
    Attending frames state (.ended depth op result state :: history) where
  tracked port hport :=
    (h.tracked port hport).imp_right fun hframes => hframes.resolve_left (hcaptured port)
  solicited hmasked port hport :=
    (h.solicited hmasked port hport).imp_right <| Or.imp
      (fun hframes => hframes.resolve_left (hcaptured port))
      fun hframes => hframes.resolve_left (hawaited port)
  calm hmem := h.calm (List.mem_cons_of_mem _ hmem)
  running := congrArg (· - 1) h.running
  lifecycles := by
    have hcount := h.lifecycles
    rw [List.countP_cons, hclass] at hcount
    unfold History.lifecycles at hcount ⊢
    rw [History.openCount, hcount]
    split
    · exact Nat.add_sub_cancel _ _
    · rfl

end Attending

end EventChannel
