import EventChannel.Proofs.DeferredWork.Invariant
import EventChannel.Proofs.Teardown.Invariant

namespace EventChannel

open Guest

namespace Operation

def concernsLine : Operation → Bool
  | channels op => op.concernsLine
  | _ => false

/-- Whether an operation brings the event channels up or down or concerns the interrupt line. -/
def isTransition (op : Operation) : Bool := op.isLifecycle || op.concernsLine

/-- Whether an operation sets the upcall mask of a virtual processor on its own. -/
def masksUpcall : Operation → Bool
  | vcpu _ (.maskUpcall _) => true
  | _ => false

end Operation

namespace Entry

/-- Whether the host has just accepted the interrupt line. -/
def connectsLine : Entry → Bool
  | answered _ (.connect _) (.ok _) _ => true
  | _ => false

/-- Whether the host is just told to let go of the interrupt line. -/
def disconnectsLine : Entry → Bool
  | called _ (.disconnect _) _ => true
  | _ => false

/-- Whether the host is just asked for the interrupt line. -/
def requestsLine : Entry → Bool
  | called _ (.connect _) _ => true
  | _ => false

/-- Whether bringing the event channels up has just failed. -/
def failsBringUp : Entry → Bool
  | ended _ op (.error _) _ => op.bringsUp
  | _ => false

end Entry

namespace History

/-- How many operations that bring the event channels up or down or concern the line are under way. -/
def transitions (history : History) : Nat := history.openCount Operation.isTransition

/-- Whether the last operation that brought the event channels up or down brought them up. -/
def isUp : History → Bool
  | [] => false
  | .ended _ op (.ok _) _ :: before => if op.isLifecycle then op.bringsUp else isUp before
  | .ended _ op (.error _) _ :: before => if op.isLifecycle then false else isUp before
  | .began .. :: before | .saw .. :: before | .called .. :: before | .answered .. :: before =>
    isUp before

end History

/-- What a history tells about the lifecycle. -/
structure Course where
  isUp : Bool
  /-- Whether the event channels have been brought up or down at all. -/
  isMoved : Bool
  connections : Nat
  disconnections : Nat

def History.course (history : History) : Course where
  isUp := history.isUp
  isMoved := history.any fun entry => entry.ends Operation.isLifecycle
  connections := history.countP Entry.connectsLine
  disconnections := history.countP Entry.disconnectsLine

/-- What the operations of the lifecycle set of a state. -/
structure Mode where
  masked : Bool
  upcalls : Fin 32 → Bool
  suspendPort : Option Port
  connected : Bool

def SharedPage.upcalls (page : SharedPage) (v : Fin 32) : Bool := (page.vcpu v).isUpcallMasked

def Channels.mode (state : Channels) : Mode :=
  ⟨state.interruptsMasked, state.page.upcalls, state.suspendPort, state.connected⟩

/-- The flags say how the operations of the lifecycle have ended. -/
structure Mode.Follows (mode : Mode) (course : Course) : Prop where
  masked : mode.masked = !course.isUp
  reserved : mode.suspendPort.isSome = course.isUp
  upcalls : course.isMoved = true → ∀ v, mode.upcalls v = mode.masked
  line : course.connections = course.disconnections + mode.connected.toNat

/-- Outside the operations of the lifecycle the flags follow them; the calls about the line
alternate, and what could not be brought up is quiet. -/
structure Entry.InStep (entry : Entry) (before : History) : Prop where
  earlier : before.transitions = 0 → entry.state.mode.Follows before.course
  later : History.transitions (entry :: before) = 0 →
    entry.state.mode.Follows (History.course (entry :: before))
  requests : entry.requestsLine = true → before.course.connections = before.course.disconnections
  disconnects : entry.disconnectsLine = true →
    before.course.connections = before.course.disconnections + 1
  failed : entry.failsBringUp = true → entry.state.interruptsMasked = true ∧
    entry.state.suspendPort = none ∧ ∀ v, (entry.state.page.vcpu v).isUpcallMasked = true

namespace Mode

def quiet (mode : Mode) : Mode := { mode with masked := true, upcalls := fun _ => true }

/-- The mode in which every operation ends that brings down or fails to bring up. -/
def down (connected : Bool) : Mode := ⟨true, fun _ => true, none, connected⟩

def up (port : Port) (connected : Bool) : Mode := ⟨false, fun _ => false, some port, connected⟩

end Mode

namespace Course

def called (course : Course) : Request → Course
  | .disconnect _ => { course with disconnections := course.disconnections + 1 }
  | _ => course

def answered (course : Course) : (r : Request) → r.Reply → Course
  | .connect _, .ok _ => { course with connections := course.connections + 1 }
  | _, _ => course

def moved (course : Course) (isUp : Bool) : Course := { course with isUp, isMoved := true }

def ended (course : Course) (op : Operation) : Except ChannelError Report → Course
  | .ok _ => if op.isLifecycle then course.moved op.bringsUp else course
  | .error _ => if op.isLifecycle then course.moved false else course

/-- Whether a call about the line may be made. -/
def Permits (course : Course) : Request → Prop
  | .connect _ => course.connections = course.disconnections
  | .disconnect _ => course.connections = course.disconnections + 1
  | _ => True

variable {course : Course} {r : Request}

theorem called_of_not_line (h : r.concernsLine = false) : course.called r = course := by
  cases r with
  | disconnect => cases h
  | _ => rfl

theorem answered_of_not_line (h : r.concernsLine = false) (reply : r.Reply) :
    course.answered r reply = course := by
  cases r with
  | connect => cases h
  | _ => rfl

theorem permits_of_not_line (h : r.concernsLine = false) : course.Permits r := by
  cases r with
  | connect | disconnect => cases h
  | _ => trivial

theorem ended_of_not_lifecycle {op : Operation} (h : op.isLifecycle = false)
    (result : Except ChannelError Report) : course.ended op result = course := by
  cases result <;> rw [ended, h] <;> rfl

end Course

theorem Mode.follows_down {connected : Bool} {course : Course}
    (h : course.connections = course.disconnections + connected.toNat) :
    (down connected).Follows (course.moved false) := ⟨rfl, rfl, fun _ _ => rfl, h⟩

theorem Mode.follows_up {connected : Bool} {course : Course} (port : Port)
    (h : course.connections = course.disconnections + connected.toNat) :
    (up port connected).Follows (course.moved true) := ⟨rfl, rfl, fun _ _ => rfl, h⟩

namespace History

variable (depth : Nat) (op : Operation) (state : Channels) (before : History)

theorem course_called (r : Request) :
    course (.called depth r state :: before) = before.course.called r := by
  cases r with
  | disconnect line =>
    simp only [course, countP_cons]
    rfl
  | _ => rfl

theorem course_answered (r : Request) (reply : r.Reply) :
    course (.answered depth r reply state :: before) = before.course.answered r reply := by
  cases r with
  | connect line =>
    cases reply with
    | error status => rfl
    | ok accepted =>
      simp only [course, countP_cons]
      rfl
  | _ => rfl

theorem course_ended (result : Except ChannelError Report) :
    course (.ended depth op result state :: before) = before.course.ended op result := by
  have hconnections : List.countP Entry.connectsLine (.ended depth op result state :: before) =
      List.countP Entry.connectsLine before := rfl
  have hdisconnections : List.countP Entry.disconnectsLine (.ended depth op result state :: before) =
      List.countP Entry.disconnectsLine before := rfl
  cases result <;> cases h : op.isLifecycle <;>
    simp only [course, hconnections, hdisconnections, isUp, List.any_cons, Entry.ends, h,
      Course.ended, Course.moved, Bool.false_or, Bool.true_or, if_true, if_false,
      Bool.false_eq_true]

end History

end EventChannel
