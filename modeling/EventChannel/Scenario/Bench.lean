import EventChannel.Operation.Run
import EventChannel.Scenario.Step

namespace EventChannel.Scenario

/-- How a step ended. -/
inductive Outcome where
  | reported (report : Report)
  | refused (error : ChannelError)
  | faulted (fault : Fault)
  | malformed
  /-- The step names a port that does not exist. -/
  | noPort
  /-- The rounds of a repeated step are over; so many of their steps failed. -/
  | rounds (failed : Nat)
deriving DecidableEq

namespace Outcome

def isFailure : Outcome → Bool
  | reported .noReader | refused _ | faulted _ | malformed | noPort => true
  | reported _ | rounds _ => false

def ofResult : Except ChannelError Report → Outcome
  | .ok report => reported report
  | .error error => refused error

end Outcome

mutual

/-- Something that a step caused and the bench recorded. -/
inductive Call where
  | logged (line : String)
  /-- A call that left the event channels, with the answers of the routine it ran, if it ran one. -/
  | made (request : Request) (nested : Option (List Answer))

/-- The answer to a step: how it ended, and what it caused in order of completion. -/
inductive Answer where
  | mk (outcome : Outcome) (calls : List Call)

end

def Answer.outcome : Answer → Outcome
  | .mk outcome _ => outcome

def Answer.calls : Answer → List Call
  | .mk _ calls => calls

/-- What surrounds the event channels in a scenario. -/
structure Bench where
  nextPort : UInt32 := 1
  grants : List UInt32 := []
  failAlloc : Option Errno := none
  failSetParam : Option Errno := none
  failPortOps : Option Errno := none
  failConnect : Option HostStatus := none
  /-- The routines with the number of times that they still run. -/
  routines : List (RoutineKey × Routine) := []
  logLevel : Option Severity := none
  /-- What the current step has caused so far. -/
  calls : Array Call := #[]

namespace Bench

def apply (b : Bench) : Setting → Bench
  | .nextPort number => { b with nextPort := number }
  | .grants numbers => { b with grants := numbers }
  | .failAlloc errno => { b with failAlloc := errno }
  | .failSetParam errno => { b with failSetParam := errno }
  | .failPortOps errno => { b with failPortOps := errno }
  | .failConnect status => { b with failConnect := status }

def record (b : Bench) (c : Call) : Bench := { b with calls := b.calls.push c }

/-- The port that the next allocation is granted: the first of the listed grants, else the next in
turn. -/
def grant (b : Bench) : UInt32 × Bench :=
  match b.grants with
  | number :: numbers => (number, { b with grants := numbers })
  | [] => (b.nextPort, { b with nextPort := b.nextPort + 1 })

/-- How the bench answers a call. -/
def reply (b : Bench) : (r : Request) → r.Reply × Bench
  | .hypercall (.close _) | .hypercall (.send _) =>
    match b.failPortOps with
    | some errno => (.error errno, b)
    | none => (.ok 0, b)
  | .hypercall (.allocUnbound _ _) | .hypercall (.bindIpi _) =>
    match b.failAlloc with
    | some errno => (.error errno, b)
    | none => (.ok b.grant.1, b.grant.2)
  | .setParam _ _ =>
    match b.failSetParam with
    | some errno => (.error errno, b)
    | none => (.ok (), b)
  | .connect _ =>
    match b.failConnect with
    | some status => (.error status, b)
    | none => (.ok (), b)
  | .disconnect _ | .queueDeferred | .flushDeferred | .handle _ _ _ => ((), b)

/-- Starts a run of a routine: its steps, if it has runs left, and the routines after that. -/
def startRoutine (key : RoutineKey) :
    List (RoutineKey × Routine) → Option (List Step × List (RoutineKey × Routine))
  | [] => none
  | (k, routine) :: rest =>
    if k = key then
      match routine.times with
      | 0 => none
      | n + 1 => some (routine.steps, (k, ⟨n, routine.steps⟩) :: rest)
    else
      (startRoutine key rest).map fun (steps, rest) => (steps, (k, routine) :: rest)

/-- Records the log line of a notice that is as severe as the log asks for. -/
def observe (e : Event) (_ : Channels) (b : Bench) : Bench :=
  match e, b.logLevel with
  | .noticed notice, some level =>
    if level.rank ≤ notice.severity.rank then b.record (.logged notice.line) else b
  | _, _ => b

end Bench

def modifyBench (f : Bench → Bench) : Guest Bench Unit :=
  modify fun ⟨channels, bench⟩ => ⟨channels, f bench⟩

/-- Takes what the current step has caused, and starts afresh with `calls`. -/
def swapCalls (calls : Array Call) : Guest Bench (Array Call) :=
  modifyGet fun ⟨channels, bench⟩ => (bench.calls, ⟨channels, { bench with calls := calls }⟩)

/-- Runs a step, which collects the calls that it causes and ends where a fault arises. -/
def answering (m : Guest Bench Outcome) : Guest Bench Answer := do
  let outer ← swapCalls #[]
  let outcome ← tryCatch m fun fault => return .faulted fault
  let calls ← swapCalls outer
  return .mk outcome calls.toList

/-- Whether a reader of an action can be made to stop: it does so while it reads the description of a
legacy interrupt, and elsewhere there is nothing to stop at. -/
def stopsReader : Action → Bool
  | .deferredHardwareIrq irq => irq.description ≠ ""
  | .empty | .normal _ | .deferredProcedure _ | .suspend => false

/-- Runs an operation of a scenario, in which readers are taken only where they can be made to
stop. -/
def perform (P : Platform Bench) : Operation → Guest Bench (Except ChannelError Report)
  | .table (.takeReader port) => do
    if stopsReader ((← Guest.table).slot port).action then
      Operation.run P (.table (.takeReader port))
    else
      return .ok .noReader
  | op => op.run P

mutual

def runStep (P : Platform Bench) (self : Option Port) : Step → Guest Bench Answer
  | .malformed => return .mk .malformed []
  | .run op => answering (Outcome.ofResult <$> perform P op)
  | .onPort ref op =>
    match ref.resolve? self, op with
    | none, _ => return .mk .noPort []
    | some _, none => return .mk .malformed []
    | some port, some op => answering (Outcome.ofResult <$> perform P (op port))
  | .script settings => do
    modifyBench fun b => settings.foldl Bench.apply b
    return .mk (.reported .done) []
  | .each first last stride steps => do
    let rounds ← (roundPorts first last stride).mapM fun port => runSteps P (some port) steps
    let failed := rounds.flatten.countP fun a => a.outcome.isFailure
    return .mk (.rounds failed) []

def runSteps (P : Platform Bench) (self : Option Port) : List Step → Guest Bench (List Answer)
  | [] => return []
  | step :: steps => do
    let answer ← runStep P self step
    let answers ← runSteps P self steps
    return answer :: answers

end

/-- Answers a call after the routine that it runs, if it runs one. -/
def performWith (routine : Request → Guest Bench (Option (List Answer))) (r : Request) :
    Guest Bench r.Reply := do
  let nested ← routine r
  modifyBench fun b => b.record (.made r nested)
  modifyGet fun ⟨channels, bench⟩ =>
    let (reply, bench) := bench.reply r
    (reply, ⟨channels, bench⟩)

/-- The platform of a scenario in which routines run inside each other at most `depth` deep. -/
def platform : Nat → Platform Bench
  | 0 => ⟨performWith fun _ => return none, Bench.observe⟩
  | depth + 1 =>
    ⟨performWith fun r => do
      match Bench.startRoutine (.ofRequest r) (← get).outside.routines with
      | none => return none
      | some (steps, routines) =>
        modifyBench fun b => { b with routines }
        return some (← runSteps (platform depth) r.port? steps), Bench.observe⟩

end EventChannel.Scenario
