import EventChannel.Scenario.Bench
import EventChannel.Scenario.Change

namespace EventChannel

/-- Writes one value to consecutive words of the shared page, from a byte offset on. -/
structure PageWrite where
  offset : Nat
  count : Nat
  value : BitVec 64
deriving DecidableEq

namespace PageWrite

/-- Whether the words lie within the page. -/
def isValid (w : PageWrite) : Bool :=
  w.offset % 8 = 0 && w.offset + 8 * w.count ≤ SharedPage.byteSize

def apply (w : PageWrite) (words : Vector (BitVec 64) 392) : Vector (BitVec 64) 392 :=
  let first := w.offset / 8
  Vector.ofFn fun i => if first ≤ i.val ∧ i.val < first + w.count then w.value else words[i]

end PageWrite

/-- A sequence of steps on fresh event channels, and what surrounds them. -/
structure Scenario where
  config : Config := { callbackIrq := 28 }
  page : List PageWrite := []
  routines : List (Scenario.RoutineKey × Scenario.Routine) := []
  logLevel : Option Severity := none
  steps : List Scenario.Step

namespace Scenario

/-- The shared page at the beginning. -/
def initialPage (s : Scenario) : SharedPage :=
  .ofWords (s.page.foldl (fun words w => w.apply words) SharedPage.zero.toWords)

/-- How deep routines can run inside each other: each run uses up one of their times. -/
def depth (s : Scenario) : Nat := s.routines.foldl (fun n (_, routine) => n + routine.times) 0

/-- Runs steps one after the other; each answer comes with what has changed since the one before. -/
def runFrom (P : Platform Bench) : List Step → System Bench → View → List (Answer × Change)
  | [], _, _ => []
  | step :: steps, system, before =>
    match runStep P none step system with
    | .ok answer system =>
      let after := View.ofChannels system.channels
      (answer, Change.between before after) :: runFrom P steps system after
    | .error fault _ => [(.mk (.faulted fault) [], Change.between before before)]

/-- Runs a scenario, unless its configuration is refused. -/
def run (s : Scenario) : Except ChannelError (List (Answer × Change)) :=
  match Channels.ofPage s.initialPage s.config with
  | .error e => .error e
  | .ok channels =>
    let bench : Bench := { routines := s.routines, logLevel := s.logLevel }
    .ok (runFrom (platform s.depth) s.steps ⟨channels, bench⟩ (.ofChannels channels))

end Scenario

end EventChannel
