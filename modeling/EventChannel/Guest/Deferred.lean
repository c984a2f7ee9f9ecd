import EventChannel.Platform

namespace EventChannel.Guest

variable {σ : Type} (P : Platform σ)

/-- Claims the port's work item and runs its handler, if the port is still bound to a deferred
kind; says whether a handler ran. -/
def runItem (port : Port) : Guest σ Bool := do
  unless ← onTable fun t => t.claim port do
    return false
  emit P (.workClaimed port)
  let kind := (← table).kind port
  if kind.isDeferred then
    match (← table).handler? port kind with
    | some handler =>
      call P (.handle .deferred handler port)
      return true
    | none =>
      note P (.deferredHandlerGone port kind)
      return false
  else
    note P (.portNoLongerDeferred port kind)
    return false

/-- Runs the work item of a bit, if the bit belongs to a port; says whether a handler ran. -/
def runBit (word : Fin 16) (bit : Nat) : Guest σ Bool :=
  match Port.ofBit? (.ofNat word) (.ofNat bit) with
  | some port => runItem P port
  | none => return false

/-- Runs the work items that a word flags, lowest first, and adds how many handlers ran. -/
def runFlagged (word : Fin 16) (flagged : Word) (ran : Nat) : Guest σ Nat := do
  if flagged = .empty then
    return ran
  else
    match _h : flagged.dropLowest? with
    | none => throw .subtractOverflow
    | some rest =>
      let one ← runBit P word flagged.trailingZeros
      runFlagged word rest (if one then ran + 1 else ran)
termination_by flagged.bits.toNat
decreasing_by exact Word.toNat_dropLowest?_lt _h

/-- Runs the queued work items of one word of the bitmap and returns how many handlers ran. The
word is taken as a whole beforehand. -/
def runWord (word : Fin 16) : Guest σ Nat := do
  let flagged ← onTable fun t => t.takeWord word
  runFlagged P word flagged 0

def runWordAt (word : Nat) : Guest σ Nat := do
  runWord P (← Fault.checkIndex 16 word)

/-- Runs the queued work items of the words in turn, until interrupts are masked. -/
def runWords : List (Fin 16) → Nat → Guest σ Nat
  | [], ran => return ran
  | word :: words, ran => do
    if ← interruptsMasked then
      note P (.deferredPassStopped word)
      return ran
    let more ← runWord P word
    runWords words (ran + more)

/-- Runs every queued work item and returns how many handlers ran. -/
def deferredPass : Guest σ Nat := runWords P (List.finRange 16) 0

end EventChannel.Guest
