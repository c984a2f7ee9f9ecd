import EventChannel.Bitmap
import EventChannel.Fault
import EventChannel.Port

namespace EventChannel

/-- The number of virtual processors with a slot in the shared page. -/
def vcpuCount : Nat := 32

/-- The number of words in the pending and mask bitmaps of the shared page. -/
def pageWords : Nat := 64

/-- The slot of one virtual processor in the shared page.

The two flag bytes read as set when they are not zero. Bit `w` of the selector says that word `w`
of the pending bitmap needs a look. -/
structure VcpuSlot where
  upcallPending : UInt8
  upcallMask : UInt8
  padding : BitVec 48
  selector : Word
  reserved : Vector (BitVec 64) 6
deriving DecidableEq

namespace VcpuSlot

def zero : VcpuSlot := ⟨0, 0, 0, Word.empty, Vector.replicate 6 0⟩

def isUpcallPending (v : VcpuSlot) : Bool := v.upcallPending != 0

def isUpcallMasked (v : VcpuSlot) : Bool := v.upcallMask != 0

/-- Acknowledges the upcall, which comes before the selector is drained. -/
def clearUpcall (v : VcpuSlot) : VcpuSlot := { v with upcallPending := 0 }

def raiseUpcall (v : VcpuSlot) : VcpuSlot := { v with upcallPending := 1 }

def maskUpcall (v : VcpuSlot) (masked : Bool) : VcpuSlot :=
  { v with upcallMask := if masked then 1 else 0 }

def clearSelector (v : VcpuSlot) : VcpuSlot := { v with selector := Word.empty }

def flagWord (v : VcpuSlot) (w : Fin 64) : VcpuSlot := { v with selector := v.selector.insert w }

/-- Flags a word in the selector and, if it was not flagged yet, raises the upcall. -/
def alert (v : VcpuSlot) (w : Fin 64) : VcpuSlot :=
  if v.selector.test w then v else (v.flagWord w).raiseUpcall

/-- Clears the upcall and the selector, but not the upcall mask. -/
def reset (v : VcpuSlot) : VcpuSlot := v.clearUpcall.clearSelector

end VcpuSlot

/-- The page that the hypervisor shares with the guest. -/
structure SharedPage where
  vcpus : Vector VcpuSlot 32
  pending : Bitmap 64
  mask : Bitmap 64
  reserved : Vector (BitVec 64) 8
deriving DecidableEq

namespace SharedPage

def zero : SharedPage :=
  ⟨Vector.replicate 32 VcpuSlot.zero, .replicate 64 .empty, .replicate 64 .empty, Vector.replicate 8 0⟩

def vcpu (s : SharedPage) (v : Fin 32) : VcpuSlot := s.vcpus[v]

def modifyVcpu (s : SharedPage) (v : Fin 32) (f : VcpuSlot → VcpuSlot) : SharedPage :=
  { s with vcpus := s.vcpus.set v (f s.vcpus[v]) }

def modifyVcpus (s : SharedPage) (f : VcpuSlot → VcpuSlot) : SharedPage :=
  { s with vcpus := s.vcpus.map f }

def setMask (s : SharedPage) (w b : Fin 64) : SharedPage :=
  { s with mask := s.mask.insert w b }

def clearMask (s : SharedPage) (w b : Fin 64) : SharedPage :=
  { s with mask := s.mask.erase w b }

def setPending (s : SharedPage) (w b : Fin 64) : SharedPage :=
  { s with pending := s.pending.insert w b }

def clearPending (s : SharedPage) (w b : Fin 64) : SharedPage :=
  { s with pending := s.pending.erase w b }

/-- Masks every bit, those of words that hold no port included. -/
def maskAll (s : SharedPage) : SharedPage :=
  { s with mask := .replicate 64 .full }

def clearPendingAll (s : SharedPage) : SharedPage :=
  { s with pending := .replicate 64 .empty }

/-- The bits of word `w` that are pending and not masked. -/
def ready (s : SharedPage) (w : Fin 64) : Word := (s.pending.word w).without (s.mask.word w)

def isMasked (s : SharedPage) (p : Port) : Bool := s.mask.test p.pageWord p.bit

def isPending (s : SharedPage) (p : Port) : Bool := s.pending.test p.pageWord p.bit

/-- Whether the port is neither masked nor pending. -/
def isClear (s : SharedPage) (p : Port) : Bool := !s.isMasked p && !s.isPending p

@[simp] theorem test_ready (s : SharedPage) (w b : Fin 64) :
    (s.ready w).test b = (s.pending.test w b && !s.mask.test w b) := by
  simp only [ready, Word.test_without, Bitmap.test]

end SharedPage

/-- A computation on the shared page whose table accesses are checked. -/
abbrev PageM := EStateM Fault SharedPage

namespace PageM

open Fault

/-- The slot of the virtual processor `vcpu`. -/
def readVcpu (vcpu : Nat) : PageM VcpuSlot := do
  let v ← checkIndex 32 vcpu
  return (← get).vcpu v

def updateVcpu (vcpu : Nat) (f : VcpuSlot → VcpuSlot) : PageM Unit := do
  let v ← checkIndex 32 vcpu
  modify fun s => s.modifyVcpu v f

/-- Swaps the selector with the empty word and returns the words that were flagged. -/
def drainSelector (vcpu : Nat) : PageM Word := do
  let v ← checkIndex 32 vcpu
  let selector := ((← get).vcpu v).selector
  modify fun s => s.modifyVcpu v VcpuSlot.clearSelector
  return selector

/-- Flags a word in the selector; says whether it was not flagged before. -/
def flagWord (word : Fin 64) (vcpu : Nat) : PageM Bool := do
  let v ← checkIndex 32 vcpu
  let fresh := !((← get).vcpu v).selector.test word
  modify fun s => s.modifyVcpu v fun slot => slot.flagWord word
  return fresh

/-- Flags a word in the selector and, if it was not flagged yet, raises the upcall. -/
def alertWord (word : Fin 64) (vcpu : Nat) : PageM Unit := do
  let v ← checkIndex 32 vcpu
  modify fun s => s.modifyVcpu v fun slot => slot.alert word

def alert (p : Port) (vcpu : Nat) : PageM Unit := alertWord p.pageWord vcpu

/-- Masks the port; says whether it was masked before. -/
def mask (p : Port) : PageM Bool := do
  let old := (← get).isMasked p
  modify fun s => s.setMask p.pageWord p.bit
  return old

/-- Clears a mask bit; says whether it was set before. -/
def unmaskAt (word : Nat) (bit : Fin 64) : PageM Bool := do
  let w ← checkIndex 64 word
  let old := (← get).mask.test w bit
  modify fun s => s.clearMask w bit
  return old

def unmask (p : Port) : PageM Bool := unmaskAt p.word p.bit

/-- Clears a pending bit, which may be one that belongs to no port; says whether it was set. -/
def clearAt (word : Nat) (bit : Fin 64) : PageM Bool := do
  let w ← checkIndex 64 word
  let old := (← get).pending.test w bit
  modify fun s => s.clearPending w bit
  return old

def clear (p : Port) : PageM Bool := clearAt p.word p.bit

/-- The bits of a word that are pending and not masked. -/
def ready (word : Nat) : PageM Word := do
  let w ← checkIndex 64 word
  return (← get).ready w

/-- Delivery of an event by the hypervisor. An event whose bit is still pending is coalesced with
its predecessor; a new one flags its word in the selector of `vcpu` unless it is masked. Says
whether the event is a new one. -/
def raiseAt (word : Nat) (bit : Fin 64) (vcpu : Nat) : PageM Bool := do
  let w ← checkIndex 64 word
  if (← get).pending.test w bit then
    return false
  modify fun s => s.setPending w bit
  unless (← get).mask.test w bit do
    alertWord w vcpu
  return true

def raise (p : Port) (vcpu : Nat) : PageM Bool := raiseAt p.word p.bit vcpu

end PageM

end EventChannel
