import EventChannel.Error

namespace EventChannel

/-- The configuration of a guest's event channels. -/
structure Config where
  /-- The interrupt by which the hypervisor delivers upcalls. -/
  callbackIrq : UInt32
  /-- The line that is connected to the host. -/
  line : InterruptLine := {}
  /-- The virtual processor whose slot in the shared page the scanner drains. -/
  upcallVcpu : Nat := 0
  /-- The virtual processor that the suspend port signals. -/
  suspendVcpu : UInt32 := 0
deriving DecidableEq

namespace Config

/-- The first flaw of the configuration, if it has any. -/
def flaw? (c : Config) : Option ConfigFlaw :=
  if c.callbackIrq = 0 then some .zeroCallbackIrq
  else if c.upcallVcpu ≥ 32 then some .upcallVcpuWithoutSlot
  else if c.suspendVcpu.toNat ≥ 32 then some .suspendVcpuWithoutSlot
  else none

def validate (c : Config) : Except ChannelError Unit :=
  match c.flaw? with
  | some flaw => .error (.invalidConfig flaw.text)
  | none => .ok ()

theorem flaw?_eq_none_iff (c : Config) :
    c.flaw? = none ↔ c.callbackIrq ≠ 0 ∧ c.upcallVcpu < 32 ∧ c.suspendVcpu.toNat < 32 := by
  unfold flaw?
  split
  case isTrue h => simp only [reduceCtorEq, h, ne_eq, not_true, false_and]
  case isFalse h =>
    split
    case isTrue hu =>
      simp only [reduceCtorEq, false_iff]
      intro hvalid
      exact Nat.not_lt.mpr hu hvalid.2.1
    case isFalse hu =>
      split
      case isTrue hs =>
        simp only [reduceCtorEq, false_iff]
        intro hvalid
        exact Nat.not_lt.mpr hs hvalid.2.2
      case isFalse hs =>
        simp only [true_iff]
        exact ⟨h, Nat.not_le.mp hu, Nat.not_le.mp hs⟩

end Config

end EventChannel
