import EventChannel.Text.Quoted

namespace EventChannel

inductive Trigger where
  | edge
  | level
deriving DecidableEq

namespace Trigger

def name : Trigger → String
  | edge => "Edge"
  | level => "Level"

def ofName? : String → Option Trigger
  | "Edge" => some edge
  | "Level" => some level
  | _ => none

end Trigger

/-- The interrupt line of the platform device. -/
structure InterruptLine where
  vector : UInt32 := 0
  level : UInt8 := 0
  affinity : BitVec 64 := BitVec.allOnes 64
  trigger : Trigger := .level
  shared : Bool := true
deriving DecidableEq

/-- The status with which the host refused to connect a line. -/
structure HostStatus where
  value : UInt32
deriving DecidableEq

namespace HostStatus

def message (s : HostStatus) : String :=
  "host interrupt subsystem returned status " ++ Text.hex8 s.value.toNat

end HostStatus

end EventChannel
