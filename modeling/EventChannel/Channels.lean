import EventChannel.Config
import EventChannel.ActionTable
import EventChannel.SharedPage

namespace EventChannel

/-- The state of a guest's event channels. -/
structure Channels where
  page : SharedPage
  table : ActionTable
  config : Config
  /-- Set outside the time between initialisation and teardown; the scanner then does nothing. -/
  interruptsMasked : Bool
  connected : Bool
  /-- The port reserved for suspend broadcasts. -/
  suspendPort : Option Port
deriving DecidableEq

namespace Channels

/-- Event channels over a shared page, which is left as it is. -/
def ofPage (page : SharedPage) (config : Config) : Except ChannelError Channels :=
  match config.validate with
  | .error e => .error e
  | .ok _ => .ok ⟨page, .powerOn, config, true, false, none⟩

theorem eq_of_ofPage {page : SharedPage} {config : Config} {start : Channels}
    (h : ofPage page config = .ok start) :
    config.upcallVcpu < 32 ∧ start = ⟨page, .powerOn, config, true, false, none⟩ := by
  unfold ofPage Config.validate at h
  cases hflaw : config.flaw? with
  | some flaw =>
    rw [hflaw] at h
    cases h
  | none =>
    rw [hflaw] at h
    cases h
    exact ⟨(config.flaw?_eq_none_iff.1 hflaw).2.1, rfl⟩

end Channels

end EventChannel
