import EventChannel.Proofs.Announced
import EventChannel.Proofs.History
import EventChannel.Proofs.Keeping.Operation

namespace EventChannel

open Guest

def Operation.isPass : Operation → Bool
  | .channels .scannerPass => true
  | _ => false

/-- Whether an operation is one of a guest whose events are delivered to a virtual processor: any
on the event channels, a delivery, one that only masks or clears, or one on the action table that
leaves the queued work alone. -/
def Operation.Wakes (v : Fin 32) : Operation → Prop
  | .channels _ => True
  | .page (.raise _ target) => target = v
  | .page (.raiseAt word _ target) => word < 64 ∧ target = v
  | .page (.mask _) | .page (.clear _) | .page .maskAll | .page .clearAll => True
  | .table op => op.movesWork = false
  | .page _ | .vcpu .. => False

namespace Entry

/-- Whether a scanner pass begins or ends at an entry. -/
def bordersPass : Entry → Bool
  | began _ op _ | ended _ op _ _ => op.isPass
  | saw .. | called .. | answered .. => false

/-- If a port is unmasked at an entry, an event that waits on it is flagged again. -/
def Reflags (v : Fin 32) : Entry → Prop
  | ended _ (.channels (.unmask port)) _ state => state.page.isPending port = true →
      (state.page.vcpu v).selector.test port.pageWord = true ∧
        (state.page.vcpu v).isUpcallPending = true
  | _ => True

/-- At an entry no wakeup is lost: what waits for service is announced, unless a pass is under
way, and unmasking flags what waits even then. -/
def KeepsWakeups (v : Fin 32) (entry : Entry) (before : History) : Prop :=
  (before.openCount Operation.isPass = 0 ∨
      History.openCount Operation.isPass (entry :: before) = 0 →
    entry.state.page.Announced v) ∧ entry.Reflags v

theorem reflags_ended {v : Fin 32} {depth : Nat} {op : Operation}
    {result : Except ChannelError Report} {state : Channels}
    (h : ∀ port, op ≠ .channels (.unmask port)) : (ended depth op result state).Reflags v := by
  unfold Reflags
  split
  next he =>
    cases he
    exact absurd rfl (h _)
  · trivial

end Entry

/-- An account of a history by the number of scanner passes under way. While there are none, only
entries at which the page is announced need to go into it. -/
structure PassAccount (v : Fin 32) (H : Nat → History → Prop) : Prop where
  began : ∀ {n depth state before}, H n before → (n = 0 → state.page.Announced v) →
    H (n + 1) (.began depth (.channels .scannerPass) state :: before)
  ended : ∀ {n depth result state before}, H (n + 1) before →
    (n = 0 → state.page.Announced v) →
    H n (.ended depth (.channels .scannerPass) result state :: before)
  other : ∀ {n entry before}, entry.bordersPass = false → entry.Reflags v → H n before →
    (n = 0 → entry.state.page.Announced v) → H n (entry :: before)

def History.WakeupsKept (v : Fin 32) (n : Nat) (history : History) : Prop :=
  history.openCount Operation.isPass = n ∧ history.Always (Entry.KeepsWakeups v)

theorem History.openCount_of_not_bordersPass {entry : Entry} (h : entry.bordersPass = false)
    (before : History) :
    openCount Operation.isPass (entry :: before) = before.openCount Operation.isPass := by
  cases entry with
  | began depth op state =>
    simp only [Entry.bordersPass] at h
    simp only [openCount, h, Bool.false_eq_true, if_false]
  | ended depth op result state =>
    simp only [Entry.bordersPass] at h
    simp only [openCount, h, Bool.false_eq_true, if_false]
  | saw | called | answered => rfl

theorem passAccount_wakeupsKept (v : Fin 32) : PassAccount v (History.WakeupsKept v) := by
  constructor
  · rintro n depth state before ⟨rfl, hkept⟩ hstate
    have hopen : History.openCount Operation.isPass
        (.began depth (.channels .scannerPass) state :: before) =
          before.openCount Operation.isPass + 1 := rfl
    refine ⟨hopen, .cons ⟨?_, trivial⟩ hkept⟩
    rintro (hnone | hnone)
    · exact hstate hnone
    · rw [hopen] at hnone
      cases hnone
  · rintro n depth result state before ⟨hcount, hkept⟩ hstate
    have hopen : History.openCount Operation.isPass
        (.ended depth (.channels .scannerPass) result state :: before) = n := by
      change before.openCount Operation.isPass - 1 = n
      omega
    refine ⟨hopen, .cons ⟨?_, trivial⟩ hkept⟩
    rintro (hnone | hnone)
    · omega
    · exact hstate (hopen ▸ hnone)
  · rintro n entry before hborder hreflags ⟨rfl, hkept⟩ hstate
    have hopen := History.openCount_of_not_bordersPass hborder before
    refine ⟨hopen, .cons ⟨?_, hreflags⟩ hkept⟩
    rw [hopen, or_self]
    exact hstate

theorem passAccount_trivial (v : Fin 32) : PassAccount v fun _ _ => True :=
  ⟨fun _ _ => trivial, fun _ _ => trivial, fun _ _ _ _ => trivial⟩

/-- The invariant of a guest whose upcalls go to a virtual processor, with a number of scanner
passes under way that have made promises. -/
structure Wakeful (v : Fin 32) (H : Nat → History → Prop) (passes : Nat)
    (promised : Fin 64 → Fin 64 → Prop) (s : System History) : Prop where
  config : s.channels.config.upcallVcpu = v
  page : s.channels.page.AnnouncedBut promised v
  account : H passes s.outside

/-- How far the scanner passes under way have come: their number, and what they have promised. -/
structure PassStage where
  passes : Nat
  promised : Fin 64 → Fin 64 → Prop
  idle : passes = 0 → ∀ w b, ¬promised w b

namespace Wakeful

variable {v : Fin 32} {H : Nat → History → Prop} {n : Nat} {promised kept : Fin 64 → Fin 64 → Prop}
  {lost : System History → Prop} {c : Client} {depth : Nat} {port : Port} {α : Type}

theorem announced {s : System History} (h : Wakeful v H n promised s)
    (hidle : n = 0 → ∀ w b, ¬promised w b) (hn : n = 0) : s.channels.page.Announced v :=
  h.page.announced (hidle hn)

theorem keeps_record (hH : PassAccount v H) (hidle : n = 0 → ∀ w b, ¬promised w b)
    {entry : Channels → Entry} (hstate : ∀ state, (entry state).state = state)
    (hborder : ∀ state, (entry state).bordersPass = false)
    (hreflags : ∀ state, (entry state).Reflags v) :
    Keeps lost (Wakeful v H n promised) (record entry) := by
  apply Leads.record
  intro state o hs
  refine ⟨hs.config, hs.page, hH.other (hborder state) (hreflags state) hs.account ?_⟩
  rw [hstate]
  exact hs.announced hidle

theorem keeps_emit (hH : PassAccount v H) (hidle : n = 0 → ∀ w b, ¬promised w b) (e : Event) :
    Keeps lost (Wakeful v H n promised) (emit (c.platform depth) e) := by
  apply Client.leads_emit
  intro state o hs
  exact ⟨hs.config, hs.page, hH.other rfl trivial hs.account (hs.announced hidle)⟩

theorem keeps_modifyTable (f : ActionTable → ActionTable) :
    Keeps lost (Wakeful v H n promised) (modifyTable f) :=
  Leads.modifyTable fun _ _ hs => ⟨hs.config, hs.page, hs.account⟩

theorem keeps_onTable (f : ActionTable → α × ActionTable) :
    Keeps lost (Wakeful v H n promised) (onTable f) :=
  Leads.onTable fun _ _ hs => ⟨hs.config, hs.page, hs.account⟩

theorem keeps_modifyPage {f : SharedPage → SharedPage}
    (h : ∀ page : SharedPage, page.AnnouncedBut promised v → (f page).AnnouncedBut promised v) :
    Keeps lost (Wakeful v H n promised) (modifyPage f) :=
  Leads.modifyPage fun _ _ hs => ⟨hs.config, h _ hs.page, hs.account⟩

theorem leads_onPage {m : PageM α} (h : ∀ page : SharedPage, page.AnnouncedBut promised v →
      ∃ a next, m page = .ok a next ∧ next.AnnouncedBut kept v) :
    Leads lost (Wakeful v H n promised) (onPage m) fun _ => Wakeful v H n kept := by
  apply Leads.onPage
  intro state o hs
  obtain ⟨a, next, hrun, hnext⟩ := h state.page hs.page
  rw [hrun]
  exact ⟨hs.config, hnext, hs.account⟩

theorem keeps_setInterruptsMasked (masked : Bool) :
    Keeps lost (Wakeful v H n promised) (setInterruptsMasked masked) :=
  ⟨fun _ hs => ⟨hs.config, hs.page, hs.account⟩⟩

theorem keeps_setConnected (connected : Bool) :
    Keeps lost (Wakeful v H n promised) (Guest.setConnected connected) :=
  ⟨fun _ hs => ⟨hs.config, hs.page, hs.account⟩⟩

theorem keeps_setSuspendPort (port : Option Port) :
    Keeps lost (Wakeful v H n promised) (setSuspendPort port) :=
  ⟨fun _ hs => ⟨hs.config, hs.page, hs.account⟩⟩

theorem keeps_maskUpcalls (masked : Bool) :
    Keeps lost (Wakeful v H n promised) (maskUpcalls masked) :=
  keeps_modifyPage fun _ hpage => hpage.maskUpcalls masked

theorem keeps_mask : Keeps lost (Wakeful v H n promised) (Guest.mask port) := by
  apply Leads.discard
  exact leads_onPage fun page hpage => ⟨_, _, PageM.mask_run page port, hpage.setMask⟩

end Wakeful

end EventChannel
