import EventChannel.Proofs.LifecycleState.Flags

namespace EventChannel

open Guest

/-- Either no operation of the lifecycle is under way, or one is and it alone sets the mode and
decides the course. -/
inductive Phase where
  | resting
  | moving (mode : Mode) (course : Course)

namespace Phase

def during : Phase → Request → Phase
  | resting, _ => resting
  | moving mode course, r => moving mode (course.called r)

def after : Phase → (r : Request) → r.Reply → Phase
  | resting, _, _ => resting
  | moving mode course, r, reply => moving mode ((course.called r).answered r reply)

def Permits : Phase → Request → Prop
  | resting, r => r.concernsLine = false
  | moving _ course, r => course.Permits r

def Allows : Phase → Operation → Prop
  | resting, op => op.masksUpcall = false
  | moving _ _, op => op.masksUpcall = false ∧ op.isTransition = false

/-- The flags and the history are as the phase says. -/
def Fits : Phase → Channels → History → Prop
  | resting, state, history => history.transitions = 0 ∧ state.mode.Follows history.course
  | moving mode course, state, history =>
    history.transitions = 1 ∧ state.mode = mode ∧ history.course = course

variable {i : Phase} {r : Request}

theorem during_of_not_line (h : r.concernsLine = false) : i.during r = i := by
  cases i with
  | resting => rfl
  | moving mode course => rw [during, Course.called_of_not_line h]

theorem after_of_not_line (h : r.concernsLine = false) (reply : r.Reply) : i.after r reply = i := by
  cases i with
  | resting => rfl
  | moving mode course =>
    rw [after, Course.called_of_not_line h, Course.answered_of_not_line h]

theorem permits_of_not_line (h : r.concernsLine = false) : i.Permits r := by
  cases i with
  | resting => exact h
  | moving mode course => exact Course.permits_of_not_line h

theorem Fits.of_mode {state state' : Channels} {history : History} (h : i.Fits state history)
    (hmode : state'.mode = state.mode) : i.Fits state' history := by
  cases i with
  | resting => exact ⟨h.1, hmode ▸ h.2⟩
  | moving mode course => exact ⟨h.1, hmode.trans h.2.1, h.2.2⟩

theorem Fits.log {state : Channels} {history : History} {entry : Entry} (h : i.Fits state history)
    (htransitions : History.transitions (entry :: history) = history.transitions)
    (hcourse : History.course (entry :: history) = history.course) :
    i.Fits state (entry :: history) := by
  cases i with
  | resting => exact ⟨htransitions.trans h.1, hcourse ▸ h.2⟩
  | moving mode course => exact ⟨htransitions.trans h.1, h.2.1, hcourse.trans h.2.2⟩

theorem Fits.follows {state : Channels} {history : History} (h : i.Fits state history)
    (hrest : history.transitions = 0) : state.mode.Follows history.course := by
  cases i with
  | resting => exact h.2
  | moving mode course =>
    rw [h.1] at hrest
    cases hrest

end Phase

/-- What holds in a phase. -/
structure InPhase (i : Phase) (s : System History) : Prop where
  fits : i.Fits s.channels s.outside
  always : s.outside.Always Entry.InStep

/-- What is left of it by a fault. -/
def InPhaseUntil (s : System History) : Prop := s.outside.Always Entry.InStep

namespace InPhase

variable {c : Client} {depth : Nat} {α : Type} {port : Port} {i : Phase}

/-- An entry that neither borders an operation of the lifecycle nor tells of the line. -/
theorem cons {state : Channels} {history : History} {entry : Entry}
    (h : InPhase i ⟨state, history⟩) (hstate : entry.state = state)
    (htransitions : History.transitions (entry :: history) = history.transitions)
    (hcourse : History.course (entry :: history) = history.course)
    (hrequests : entry.requestsLine = false) (hdisconnects : entry.disconnectsLine = false)
    (hfails : entry.failsBringUp = false) : InPhase i ⟨state, entry :: history⟩ := by
  have hfits : i.Fits state (entry :: history) := h.fits.log htransitions hcourse
  have hentry : entry.InStep history :=
    ⟨fun hrest => hstate ▸ h.fits.follows hrest, fun hrest => hstate ▸ hfits.follows hrest,
      fun he => absurd (hrequests ▸ he) Bool.false_ne_true,
      fun he => absurd (hdisconnects ▸ he) Bool.false_ne_true,
      fun he => absurd (hfails ▸ he) Bool.false_ne_true⟩
  exact ⟨hfits, .cons hentry h.always⟩

theorem keeps_emit (e : Event) : Keeps InPhaseUntil (InPhase i) (emit (c.platform depth) e) :=
  Client.leads_emit fun _ _ hs => hs.cons rfl rfl rfl rfl rfl rfl

section Writes

theorem of_mode {state state' : Channels} {history : History} (h : InPhase i ⟨state, history⟩)
    (hmode : state'.mode = state.mode) : InPhase i ⟨state', history⟩ :=
  ⟨h.fits.of_mode hmode, h.always⟩

theorem keeps_modifyTable (f : ActionTable → ActionTable) :
    Keeps InPhaseUntil (InPhase i) (modifyTable f) :=
  Leads.modifyTable fun _ _ hs => hs.of_mode rfl

theorem keeps_onTable (f : ActionTable → α × ActionTable) :
    Keeps InPhaseUntil (InPhase i) (onTable f) := Leads.onTable fun _ _ hs => hs.of_mode rfl

theorem keeps_onPage {m : PageM α} (h : PageM.Retains SharedPage.upcalls m) :
    Keeps InPhaseUntil (InPhase i) (onPage m) := by
  apply Leads.onPage
  intro state history hs
  cases hrun : m state.page with
  | ok a page =>
    apply hs.of_mode
    simp only [Channels.mode, h state.page a page hrun]
  | error e page => exact hs.always

theorem keeps_modifyPage {f : SharedPage → SharedPage}
    (h : ∀ page, (f page).upcalls = page.upcalls) :
    Keeps InPhaseUntil (InPhase i) (modifyPage f) := by
  apply Leads.modifyPage
  intro state history hs
  apply hs.of_mode
  simp only [Channels.mode, h]

/-- An operation of the lifecycle may set what the mode says. -/
theorem leads_setMode {mode mode' : Mode} {course : Course} {f : Channels → Channels}
    (h : ∀ state, state.mode = mode → (f state).mode = mode') :
    Leads InPhaseUntil (InPhase (.moving mode course)) (modifyChannels f)
      fun _ => InPhase (.moving mode' course) := by
  constructor
  intro s hs
  obtain ⟨⟨htransitions, hmode, hcourse⟩, halways⟩ := hs
  exact ⟨⟨htransitions, h s.channels hmode, hcourse⟩, halways⟩

end Writes

end InPhase

namespace InPhase

variable {c : Client} {depth : Nat} {port : Port} {i : Phase}

section Transitions

variable {mode : Mode} {course : Course}

theorem leads_setInterruptsMasked (masked : Bool) :
    Leads InPhaseUntil (InPhase (.moving mode course)) (setInterruptsMasked masked)
      fun _ => InPhase (.moving { mode with masked } course) := by
  apply leads_setMode
  intro state hmode
  subst hmode
  rfl

theorem leads_setConnected (connected : Bool) :
    Leads InPhaseUntil (InPhase (.moving mode course)) (setConnected connected)
      fun _ => InPhase (.moving { mode with connected } course) := by
  apply leads_setMode
  intro state hmode
  subst hmode
  rfl

theorem leads_setSuspendPort (suspendPort : Option Port) :
    Leads InPhaseUntil (InPhase (.moving mode course)) (setSuspendPort suspendPort)
      fun _ => InPhase (.moving { mode with suspendPort } course) := by
  apply leads_setMode
  intro state hmode
  subst hmode
  rfl

theorem leads_modifyVcpus {f : VcpuSlot → VcpuSlot} (masked : Bool)
    (h : ∀ v, (f v).isUpcallMasked = masked) :
    Leads InPhaseUntil (InPhase (.moving mode course)) (modifyPage fun page => page.modifyVcpus f)
      fun _ => InPhase (.moving { mode with upcalls := fun _ => masked } course) := by
  apply leads_setMode
  intro state hmode
  subst hmode
  rw [Channels.mode, state.page.upcalls_modifyVcpus masked h]
  rfl

theorem leads_maskUpcalls (masked : Bool) :
    Leads InPhaseUntil (InPhase (.moving mode course)) (maskUpcalls masked)
      fun _ => InPhase (.moving { mode with upcalls := fun _ => masked } course) :=
  leads_modifyVcpus masked fun v => v.isUpcallMasked_maskUpcall masked

theorem leads_quiesce : Leads InPhaseUntil (InPhase (.moving mode course)) quiesce
    fun _ => InPhase (.moving mode.quiet course) :=
  (leads_setInterruptsMasked true).bind fun _ => leads_maskUpcalls true

theorem leads_discardPending : Leads InPhaseUntil (InPhase (.moving (.down mode.connected) course))
    (discardPending (c.platform depth)) fun _ => InPhase (.moving (.down mode.connected) course) := by
  have hclear : Keeps InPhaseUntil (InPhase (.moving (.down mode.connected) course))
      (modifyPage fun page => page.clearPendingAll) := keeps_modifyPage fun _ => rfl
  apply Leads.bind Keeps.channels
  intro state
  apply Leads.bind hclear
  intro _
  apply Leads.bind (keeps_emit _)
  intro _
  exact leads_modifyVcpus true fun v => v.reset.isUpcallMasked_maskUpcall true

end Transitions

end InPhase

end EventChannel
