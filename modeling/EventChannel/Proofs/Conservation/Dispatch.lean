import EventChannel.Proofs.History
import EventChannel.Proofs.Keeping.Operation

namespace EventChannel

open Guest

theorem ActionTable.handler?_normal (t : ActionTable) (port : Port) :
    t.handler? port .normal = match (t.slot port).action with
      | .normal handler => some handler
      | _ => none := by
  unfold handler? Slot.handler?
  cases (t.slot port).action <;> rfl

namespace Entry

/-- The port whose event a scanner pass consumes at an entry. -/
def consumedPort? : Entry → Option Port
  | saw _ (.consumed word bit) _ =>
    if h : word.val * 64 + bit.val < 1024 then some ⟨⟨word.val * 64 + bit.val, h⟩⟩ else none
  | _ => none

/-- The port that is dispatched at an entry. -/
def dispatchedPort? : Entry → Option Port
  | saw _ (.noticed (.delivering port _ _)) _ => some port
  | _ => none

/-- The inline handler that a dispatch finds, if the port is published as normal and its action
is, too. -/
def foundInline? : Entry → Option (HandlerName × Port)
  | saw _ (.noticed (.delivering port .normal _)) state =>
    match (state.table.slot port).action with
    | .normal handler => some (handler, port)
    | _ => none
  | _ => none

theorem foundInline?_delivering (depth : Nat) (port : Port) (kind : Kind) (n : UInt64)
    (state : Channels) : (saw depth (.noticed (.delivering port kind n)) state).foundInline? =
      if kind = .normal then (state.table.handler? port .normal).map (·, port) else none := by
  rw [ActionTable.handler?_normal]
  cases kind with
  | normal =>
    rw [if_pos rfl]
    change (match (state.table.slot port).action with
      | .normal handler => some (handler, port)
      | _ => none) = _
    cases (state.table.slot port).action <;> rfl
  | _ => rfl

/-- The inline handler that is started at an entry. -/
def startedInline? : Entry → Option (HandlerName × Port)
  | called _ (.handle .inline handler port) _ => some (handler, port)
  | _ => none

/-- A dispatch comes right after the port's event was consumed, and an inline handler is started
right after a dispatch found it; and neither happens otherwise. -/
def IsPrompt (entry : Entry) (before : History) : Prop :=
  entry.dispatchedPort? = before.head?.bind consumedPort? ∧
    entry.startedInline? = before.head?.bind foundInline?

end Entry

/-- Whether an event tells of neither a consumed bit nor a dispatch. -/
def Event.isSilent : Event → Bool
  | .consumed .. | .noticed (.delivering ..) => false
  | _ => true

theorem Entry.silent {e : Event} (he : e.isSilent = true) (depth : Nat) (state : Channels) :
    (saw depth e state).dispatchedPort? = none ∧ (saw depth e state).consumedPort? = none ∧
      (saw depth e state).foundInline? = none := by
  cases e with
  | consumed => cases he
  | noticed n =>
    cases n with
    | delivering => cases he
    | _ => exact ⟨rfl, rfl, rfl⟩
  | _ => exact ⟨rfl, rfl, rfl⟩

/-- The inline handler that a call starts. -/
def Request.inline? : Request → Option (HandlerName × Port)
  | .handle .inline handler port => some (handler, port)
  | _ => none

theorem Entry.startedInline?_called (depth : Nat) (r : Request) (state : Channels) :
    (called depth r state).startedInline? = r.inline? := by
  cases r with
  | handle context handler port => cases context <;> rfl
  | _ => rfl

/-- All entries so far are prompt, and the next is owed a dispatch or an inline start. -/
structure Owing (port? : Option Port) (inline? : Option (HandlerName × Port))
    (history : History) : Prop where
  always : history.Always Entry.IsPrompt
  port : history.head?.bind Entry.consumedPort? = port?
  inline : history.head?.bind Entry.foundInline? = inline?

namespace Owing

variable {port? : Option Port} {inline? : Option (HandlerName × Port)} {history : History}

theorem cons (h : Owing port? inline? history) (entry : Entry)
    (hport : entry.dispatchedPort? = port?) (hinline : entry.startedInline? = inline?) :
    Owing entry.consumedPort? entry.foundInline? (entry :: history) :=
  ⟨.cons ⟨hport.trans h.port.symm, hinline.trans h.inline.symm⟩ h.always, rfl, rfl⟩

/-- Nothing is owed. -/
def Settled (s : System History) : Prop := Owing none none s.outside

variable {c : Client} {depth : Nat} {α : Type} {port : Port}

theorem keeps_onTable (f : ActionTable → α × ActionTable) :
    Keeps Settled (fun s => Owing port? inline? s.outside) (onTable f) :=
  Leads.onTable fun _ _ => id

theorem keeps_modifyTable (f : ActionTable → ActionTable) : Keeps Settled Settled (modifyTable f) :=
  Leads.modifyTable fun _ _ => id

theorem keeps_onPage (m : PageM α) : Keeps Settled Settled (onPage m) := by
  apply Leads.onPage
  intro state o hs
  split <;> exact hs

theorem leads_record {entry : Channels → Entry} (hport : ∀ state, (entry state).dispatchedPort? = none)
    (hinline : ∀ state, (entry state).startedInline? = inline?)
    (hconsumed : ∀ state, (entry state).consumedPort? = none)
    (hfound : ∀ state, (entry state).foundInline? = none) :
    Leads Settled (fun s => Owing none inline? s.outside) (record entry) fun _ => Settled := by
  apply Leads.record
  intro state o hs
  have hcons := hs.cons _ (hport state) (hinline state)
  rw [hconsumed, hfound] at hcons
  exact hcons

theorem keeps_emit {e : Event} (he : e.isSilent = true) :
    Keeps Settled Settled (emit (c.platform depth) e) := by
  apply Client.leads_emit
  intro state o hs
  obtain ⟨hport, hconsumed, hfound⟩ := Entry.silent he depth state
  have hcons := hs.cons _ hport rfl
  rw [hconsumed, hfound] at hcons
  exact hcons

theorem keepsRemarks : KeepsRemarks (c.platform depth) Settled Settled := by
  intro n hn
  cases n with
  | delivering | actionDropped => cases hn
  | _ => exact keeps_emit rfl

theorem keeps_enqueue (port : Port) :
    Keeps Settled Settled (enqueue (c.platform depth) port) :=
  Guest.keeps_enqueue (keeps_onTable _) fun _ => keeps_emit rfl

theorem keeps_cancel (port : Port) : Keeps Settled Settled (cancel (c.platform depth) port) :=
  Guest.keeps_cancel (keeps_onTable _) fun _ => keeps_emit rfl

section Calls

variable (hcall : ∀ r, Leads Settled (fun s => Owing none r.inline? s.outside)
  (call (c.platform depth) r) fun _ => Settled)

include hcall

theorem keeps_call {r : Request} (hr : r.startsHandler = false) :
    Keeps Settled Settled (call (c.platform depth) r) := by
  have hnone : r.inline? = none := by
    unfold Request.inline?
    split
    · cases hr
    · rfl
  have h := hcall r
  rw [hnone] at h
  exact h

theorem stable : Stable (c.platform depth) Settled Settled :=
  ⟨fun _ hr _ _ => keeps_call hcall hr, keepsRemarks⟩

/-- An inline handler is owed exactly if the service is going to find one. -/
theorem leads_service (port : Port) (kind : Kind) (t : ActionTable) : Leads Settled
    (fun s => Owing none (if kind = .normal then (t.handler? port .normal).map (·, port) else none)
      s.outside ∧ s.channels.table = t)
    (service (c.platform depth) port kind) fun _ => Settled := by
  have hstable := stable hcall
  by_cases hkind : kind = .normal
  · subst hkind
    apply leads_service_normal
    · intro handler
      apply (hcall _).of_pre
      intro s hs
      obtain ⟨⟨hs, rfl⟩, hhandler⟩ := hs
      rw [hhandler] at hs
      exact hs
    · apply Leads.of_pre (keepsRemarks _ rfl)
      intro s hs
      obtain ⟨⟨hs, rfl⟩, hhandler⟩ := hs
      rw [hhandler] at hs
      exact hs
  · have hservice : Keeps Settled Settled (service (c.platform depth) port kind) :=
      keeps_service hstable (keeps_call hcall rfl) (fun he => absurd he hkind) (fun _ => keeps_onTable _) keeps_enqueue
    apply Leads.of_pre hservice
    intro s hs
    obtain ⟨hs, _⟩ := hs
    rw [if_neg hkind] at hs
    exact hs

theorem leads_deliver (port : Port) : Leads Settled (fun s => Owing (some port) none s.outside)
    (deliver (c.platform depth) port) fun _ => Settled := by
  apply Leads.bind (keeps_onTable _)
  intro deliveries
  apply Leads.table.bind
  intro t
  apply Leads.bind _ fun _ => leads_service hcall port (t.kind port) t
  apply Client.leads_emit
  intro state o hs
  obtain ⟨hs, rfl⟩ := hs
  refine ⟨?_, rfl⟩
  let entry : Entry :=
    .saw depth (.noticed (.delivering port (state.table.kind port) deliveries)) state
  have hcons : Owing none entry.foundInline? (entry :: o) := hs.cons entry rfl rfl
  rw [Entry.foundInline?_delivering] at hcons
  exact hcons

theorem keeps_consume (word bit : Fin 64) :
    Keeps Settled Settled (consume (c.platform depth) word bit) := by
  apply (keeps_onPage _).discard.bind
  intro _
  have hseen : Leads Settled Settled (emit (c.platform depth) (.consumed word bit)) fun _ s =>
      Owing (Port.at? word bit) none s.outside := by
    apply Client.leads_emit
    intro state o hs
    let entry : Entry := .saw depth (.consumed word bit) state
    have hcons : Owing entry.consumedPort? none (entry :: o) := hs.cons entry rfl rfl
    rw [Port.at?_eq]
    exact hcons
  apply hseen.bind
  intro _
  cases Port.at? word bit with
  | some port => exact leads_deliver hcall port
  | none =>
    have hremark : Keeps Settled Settled (note (c.platform depth) (.eventBeyondTable word bit)) :=
      keepsRemarks _ rfl
    exact hremark.bind fun _ => .pure _

theorem parts : Operation.Parts (c.platform depth) Settled Settled where
  stable := stable hcall
  line _ hline := keeps_call hcall (Request.startsHandler_of_line hline)
  page :=
    { page := keeps_onPage
      modifyPage := fun _ => Leads.modifyPage fun _ _ => id
      raised := fun _ _ => keeps_emit rfl
      discarded := fun _ _ => keeps_emit rfl
      pendingDropped := fun _ => keeps_emit rfl }
  setInterruptsMasked _ := ⟨fun _ => id⟩
  setConnected _ := ⟨fun _ => id⟩
  setSuspendPort _ := ⟨fun _ => id⟩
  publish _ _ := keeps_publish keepsRemarks (fun _ => keeps_modifyTable _) (keeps_modifyTable _)
    (keeps_emit rfl)
  dropAction _ := keeps_dropAction keepsRemarks (keeps_modifyTable _) fun _ _ => keeps_emit rfl
  resetSlot port := keeps_resetSlot keepsRemarks (keeps_modifyTable _) (keeps_cancel port)
    (keeps_modifyTable _) (keeps_onTable _) (keeps_emit rfl) (keeps_modifyTable _)
  enqueue := keeps_enqueue
  cancel := keeps_cancel
  takeWord _ := keeps_onTable _
  setOutstanding _ := keeps_onTable _
  acknowledge _ := keeps_onTable _
  reader _ hop := TableOperation.keeps_moveReader (fun _ _ => keeps_modifyTable _)
    (fun _ => keeps_emit rfl) (fun _ => keeps_emit rfl) hop
  consume := keeps_consume hcall
  runItem _ := leads_runItem (stable hcall) (keeps_onTable _) (keeps_emit rfl) fun _ =>
    hcall (.handle .deferred _ _)

theorem keeps_logged (op : Operation) :
    Keeps Settled Settled (op.logged (c.platform depth) depth) := by
  have hbegan : Keeps Settled Settled (record (.began depth op)) :=
    leads_record (fun _ => rfl) (fun _ => rfl) (fun _ => rfl) fun _ => rfl
  have hrun : Keeps Settled Settled (op.run (c.platform depth)) :=
    (parts hcall).run (fun _ => id) fun _ _ => keeps_onTable _
  exact Operation.keeps_logged hbegan hrun fun _ =>
    leads_record (fun _ => rfl) (fun _ => rfl) (fun _ => rfl) fun _ => rfl

end Calls

end Owing

/-- At every moment of a run dispatches and inline starts are prompt, and in the end none is owed. -/
theorem Client.always_prompt (c : Client) (depth : Nat) {α : Type} (program : Program α)
    (start : Channels) : Owing none none (c.history depth program start) := by
  have hmaintains : c.Maintains (depth + 1) (fun s => Owing none none s.outside)
      (fun _ : Unit => Owing.Settled) (fun _ r s => Owing none r.inline? s.outside)
      fun _ _ => True := by
    refine ⟨fun _ _ _ _ => Program.within_of_forall fun _ => trivial, fun _ _ _ => ?_,
      fun _ _ _ _ => ?_, fun depth _ hcall _ op _ => Owing.keeps_logged (hcall ()) op⟩
    · exact Owing.leads_record (fun _ => rfl) (Entry.startedInline?_called _ _) (fun _ => rfl)
        fun _ => rfl
    · exact Owing.leads_record (fun _ => rfl) (fun _ => rfl) (fun _ => rfl) fun _ => rfl
  exact hmaintains.holds () (Program.within_of_forall fun _ => trivial) ⟨.nil, rfl, rfl⟩
    fun _ => id

end EventChannel
