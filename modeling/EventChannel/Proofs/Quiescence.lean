import EventChannel.Proofs.DeferredPass
import EventChannel.Proofs.Erasure.Steps
import EventChannel.Proofs.LifecycleState.Flags

namespace EventChannel

open Guest

namespace ActionTable

variable (t : ActionTable) (ports : List Port) (q : Port)

/-- Cancelling ports one by one takes those of the list off the queue and no others. -/
theorem slot_foldl_cancel : (ports.foldl (fun t p => (t.cancel p).2) t).slot q =
    if q ∈ ports then { t.slot q with work := .new } else t.slot q := by
  apply t.view_foldl q slot fun s => { s with work := .new }
  · intro t p q
    rw [slot_cancel, setWork, slot_modifySlot]
    rfl
  · exact fun _ => rfl

theorem isFlagged_foldl_cancel : (ports.foldl (fun t p => (t.cancel p).2) t).isFlagged q =
    if q ∈ ports then false else t.isFlagged q :=
  t.view_foldl q isFlagged (fun _ => false) isFlagged_cancel (fun _ => rfl) ports

theorem outstanding_foldl_cancel :
    (ports.foldl (fun t p => (t.cancel p).2) t).outstanding = t.outstanding := by
  induction ports generalizing t with
  | nil => rfl
  | cons p ports ih =>
    rw [List.foldl_cons, ih]
    rfl

theorem foldl_cancel_all : Port.all.foldl (fun t p => (t.cancel p).2) t = t.withoutWork := by
  apply ext_ports
  · intro p
    rw [slot_foldl_cancel, if_pos p.mem_all, slot_withoutWork]
  · intro p
    rw [isOutstanding, outstanding_foldl_cancel]
    rfl
  · intro p
    rw [isFlagged_foldl_cancel, if_pos p.mem_all, isFlagged_withoutWork]

end ActionTable

namespace Guest

section Observed

variable {σ : Type} {P : Platform σ} {lost : System σ → Prop} {K : σ → Prop} {c : Channels}
variable (hseen : ∀ e c o, K o → K (P.observe e c o))

include hseen

theorem held_cancelEach (ports : List Port) :
    Leads lost (Held K c) (cancelEach P ports) fun _ =>
      Held K { c with table := ports.foldl (fun t p => (t.cancel p).2) c.table } := by
  induction ports generalizing c with
  | nil => exact .pure fun _ => id
  | cons port ports ih =>
    apply (held_cancel hseen).bind
    intro found
    exact ih.bind fun _ => .pure fun _ => id

/-- A sweep takes every work item off the queue, with every bit that tells of one. -/
theorem held_cancelAll : Leads lost (Held K c) (cancelAll P) fun _ =>
    Held K { c with table := c.table.withoutWork } := by
  have hsweep : Leads lost (Held K c) (cancelAll P) _ := held_cancelEach hseen Port.all
  rw [ActionTable.foldl_cancel_all] at hsweep
  exact hsweep

end Observed

end Guest

/-- Interrupts are masked, and under a condition every upcall is. -/
structure Quiet {σ : Type} (alone : Prop) (s : System σ) : Prop where
  masked : s.channels.interruptsMasked = true
  upcalls : alone → s.channels.page.upcalls = fun _ => true

namespace Quiet

variable {σ : Type} {P : Platform σ} {alone : Prop}

/-- What leaves the flags alone leaves the event channels quiet. -/
theorem of_flags {c c' : Channels} {o o' : σ} (h : Quiet alone ⟨c, o⟩)
    (hmasked : c'.interruptsMasked = c.interruptsMasked)
    (hupcalls : alone → c'.page.upcalls = c.page.upcalls) : Quiet alone ⟨c', o'⟩ :=
  ⟨hmasked.trans h.masked, fun halone => (hupcalls halone).trans (h.upcalls halone)⟩

theorem keeps_emit (e : Event) : Keeps (fun _ => True) (Quiet alone) (emit P e) :=
  Leads.emit fun _ _ hs => hs.of_flags rfl fun _ => rfl

theorem keeps_onPage {α : Type} {m : PageM α}
    (h : alone → PageM.Retains SharedPage.upcalls m) :
    Keeps (σ := σ) (fun _ => True) (Quiet alone) (onPage m) := by
  apply Leads.onPage
  intro c o hs
  cases hrun : m c.page with
  | ok a page => exact hs.of_flags rfl fun halone => h halone c.page a page hrun
  | error e page => trivial

theorem flags (hcall : ∀ r, Keeps (fun _ => True) (Quiet alone) (call P r)) :
    FlagsOnly P (fun _ => True) (Quiet alone) where
  call r _ := hcall r
  emit := keeps_emit
  modifyTable _ := Leads.modifyTable fun _ _ hs => hs.of_flags rfl fun _ => rfl
  onTable _ := Leads.onTable fun _ _ hs => hs.of_flags rfl fun _ => rfl
  modifyPage hf := Leads.modifyPage fun _ _ hs => hs.of_flags rfl fun _ => hf _
  onPage h := keeps_onPage fun _ => h

/-- Only the operations of the lifecycle, and those that set upcall masks, disturb the quiet. -/
theorem keeps_run (hcall : ∀ r, Keeps (fun _ => True) (Quiet alone) (call P r)) {op : Operation}
    (hlifecycle : op.isLifecycle = false) (hmasks : alone → op.masksUpcall = false) :
    Keeps (fun _ => True) (Quiet alone) (op.run P) := by
  cases hmask : op.masksUpcall with
  | true =>
    have halone : ¬alone := fun halone => Bool.false_ne_true ((hmasks halone).symm.trans hmask)
    cases op with
    | vcpu vcpu op =>
      have hpage {α : Type} (m : PageM α) : Keeps (σ := σ) (fun _ => True) (Quiet alone) (onPage m) :=
        keeps_onPage fun he => absurd he halone
      exact (VcpuOperation.keeps_run hpage vcpu op).bind fun _ => .pure _
    | _ => cases hmask
  | false =>
    cases hline : op.concernsLine with
    | true =>
      cases op with
      | channels op =>
        have hconnected (connected : Bool) :
            Keeps (σ := σ) (fun _ => True) (Quiet alone) (setConnected connected) :=
          ⟨fun _ hs => hs.of_flags rfl fun _ => rfl⟩
        exact ChannelOperation.keeps_line (flags hcall).stable (fun r _ => hcall r) hconnected hline
      | _ => cases hline
    | false =>
      have htransition : op.isTransition = false := by
        rw [Operation.isTransition, hlifecycle, hline]
        rfl
      exact (flags hcall).run (fun _ _ => trivial) hmask htransition

theorem maintains {c : Client} (hc : ∀ r history, (c.respond r history).Within fun op =>
      op.isLifecycle = false ∧ (alone → op.masksUpcall = false)) (limit : Nat) :
    c.Maintains limit (fun _ => True) (fun _ : Unit => Quiet alone) (fun _ _ => Quiet alone)
      fun _ op => op.isLifecycle = false ∧ (alone → op.masksUpcall = false) where
  respond _ r s _ := hc r s.outside
  called _ _ _ := Leads.record fun _ _ hs => hs.of_flags rfl fun _ => rfl
  answered _ _ _ _ := Leads.record fun _ _ hs => hs.of_flags rfl fun _ => rfl
  logged depth _ hcall _ op hop := by
    apply Operation.keeps_logged _ (keeps_run (fun r => hcall () r) hop.1 hop.2)
    · exact fun _ => Leads.record fun _ _ hs => hs.of_flags rfl fun _ => rfl
    · exact Leads.record fun _ _ hs => hs.of_flags rfl fun _ => rfl

end Quiet

/-- The event channels are quiet, no work is queued, no bit tells of any, and no port is reserved for
suspend broadcasts. -/
structure TornDown {σ : Type} (alone : Prop) (s : System σ) : Prop extends Quiet alone s where
  idle : ∀ p, s.channels.table.isQueued p = false
  unflagged : s.channels.table.queued = .replicate 16 .empty
  suspendPort : s.channels.suspendPort = none

namespace TornDown

variable {σ : Type} {P : Platform σ} {alone : Prop}

theorem leads_quiesce :
    Leads (fun _ => True) (fun _ : System σ => True) quiesce fun _ => Quiet alone := by
  apply Leads.of_held
  intro c
  apply held_quiesce.of_post
  intro _ s hs
  refine ⟨congrArg Channels.interruptsMasked hs.channels, fun _ => ?_⟩
  rw [hs.channels]
  exact c.page.upcalls_modifyVcpus true fun v => v.isUpcallMasked_maskUpcall true

theorem keepsRemarks : KeepsRemarks P (fun _ => True) (TornDown alone) := fun _ _ =>
  Leads.emit fun _ _ hs =>
    ⟨hs.toQuiet.of_flags rfl fun _ => rfl, hs.idle, hs.unflagged, hs.suspendPort⟩

/-- What the calls in between have queued is taken off the queue by the second sweep. -/
theorem leads_emptyQueue (hcall : ∀ r, Keeps (fun _ => True) (Quiet alone) (call P r)) :
    Leads (fun _ => True) (Quiet alone) (emptyQueue P) fun _ => TornDown alone := by
  have hsweep : Leads (fun _ => True) (Quiet alone) (cancelAll P) fun _ s =>
      Quiet alone s ∧ ∃ t : ActionTable, s.channels.table = t.withoutWork := by
    apply Leads.of_held
    intro c
    apply (held_cancelAll fun _ _ _ ho => ho.of_flags rfl fun _ => rfl).of_post
    intro _ s hs
    refine ⟨⟨?_, fun halone => ?_⟩, c.table, congrArg Channels.table hs.channels⟩
    · exact (congrArg Channels.interruptsMasked hs.channels).trans hs.outside.masked
    · exact (congrArg (fun c => c.page.upcalls) hs.channels).trans (hs.outside.upcalls halone)
  have hport : Leads (fun _ => True)
      (fun s : System σ => Quiet alone s ∧ ∃ t : ActionTable, s.channels.table = t.withoutWork)
      (setSuspendPort none) fun _ => TornDown alone := by
    constructor
    rintro s ⟨hs, t, ht⟩
    refine ⟨hs.of_flags rfl fun _ => rfl, fun p => ?_, ?_, rfl⟩
    · exact (congrArg (fun t => t.isQueued p) ht).trans (t.isQueued_withoutWork p)
    · exact congrArg ActionTable.queued ht
  exact Guest.leads_emptyQueue (Quiet.flags hcall).stable
    (keeps_cancelAll (Quiet.flags hcall).cancel) hsweep hport keepsRemarks

/-- Whatever the state was, a teardown that ends leaves the event channels torn down. -/
theorem leads_run (hcall : ∀ r, Keeps (fun _ => True) (Quiet alone) (call P r)) {op : Operation}
    (hop : op.bringsDown = true) :
    Leads (fun _ => True) (fun _ => True) (op.run P) fun _ => TornDown alone := by
  have hempty := leads_emptyQueue hcall
  cases op with
  | channels op =>
    cases op with
    | suspend =>
      have hsuspend := leads_suspend leads_quiesce hempty keepsRemarks
      exact hsuspend.bind fun _ => .pure fun _ => id
    | shutdown =>
      have hshutdown := leads_shutdown (Quiet.flags hcall).stable leads_quiesce hempty keepsRemarks
      exact hshutdown.bind fun _ => .pure fun _ => id
    | _ => cases hop
  | _ => cases hop

end TornDown

/-- The event channels as a teardown leaves them if calls do nothing to them. -/
def Channels.tornDown (c : Channels) : Channels :=
  { c with
    page := c.page.modifyVcpus fun v => v.maskUpcall true
    table := c.table.withoutWork
    interruptsMasked := true
    suspendPort := none }

/-- The calls that a teardown makes. -/
def Operation.teardownCalls : Operation → List Request
  | channels .shutdown => [.setParam .callbackIrq 0, .flushDeferred]
  | channels .suspend => [.flushDeferred]
  | _ => []

theorem ActionTable.withoutWork_withoutWork (t : ActionTable) :
    t.withoutWork.withoutWork = t.withoutWork := by
  apply ext_ports
  · intro p
    rw [slot_withoutWork, slot_withoutWork]
  · exact fun _ => rfl
  · exact fun _ => rfl

namespace Guest

variable {c : Client} {lost : System History → Prop} {requests : List Request} {state : Channels}

/-- The event channels are in a certain state, and certain calls have been made. -/
def Called (requests : List Request) (state : Channels) : System History → Prop :=
  Held (fun history => history.requests = requests) state

theorem called_call (r : Request) : Leads lost (Called requests state) (call (c.platform 0) r)
    fun _ => Called (requests ++ [r]) state :=
  Client.held_call fun _ h => congrArg (· ++ [r]) h

theorem called_note (n : Notice) :
    Keeps lost (Called requests state) (note (c.platform 0) n) :=
  held_emit (fun _ _ _ => id) (.noticed n)

theorem called_emptyQueue : Leads lost (Called requests state) (emptyQueue (c.platform 0))
    fun _ => Called (requests ++ [.flushDeferred])
      { state with table := state.table.withoutWork, suspendPort := none } := by
  have hsweep (requests : List Request) (t : ActionTable) :
      Leads lost (Called requests { state with table := t }) (cancelAll (c.platform 0))
        fun _ => Called requests { state with table := t.withoutWork } :=
    held_cancelAll fun _ _ _ => id
  apply (hsweep _ state.table).bind
  intro before
  apply (called_call _).bind
  intro _
  have hagain := hsweep (requests ++ [.flushDeferred]) state.table.withoutWork
  rw [ActionTable.withoutWork_withoutWork] at hagain
  apply hagain.bind
  intro after
  exact held_modifyChannels.bind fun _ => called_note _

theorem called_teardown {op : Operation} (hop : op.bringsDown = true) :
    Leads lost (Called requests state) (op.run (c.platform 0)) fun result s =>
      result = .ok .done ∧ Called (requests ++ op.teardownCalls) state.tornDown s := by
  have hquiesce : Leads lost (Called requests state) quiesce _ := held_quiesce
  cases op with
  | channels op =>
    cases op with
    | suspend =>
      have hsuspend : Leads lost (Called requests state) (suspend (c.platform 0)) fun _ =>
          Called (requests ++ [.flushDeferred]) state.tornDown :=
        hquiesce.bind fun _ => called_emptyQueue.bind fun _ => called_note _
      exact hsuspend.bind fun _ => .pure fun _ hs => ⟨rfl, hs⟩
    | shutdown =>
      have hshutdown : Leads lost (Called requests state) (shutdown (c.platform 0)) fun _ =>
          Called (requests ++ [.setParam .callbackIrq 0, .flushDeferred]) state.tornDown := by
        apply hquiesce.bind
        intro _
        rw [List.append_cons]
        apply (called_call _).bind
        intro reply
        -- A refusal is told and changes nothing else.
        cases reply with
        | error errno =>
          exact Leads.bind (called_note _) fun _ => called_emptyQueue.bind fun _ => called_note _
        | ok _ => exact called_emptyQueue.bind fun _ => called_note _
      exact hshutdown.bind fun _ => .pure fun _ hs => ⟨rfl, hs⟩
    | _ => cases hop
  | _ => cases hop

end Guest

/-- Whatever the state was and whatever is done during its calls, as long as none of it brings the
event channels up or down, a teardown that ends leaves no work queued, no bit that tells of any,
interrupts masked, no port for suspend broadcasts, and all upcalls masked unless upcall masks are
set on their own meanwhile. If its calls only leave a trace it does end, and changes nothing else;
a shutdown differs from a suspension by one call, whose answer does not matter. -/
theorem teardown_leaves_nothing_queued {c : Client}
    (hc : ∀ r history, (c.respond r history).Within fun op => op.isLifecycle = false)
    {op : Operation} (hop : op.bringsDown = true) (s : System History) :
    (∀ depth result s', op.run (c.platform depth) s = .ok result s' →
      (∀ p, s'.channels.table.isQueued p = false) ∧
      s'.channels.table.queued = .replicate 16 .empty ∧
      s'.channels.interruptsMasked = true ∧
      s'.channels.suspendPort = none ∧
      ((∀ r history, (c.respond r history).Within fun op => op.masksUpcall = false) →
        ∀ v, (s'.channels.page.vcpu v).isUpcallMasked = true)) ∧
    ∃ s', op.run (c.platform 0) s = .ok (.ok .done) s' ∧
      s'.channels = s.channels.tornDown ∧
      s'.outside.requests = s.outside.requests ++ op.teardownCalls := by
  constructor
  · intro depth result s' hrun
    let alone := ∀ r history, (c.respond r history).Within fun op => op.masksUpcall = false
    have hquiet (r : Request) (history : History) : (c.respond r history).Within fun op =>
        op.isLifecycle = false ∧ (alone → op.masksUpcall = false) := by
      by_cases halone : alone
      · exact ((hc r history).and (halone r history)).mono fun _ h => ⟨h.1, fun _ => h.2⟩
      · exact (hc r history).mono fun _ h => ⟨h, fun he => absurd he halone⟩
    have hcall := (Quiet.maintains hquiet depth).call (Nat.le_refl depth) ()
    have hdown := (TornDown.leads_run hcall hop).of_ok trivial hrun
    exact ⟨hdown.idle, hdown.unflagged, hdown.masked, hdown.suspendPort,
      fun halone v => congrFun (hdown.upcalls halone) v⟩
  · have hstart : Called s.outside.requests s.channels s := ⟨rfl, rfl⟩
    obtain ⟨result, s', hrun, rfl, hs'⟩ := (called_teardown (c := c) hop).exists_ok hstart
    exact ⟨s', hrun, hs'.channels, hs'.outside⟩

/-- A flag without an item, an item without a flag, and work that is queued once more while the runs
requested so far are waited for. -/
theorem teardown_leaves_nothing_queued_requeueing :
    let c := Client.granting 3 fun
      | .flushDeferred => [.channels (.bindIrq ⟨5⟩ 7 "late" "late"), .table .broadcast,
          .page (.raise ⟨5⟩ 0), .channels .scannerPass]
      | _ => []
    let slot : Nat → Slot
      | 1 => ⟨.deferredProcedure, .deferredProcedure "ring", 0, ⟨true⟩, 6⟩
      | _ => .powerOn
    let start : Channels := ⟨.zero, ⟨Vector.ofFn fun i => slot i.val, .replicate 16 .empty,
      (Bitmap.replicate 16 .empty).insert 0 2⟩, { callbackIrq := 5 }, false, true, some ⟨3⟩⟩
    (∀ r history, (c.respond r history).Within fun op => op.isLifecycle = false) ∧
    (Operation.channels .shutdown).bringsDown = true ∧
    (∀ result s', (Operation.channels .shutdown).run (c.platform 2) ⟨start, []⟩ = .ok result s' →
      ∀ p, s'.channels.table.isQueued p = false) ∧
    ∃ s', (Operation.channels .shutdown).run (c.platform 0) ⟨start, []⟩ = .ok (.ok .done) s' ∧
      s'.channels = start.tornDown ∧
      s'.outside.requests = [.setParam .callbackIrq 0, .flushDeferred] := by
  intro c slot start
  have hc (r : Request) (history : History) :
      (c.respond r history).Within fun op => op.isLifecycle = false := by
    apply Program.within_sequence.2
    cases r with
    | flushDeferred =>
      simp only [List.forall_mem_cons]
      exact ⟨rfl, rfl, rfl, rfl, nofun⟩
    | _ => exact fun _ hop => absurd hop List.not_mem_nil
  have hdown := @teardown_leaves_nothing_queued c hc (.channels .shutdown) rfl ⟨start, []⟩
  exact ⟨hc, rfl, fun result s' hrun => (hdown.1 2 result s' hrun).1, hdown.2⟩

end EventChannel
