import EventChannel.Proofs.Teardown
import EventChannel.Proofs.WorkOrigin

namespace EventChannel

open Guest

/-- Whether a scanner pass begins to serve a suspend event. -/
def Entry.servesSuspend : Entry → Bool
  | saw _ (.noticed (.delivering _ .suspend _)) _ => true
  | _ => false

namespace History

/-- Whether a scanner pass has served a suspend event since the event channels were last brought
down. -/
def isResuspended : History → Bool
  | [] => false
  | entry :: before =>
    !entry.ends Operation.bringsDown && (entry.servesSuspend || isResuspended before)

variable {entry : Entry} {port : Port} {before : History}

theorem isResuspended_cons (hends : entry.ends Operation.bringsDown = false)
    (h : before.isResuspended = true) : isResuspended (entry :: before) = true := by
  rw [isResuspended, hends, h, Bool.or_true]
  rfl

/-- A scanner pass that serves a suspend event has begun to, and no teardown has ended since. -/
theorem isResuspended_of_serving {history : History} (h : history.serving? = some (port, .suspend)) :
    history.isResuspended = true := by
  induction history with
  | nil => cases h
  | cons entry before ih =>
    unfold serving? at h
    split at h
    next heq =>
      cases heq
      cases h
      rfl
    next heq =>
      cases heq
      exact isResuspended_cons rfl (ih h)
    next heq =>
      cases heq
      exact isResuspended_cons rfl (ih h)
    next => cases h

/-- Work that waits was waiting already, or has just been queued. -/
theorem isWaiting_of_cons (h : isWaiting port (entry :: before) = true) :
    before.isWaiting port = true ∨
      ∃ depth kind state, entry = .saw depth (.workQueued port kind) state := by
  cases hmoves : entry.movesWork port with
  | true => exact .inr (Entry.queues_of_isWaiting hmoves h)
  | false => exact .inl ((Entry.isWaiting_of_still hmoves).symm.trans h)

/-- While interrupts are masked, only a suspend event calls for work. -/
theorem CallsFor.of_masked {state : Channels} {kind : Kind} (h : before.CallsFor state port kind)
    (hmasked : state.interruptsMasked = true) : ∃ p, before.serving? = some (p, .suspend) := by
  rcases h with ⟨-, -, hopen⟩ | ⟨-, hserving⟩
  · rw [hmasked] at hopen
    cases hopen
  · exact hserving

end History

/-- Whether a deferred run is requested at an entry. -/
def Entry.requestsRun : Entry → Bool
  | called _ r _ => r.asksForRun
  | _ => false

/-- While the event channels are down, work is queued and a deferred run requested only by a scanner
pass that serves a suspend event; until one does nothing is queued. -/
structure Entry.LeavesQueueEmpty (entry : Entry) (before : History) : Prop where
  queued : History.isDown (entry :: before) = true → ∀ port, entry.queuesWork port = true →
    ∃ p, before.serving? = some (p, .suspend)
  requested : History.isDown (entry :: before) = true → entry.requestsRun = true →
    ∃ p, before.serving? = some (p, .suspend)
  idle : History.isDown (entry :: before) = true → History.isResuspended (entry :: before) = false →
    ∀ port, entry.state.table.isQueued port = false

/-- What is known of every entry about the queue while the event channels are down. -/
structure Entry.KeepsQueue (entry : Entry) (before : History) : Prop where
  masked : History.isDown (entry :: before) = true → entry.state.interruptsMasked = true
  traces : entry.TracesWork before
  told : WorkTold entry.state.table (entry :: before)

namespace Entry.KeepsQueue

variable {entry : Entry} {before : History} {port : Port}

/-- While the event channels are down, work is queued only as a suspend event is served. -/
theorem serving_of_queues (h : entry.KeepsQueue before)
    (hdown : History.isDown (entry :: before) = true) (hqueues : entry.queuesWork port = true) :
    ∃ p, before.serving? = some (p, .suspend) := by
  have hmasked := h.masked hdown
  unfold Entry.queuesWork at hqueues
  split at hqueues
  next _ q kind state =>
    have htraces : before.Queues state q kind := h.traces
    exact htraces.called.of_masked hmasked
  next => cases hqueues

theorem serving_of_requests (h : entry.KeepsQueue before)
    (hdown : History.isDown (entry :: before) = true) (hrequests : entry.requestsRun = true) :
    ∃ p, before.serving? = some (p, .suspend) := by
  have hmasked := h.masked hdown
  unfold Entry.requestsRun at hrequests
  split at hrequests
  next depth r state =>
    cases r with
    | queueDeferred =>
      obtain ⟨q, kind, hcalled⟩ : ∃ q kind, before.CallsFor state q kind := h.traces
      exact hcalled.of_masked hmasked
    | _ => cases hrequests
  next => cases hrequests

/-- A teardown ends with nothing queued. -/
theorem isQueued_of_ends (h : entry.KeepsQueue before)
    (hends : entry.ends Operation.bringsDown = true) : entry.state.table.isQueued port = false := by
  cases entry with
  | ended _ op _ state => exact h.traces hends port
  | _ => cases hends

end Entry.KeepsQueue

/-- While the event channels are down nothing waits until a suspend event is served. -/
theorem History.isWaiting_of_isDown {history : History} {port : Port}
    (h : history.Always Entry.KeepsQueue) (hdown : history.isDown = true)
    (hidle : history.isResuspended = false) : history.isWaiting port = false := by
  -- The induction goes back to the end of the teardown, which left nothing queued.
  induction h with
  | nil => rfl
  | @cons entry before latest _ ih =>
    cases hends : entry.ends Operation.bringsDown with
    | true => exact (latest.told port).symm.trans (latest.isQueued_of_ends hends)
    | false =>
      have hbefore : before.isResuspended = false :=
        Bool.eq_false_iff.2 fun hbefore =>
          Bool.eq_false_iff.1 hidle (isResuspended_cons hends hbefore)
      have hempty := ih (isDown_of_cons hends hdown) hbefore
      refine Bool.eq_false_iff.2 fun hwaits => ?_
      obtain hwaited | ⟨_, kind, state, rfl⟩ := isWaiting_of_cons hwaits
      · rw [hempty] at hwaited
        cases hwaited
      · obtain ⟨p, hserving⟩ := latest.serving_of_queues hdown (decide_eq_true rfl)
        rw [isResuspended_of_serving hserving] at hbefore
        cases hbefore

/-- Interrupts stay masked while the event channels are down. -/
theorem Closed.masked_of_start {c : Client}
    (hc : ∀ r history, (c.respond r history).Within fun op => op.leavesWork = true) (depth : Nat)
    {α : Type} {program : Program α} (hprogram : program.Within fun op => op.leavesWork = true)
    {page : SharedPage} {config : Config} {start : Channels}
    (hstart : Channels.ofPage page config = .ok start) :
    (c.history depth program start).Always fun entry before =>
      History.isDown (entry :: before) = true → entry.state.interruptsMasked = true := by
  obtain ⟨_, rfl⟩ := Channels.eq_of_ofPage hstart
  have hbegin : Closed 0 True True ⟨⟨page, .powerOn, config, true, false, none⟩, []⟩ :=
    ⟨rfl, .nil, fun _ => nofun, fun _ => .inl nofun⟩
  have halways : (c.history depth program _).Always Entry.RespectsTeardown :=
    (Closed.maintains hc (depth + 1)).holds 0 hprogram hbegin fun _ hs => hs.always
  exact halways.mono fun _ _ h => h.masked

/-- Once the event channels have been brought down, and until they are brought up again, work is
queued and a deferred run requested only by a scanner pass that serves a suspend event, however
operations are nested; until one does, the queue that was drained stays empty. -/
theorem queue_stays_empty_after_teardown {c : Client}
    (hc : ∀ r history, (c.respond r history).Within fun op => op.leavesWork = true) (depth : Nat)
    {α : Type} {program : Program α} (hprogram : program.Within fun op => op.leavesWork = true)
    {page : SharedPage} {config : Config} {start : Channels}
    (hstart : Channels.ofPage page config = .ok start) :
    (c.history depth program start).Always Entry.LeavesQueueEmpty ∧
    ((c.history depth program start).isDown = true →
      (c.history depth program start).isResuspended = false →
      ∀ port, (c.finish depth program start).channels.table.isQueued port = false) := by
  obtain ⟨htold, htells, -⟩ := Accounted.of_start c depth program hstart
  have hmasked := Closed.masked_of_start hc depth hprogram hstart
  have htraces := Traced.of_start hc depth hprogram hstart
  have hkeeps : (c.history depth program start).Always Entry.KeepsQueue :=
    (hmasked.and (htraces.and htells)).mono fun _ _ h => ⟨h.1, h.2.1, h.2.2.told⟩
  refine ⟨hkeeps.derive fun entry before hentry hbefore => ?_, fun hdown hidle port => ?_⟩
  · refine ⟨fun hdown _ => hentry.serving_of_queues hdown, hentry.serving_of_requests,
      fun hdown hidle port => ?_⟩
    rw [hentry.told port]
    exact History.isWaiting_of_isDown (.cons hentry hbefore) hdown hidle
  · rw [htold port]
    exact History.isWaiting_of_isDown hkeeps hdown hidle

/-- A client whose inline handlers suspend the event channels. -/
def Client.suspending : Client :=
  granting 3 fun
    | .handle .inline _ _ => [.channels .suspend]
    | _ => []

theorem queue_stays_empty_after_teardown_suspending :
    (∀ r history, (Client.suspending.respond r history).Within fun op => op.leavesWork = true) ∧
    (Client.suspending.history 2
      (.sequence () [.channels .init, .channels (.bindInline ⟨2⟩ "control"),
        .channels (.bindDeferred ⟨5⟩ "ring"), .channels (.bindIrq ⟨6⟩ 9 "legacy" "line"),
        .page (.raise ⟨2⟩ 0), .page (.raise ⟨5⟩ 0), .page (.raise ⟨6⟩ 0), .channels .scannerPass,
        .channels .deferredPass])
      ⟨.zero, .powerOn, { callbackIrq := 5 }, true, false, none⟩).Always
        Entry.LeavesQueueEmpty := by
  have hc (r : Request) (history : History) : (Client.suspending.respond r history).Within fun op =>
      op.leavesWork = true := by
    apply Program.within_sequence.2
    cases r with
    | handle context =>
      cases context with
      | inline => exact List.forall_mem_singleton.2 rfl
      | _ => exact fun _ hop => absurd hop List.not_mem_nil
    | _ => exact fun _ hop => absurd hop List.not_mem_nil
  have hstart : Channels.ofPage .zero { callbackIrq := 5 } =
      .ok ⟨.zero, .powerOn, { callbackIrq := 5 }, true, false, none⟩ := rfl
  exact ⟨hc, (queue_stays_empty_after_teardown hc 2 (Program.within_sequence.2 (by decide)) hstart).1⟩

end EventChannel
