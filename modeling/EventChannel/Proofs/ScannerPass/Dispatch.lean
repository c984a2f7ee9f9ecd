import EventChannel.Guest.Scan
import EventChannel.Proofs.History
import EventChannel.Proofs.Keeping.Binding
import EventChannel.Proofs.ScannerPass.Broadcast
import EventChannel.Proofs.SharedPage

namespace EventChannel

namespace History

/-- The calls that were made, the earliest first. -/
def requests : History → List Request
  | [] => []
  | .called _ r _ :: before => requests before ++ [r]
  | .began .. :: before | .ended .. :: before | .saw .. :: before | .answered .. :: before =>
    requests before

/-- The ports to which scanner passes dispatched events, the earliest first. -/
def dispatched : History → List Port
  | [] => []
  | .saw _ (.noticed (.delivering port _ _)) _ :: before => dispatched before ++ [port]
  | _ :: before => dispatched before

/-- The history tells of certain calls and dispatches. -/
def Tells (requests : List Request) (ports : List Port) (history : History) : Prop :=
  history.requests = requests ∧ history.dispatched = ports

end History

/-- Whether an event tells of a dispatch. -/
def Event.isDispatch : Event → Bool
  | .noticed (.delivering ..) => true
  | _ => false

theorem Notice.isDispatch_of_isRemark {n : Notice} (h : n.isRemark = true) :
    (Event.noticed n).isDispatch = false := by
  cases n with
  | delivering => cases h
  | _ => rfl

theorem History.dispatched_saw {e : Event} (h : e.isDispatch = false) (depth : Nat)
    (state : Channels) (before : History) :
    dispatched (.saw depth e state :: before) = before.dispatched := by
  unfold Event.isDispatch at h
  split at h
  · cases h
  next hne =>
    rw [dispatched]
    intro depth' port kind deliveries state' he
    cases he
    exact hne _ _ _ rfl

namespace Guest

variable {c : Client} {lost : System History → Prop} {requests : List Request} {ports : List Port}
  {channels : Channels} {port : Port}

theorem held_call (r : Request) : Leads lost (Held (History.Tells requests ports) channels)
    (call (c.platform 0) r) fun _ => Held (History.Tells (requests ++ [r]) ports) channels :=
  Client.held_call fun _ h => ⟨congrArg (· ++ [r]) h.1, h.2⟩

theorem held_told {e : Event} (h : e.isDispatch = false) :
    Keeps lost (Held (History.Tells requests ports) channels) (emit (c.platform 0) e) := by
  apply Client.leads_emit
  intro state o hs
  obtain ⟨hchannels, hrequests, hports⟩ := hs
  exact ⟨hchannels, hrequests, (History.dispatched_saw h 0 state o).trans hports⟩

theorem held_delivering (port : Port) (kind : Kind) (deliveries : UInt64) :
    Leads lost (Held (History.Tells requests ports) channels)
      (note (c.platform 0) (.delivering port kind deliveries)) fun _ =>
      Held (History.Tells requests (ports ++ [port])) channels := by
  apply Client.leads_emit
  intro state o hs
  obtain ⟨hchannels, hrequests, hports⟩ := hs
  exact ⟨hchannels, hrequests, congrArg (· ++ [port]) hports⟩

/-- The table has gained something, and the history tells of certain calls and dispatches. -/
def Gained (counted marked queued : Port → Bool) (requests : List Request) (ports : List Port)
    (channels : Channels) (s : System History) : Prop :=
  ∃ u, Held (History.Tells requests ports) { channels with table := u } s ∧
    channels.table.Gains counted marked queued u

theorem leads_gained {α : Type} {counted marked queued : Port → Bool} {m : Guest History α}
    {post : α → System History → Prop}
    (h : ∀ u, channels.table.Gains counted marked queued u →
      Leads lost (Held (History.Tells requests ports) { channels with table := u }) m post) :
    Leads lost (Gained counted marked queued requests ports channels) m post :=
  Leads.of_exists fun u => Leads.assume (h u)

theorem held_queued (port : Port) (kind : Kind) (state : Channels) (history : History)
    (h : history.Tells requests ports) :
    ((c.platform 0).observe (.workQueued port kind) state history).Tells requests ports := h

theorem held_postpone (hmasked : channels.interruptsMasked = false) :
    Leads lost (Held (History.Tells requests ports) channels) (postpone (c.platform 0) port)
      fun _ => Held (History.Tells
        (requests ++ if channels.table.isQueued port then [] else [.queueDeferred]) ports)
        { channels with table := (channels.table.enqueue port).2 } := by
  apply (held_unmasked hmasked).bind_of_eq
  rw [if_neg Bool.false_ne_true]
  apply (held_enqueue held_queued).bind
  intro fresh
  apply Leads.assume
  rintro rfl
  cases channels.table.isQueued port with
  | true =>
    rw [if_pos rfl, List.append_nil]
    exact .pure fun _ => id
  | false =>
    rw [if_neg Bool.false_ne_true]
    exact held_call _

theorem leads_broadcast : Leads lost (Held (History.Tells requests ports) channels)
    (broadcast (c.platform 0)) fun counts s =>
      Gained ActionTable.nowhere channels.table.isIrq channels.table.isIrq requests ports channels s ∧
      decide (0 < counts.2) =
        Port.all.any fun p => channels.table.isIrq p && !channels.table.isQueued p := by
  apply (held_broadcast held_queued).of_post
  rintro counts s ⟨hs, hcounts⟩
  rw [hcounts]
  exact ⟨hs, channels.table.irqCounts_pos Port.all⟩

/-- An event on a port has been serviced, after calls and dispatches of which the history tells. -/
def Reacted (requests : List Request) (ports : List Port) (channels : Channels) (port : Port)
    (one : PassOutcome) (s : System History) : Prop :=
  Gained ActionTable.nowhere (channels.table.marks [port]) (channels.table.queues [port])
    (requests ++ channels.table.requestsAt [] port) ports channels s ∧
  one = (channels.table.kind port).outcome

theorem leads_serviceNormal (hkind : channels.table.kind port = .normal) :
    Leads lost (Held (History.Tells requests ports) channels) (service (c.platform 0) port .normal)
      (Reacted requests ports channels port) := by
  have hgains := ActionTable.Gains.of_prompt (.inr hkind)
  unfold Reacted
  rw [ActionTable.requestsAt, hkind]
  apply held_table
  dsimp only
  cases channels.table.handler? port .normal with
  | some handler =>
    apply (held_call _).bind
    intro _
    exact .pure fun _ hs => ⟨⟨_, hs, hgains⟩, rfl⟩
  | none =>
    rw [List.append_nil]
    apply Leads.bind (held_told rfl)
    intro _
    exact .pure fun _ hs => ⟨⟨_, hs, hgains⟩, rfl⟩

theorem leads_serviceProcedure (hmasked : channels.interruptsMasked = false)
    (hkind : channels.table.kind port = .deferredProcedure) :
    Leads lost (Held (History.Tells requests ports) channels)
      (service (c.platform 0) port .deferredProcedure) (Reacted requests ports channels port) := by
  unfold Reacted
  rw [ActionTable.requestsAt_of_isDeferred (hkind ▸ rfl), hkind]
  apply (held_postpone hmasked).bind
  intro _
  exact .pure fun _ hs => ⟨⟨_, hs, .of_deferredProcedure hkind⟩, rfl⟩

theorem leads_serviceIrq (hmasked : channels.interruptsMasked = false)
    (hkind : channels.table.kind port = .deferredHardwareIrq) :
    Leads lost (Held (History.Tells requests ports) channels)
      (service (c.platform 0) port .deferredHardwareIrq) (Reacted requests ports channels port) := by
  have hpostpone : Leads lost (Held (History.Tells requests ports)
        { channels with table := (channels.table.setOutstanding port).2 })
      (postpone (c.platform 0) port) fun _ => Held (History.Tells
        (requests ++ if channels.table.isQueued port then [] else [.queueDeferred]) ports)
        { channels with table := ((channels.table.setOutstanding port).2.enqueue port).2 } :=
    held_postpone hmasked
  unfold Reacted
  rw [ActionTable.requestsAt_of_isDeferred (hkind ▸ rfl), hkind]
  apply held_onTable.discard.bind
  intro _
  apply hpostpone.bind
  intro _
  exact .pure fun _ hs => ⟨⟨_, hs, .of_deferredHardwareIrq hkind⟩, rfl⟩

theorem leads_serviceSuspend (hkind : channels.table.kind port = .suspend) :
    Leads lost (Held (History.Tells requests ports) channels) (service (c.platform 0) port .suspend)
      (Reacted requests ports channels port) := by
  unfold Reacted
  rw [ActionTable.requestsAt_of_suspend hkind, hkind]
  apply leads_broadcast.bind
  intro ⟨marked, queued⟩
  apply Leads.assume
  intro hcount
  apply leads_gained
  intro u hgains
  rw [← hcount]
  apply Leads.bind (held_told rfl)
  intro _
  dsimp only
  split
  next hpos =>
    rw [decide_eq_true hpos, if_pos rfl]
    apply (held_call _).bind
    intro _
    exact .pure fun _ hs => ⟨⟨u, hs, hgains.of_suspend hkind⟩, rfl⟩
  next hnone =>
    rw [decide_eq_false hnone, if_neg Bool.false_ne_true, List.append_nil]
    exact .pure fun _ hs => ⟨⟨u, hs, hgains.of_suspend hkind⟩, rfl⟩

/-- What servicing an event does follows from the kind of its port. -/
theorem leads_service (hmasked : channels.interruptsMasked = false) :
    Leads lost (Held (History.Tells requests ports) channels)
      (service (c.platform 0) port (channels.table.kind port))
      (Reacted requests ports channels port) := by
  cases hkind : channels.table.kind port with
  | empty =>
    have hgains := ActionTable.Gains.of_prompt (.inl hkind)
    unfold Reacted
    rw [ActionTable.requestsAt, hkind, List.append_nil]
    apply Leads.bind (held_told rfl)
    intro _
    exact .pure fun _ hs => ⟨⟨_, hs, hgains⟩, rfl⟩
  | normal => exact leads_serviceNormal hkind
  | deferredProcedure => exact leads_serviceProcedure hmasked hkind
  | deferredHardwareIrq => exact leads_serviceIrq hmasked hkind
  | suspend => exact leads_serviceSuspend hkind

/-- A delivery counts the event, dispatches it and services it. -/
theorem leads_deliver (hmasked : channels.interruptsMasked = false) :
    Leads lost (Held (History.Tells requests ports) channels) (deliver (c.platform 0) port)
      fun one s =>
        Gained [port].contains (channels.table.marks [port]) (channels.table.queues [port])
          (requests ++ channels.table.requestsAt [] port) (ports ++ [port]) channels s ∧
        one = (channels.table.kind port).outcome := by
  have hcount := ActionTable.Gains.countDelivery channels.table port
  have hwrite : Leads lost (Held (History.Tells requests ports) channels)
      (onTable fun t => t.countDelivery port) fun _ => Held (History.Tells requests ports)
        { channels with table := (channels.table.countDelivery port).2 } := held_onTable
  generalize (channels.table.countDelivery port).2 = t at hcount hwrite
  have hservice : Leads lost
      (Held (History.Tells requests (ports ++ [port])) { channels with table := t })
      (service (c.platform 0) port (t.kind port)) fun one s =>
        Gained ActionTable.nowhere (t.marks [port]) (t.queues [port])
          (requests ++ t.requestsAt [] port) (ports ++ [port]) { channels with table := t } s ∧
        one = (t.kind port).outcome := leads_service hmasked
  rw [hcount.kind, funext (hcount.marks_eq [port]), funext (hcount.queues_eq [port]),
    ActionTable.Gains.requestsAt_eq (ActionTable.queues_nil ▸ hcount)] at hservice
  apply hwrite.bind
  intro deliveries
  apply held_table
  dsimp only
  rw [hcount.kind]
  apply (held_delivering port _ deliveries).bind
  intro _
  apply hservice.of_post
  intro one s hs
  obtain ⟨⟨u, hs, hgains⟩, hone⟩ := hs
  refine ⟨⟨u, hs, ?_⟩, hone⟩
  apply (hcount.trans hgains fun _ _ => rfl).congr
  · intro q
    rw [ActionTable.contains_singleton]
    exact Bool.or_false _
  · exact fun _ => Bool.false_or _
  · exact fun _ => Bool.false_or _

end Guest

end EventChannel
