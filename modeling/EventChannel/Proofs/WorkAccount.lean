import EventChannel.Proofs.Deeds
import EventChannel.Proofs.WorkAccount.Table

namespace EventChannel

open Guest

/-- What the operations under way have started once a call is made. -/
def Request.countIn (r : Request) (counts : List Nat) : List Nat :=
  if r.deferred?.isSome then counts.modifyHead (· + 1) else counts

theorem History.started_called (depth : Nat) (r : Request) (state : Channels) (before : History) :
    started (.called depth r state :: before) = r.countIn before.started := by
  cases r with
  | handle context => cases context <;> rfl
  | _ => rfl

namespace Accounted

/-- Before a call a deferred handler that it starts is owed, and not counted yet. -/
def Ready (counts : List Nat) (r : Request) (s : System History) : Prop :=
  ∃ earlier, Accounted r.deferred? earlier s ∧ r.countIn earlier = counts

variable {c : Client} {depth : Nat} {port : Port} {counts : List Nat} {n : Nat}

theorem leads_called (r : Request) : Leads AccountedUntil (Ready counts r)
    (record (.called depth r)) fun _ => Accounted none counts := by
  apply Leads.record
  intro state before hs
  obtain ⟨earlier, hs, rfl⟩ := hs
  have hcons := hs.cons rfl rfl (Entry.startedDeferred?_called depth r state) trivial
  rw [History.started_called, hs.started] at hcons
  exact hcons

theorem keeps_answered (r : Request) (reply : r.Reply) :
    Keeps AccountedUntil (Accounted none counts) (record (.answered depth r reply)) := by
  apply Leads.record
  intro state before hs
  have hcons : Accounted none (History.started (.answered depth r reply state :: before))
      ⟨state, .answered depth r reply state :: before⟩ := hs.cons rfl rfl rfl trivial
  exact hs.started ▸ hcons

section Calls

variable (hcall : ∀ counts r, Leads AccountedUntil (Ready counts r) (call (c.platform depth) r)
  fun _ => Accounted none counts)

include hcall

theorem keeps_call {r : Request} (hr : r.deferred? = none) :
    Keeps AccountedUntil (Accounted none counts) (call (c.platform depth) r) := by
  apply (hcall counts r).of_pre
  intro s hs
  refine ⟨counts, hr ▸ hs, ?_⟩
  rw [Request.countIn, hr]
  rfl

theorem stable : Stable (c.platform depth) AccountedUntil (Accounted none counts) :=
  ⟨fun r hr _ _ => keeps_call hcall (r.deferred?_eq_none hr), keepsRemarks⟩

theorem keeps_consume (word bit : Fin 64) :
    Keeps AccountedUntil (Accounted none counts) (consume (c.platform depth) word bit) := by
  have hstable : Stable (c.platform depth) AccountedUntil (Accounted none counts) := stable hcall
  have hmark (port : Port) : Keeps AccountedUntil (Accounted none counts)
      (onTable fun t => t.setOutstanding port) := keeps_onTable fun _ _ => rfl
  have hdeliver (port : Port) :
      Keeps AccountedUntil (Accounted none counts) (deliver (c.platform depth) port) :=
    keeps_deliver_of_starts hstable (keeps_call hcall rfl) (fun _ => keeps_call hcall rfl)
      (keeps_countDelivery port) (fun _ _ => keeps_emit fun _ => rfl) hmark keeps_enqueue
  exact Guest.keeps_consume hstable (keeps_onPage _) (keeps_emit fun _ => rfl) hdeliver

/-- A start is owed exactly if the claim is going to find a handler. -/
theorem leads_runItem (port : Port) : Leads AccountedUntil (Accounted none (n :: counts))
    (runItem (c.platform depth) port) fun one =>
      Accounted none ((if one then n + 1 else n) :: counts) := by
  have hclaim : Leads AccountedUntil (Accounted none (n :: counts)) (onTable fun t => t.claim port)
      fun found s => if found then Moved port true false (n :: counts) s
        else Accounted none (n :: counts) s := by
    apply Leads.onTable
    intro state history hs
    have hmoved := hs.moved fun q => state.table.isQueued_claim port q
    change if state.table.isQueued port = true then _ else _
    cases hqueued : state.table.isQueued port with
    | true =>
      rw [hqueued] at hmoved
      exact hmoved
    | false =>
      refine hs.setTable fun q => ?_
      rw [ActionTable.isQueued_claim]
      split
      next he => exact he ▸ hqueued.symm
      · rfl
  have hseen : Leads AccountedUntil (Moved port true false (n :: counts))
      (emit (c.platform depth) (.workClaimed port)) fun _ s =>
      Accounted (Entry.claimedHandler? (.saw depth (.workClaimed port) s.channels)) (n :: counts) s :=
    leads_emit_moved (fun _ _ _ => isWaiting_removed) fun _ _ => id
  apply leads_runItem_of_claim hclaim hseen
  · intro handler
    apply (hcall ((n + 1) :: counts) (.handle .deferred handler port)).of_pre
    intro s hs
    obtain ⟨hs, hdeferred, hhandler⟩ := hs
    refine ⟨n :: counts, ?_, rfl⟩
    rw [Entry.claimedHandler?, if_pos hdeferred, hhandler] at hs
    exact hs
  · intro notice _
    apply Leads.of_pre (keeps_emit fun _ => rfl)
    intro s hs
    obtain ⟨hs, hstale⟩ := hs
    have hnone : Entry.claimedHandler? (.saw depth (.workClaimed port) s.channels) = none := by
      rw [Entry.claimedHandler?]
      split
      next hdeferred => rw [hstale hdeferred, Option.map_none]
      · rfl
    exact hnone ▸ hs

theorem leads_runItems (base : Nat) (word : Fin 16) (bits : List (Fin 64)) (ran : Nat) :
    Leads AccountedUntil (Accounted none ((base + ran) :: counts))
      (runItems (c.platform depth) word bits ran) fun total =>
        Accounted none ((base + total) :: counts) := by
  induction bits generalizing ran with
  | nil => exact .pure fun _ => id
  | cons bit bits ih =>
    obtain ⟨port, -, -, hcons⟩ := Guest.exists_runItems_cons (P := c.platform depth) word bit
    rw [hcons]
    apply (leads_runItem hcall port).bind
    intro one
    apply (ih _).of_pre
    intro s hs
    cases one <;> exact hs

theorem leads_runWord (word : Fin 16) : Leads AccountedUntil (Accounted none (n :: counts))
    (runWord (c.platform depth) word) fun more => Accounted none ((n + more) :: counts) := by
  have htake : Keeps AccountedUntil (Accounted none (n :: counts))
      (onTable fun t => t.takeWord word) := keeps_onTable fun _ _ => rfl
  apply Leads.bind htake
  intro flagged
  rw [runFlagged_eq]
  exact leads_runItems hcall n word flagged.toList 0

theorem leads_runWords (words : List (Fin 16)) (ran : Nat) :
    Leads AccountedUntil (Accounted none (ran :: counts)) (runWords (c.platform depth) words ran)
      fun total => Accounted none (total :: counts) := by
  induction words generalizing ran with
  | nil => exact .pure fun _ => id
  | cons word words ih =>
    apply Leads.bind Keeps.interruptsMasked
    intro masked
    split
    · exact Leads.bind (keeps_emit fun _ => rfl) fun _ => .pure fun _ => id
    · exact (leads_runWord hcall word).bind fun more => ih _

/-- The innermost operation under way has started some handlers. -/
def Under (counts : List Nat) (s : System History) : Prop := ∃ n, Accounted none (n :: counts) s

/-- Whatever keeps the account of one count keeps it of some count. -/
theorem parts : Operation.Parts (c.platform depth) AccountedUntil (Under counts) where
  stable := ⟨fun r hr hline hask => .exists fun _ => (stable hcall).call r hr hline hask,
    fun notice hn => .exists fun _ => keepsRemarks notice hn⟩
  line _ hline := .exists fun _ => keeps_call hcall
    (Request.deferred?_eq_none _ (Request.startsHandler_of_line hline))
  page := ⟨fun m => .exists fun _ => keeps_onPage m,
    fun _ => .exists fun _ => keeps_modifyChannels fun _ => rfl,
    fun _ _ => .exists fun _ => keeps_emit fun _ => rfl,
    fun _ _ => .exists fun _ => keeps_emit fun _ => rfl,
    fun _ => .exists fun _ => keeps_emit fun _ => rfl⟩
  setInterruptsMasked _ := .exists fun _ => keeps_modifyChannels fun _ => rfl
  setConnected _ := .exists fun _ => keeps_modifyChannels fun _ => rfl
  setSuspendPort _ := .exists fun _ => keeps_modifyChannels fun _ => rfl
  publish port action := .exists fun _ => keeps_publish port action
  dropAction port := .exists fun _ => keeps_dropAction port
  resetSlot port := .exists fun _ => keeps_resetSlot port
  enqueue port := .exists fun _ => keeps_enqueue port
  cancel port := .exists fun _ => keeps_cancel port
  takeWord _ := .exists fun _ => keeps_onTable fun _ _ => rfl
  setOutstanding _ := .exists fun _ => keeps_onTable fun _ _ => rfl
  acknowledge _ := .exists fun _ => keeps_onTable fun _ _ => rfl
  reader _ hop := .exists fun _ => TableOperation.keeps_moveReader
    (fun _ _ => keeps_modifySlot fun _ _ => rfl) (fun _ => keeps_emit fun _ => rfl)
    (fun _ => keeps_emit fun _ => rfl) hop
  consume word bit := .exists fun _ => keeps_consume hcall word bit
  runItem port := (Leads.exists fun _ => leads_runItem hcall port).of_post fun _ _ ⟨_, hs⟩ => ⟨_, hs⟩

theorem leads_run (op : Operation) : Leads AccountedUntil (Accounted none (0 :: counts))
    (op.run (c.platform depth)) fun result s => ∃ n, Accounted none (n :: counts) s ∧
      (op.runsDeferred = true → result = .ok (.number n)) := by
  cases hop : op.runsDeferred with
  | false =>
    have hrun : Keeps AccountedUntil (Under counts) (op.run (c.platform depth)) :=
      (parts hcall).run (fun _ ⟨_, hs⟩ => hs.accountedUntil) fun port _ =>
        .exists fun _ => keeps_countDelivery port
    exact Leads.weaken hrun (fun _ hs => ⟨0, hs⟩) fun _ _ ⟨n, hs⟩ => ⟨n, hs, nofun⟩
  | true =>
    cases op with
    | page | vcpu => cases hop
    | table op =>
      cases op with
      | runWordAt word =>
        have hword : Leads AccountedUntil (Accounted none (0 :: counts))
            (runWordAt (c.platform depth) word) fun total => Accounted none (total :: counts) := by
          apply leads_runWordAt _ fun _ hs => hs.accountedUntil
          intro word
          apply (leads_runWord hcall word).of_post
          intro more s hs
          rw [Nat.zero_add] at hs
          exact hs
        exact hword.bind fun total => .pure fun s hs => ⟨total, hs, fun _ => rfl⟩
      | _ => cases hop
    | channels op =>
      cases op with
      | deferredPass =>
        have hpass : Leads AccountedUntil (Accounted none (0 :: counts))
            (deferredPass (c.platform depth)) fun total => Accounted none (total :: counts) :=
          leads_runWords hcall (List.finRange 16) 0
        exact hpass.bind fun total => .pure fun s hs => ⟨total, hs, fun _ => rfl⟩
      | _ => cases hop

theorem keeps_logged (op : Operation) :
    Keeps AccountedUntil (Accounted none counts) (op.logged (c.platform depth) depth) := by
  have hbegan : Leads AccountedUntil (Accounted none counts) (record (.began depth op)) fun _ =>
      Accounted none (0 :: counts) := by
    apply Leads.record
    intro state before hs
    have hcons : Accounted none (History.started (.began depth op state :: before))
        ⟨state, .began depth op state :: before⟩ := hs.cons rfl rfl rfl trivial
    rw [History.started, hs.started] at hcons
    exact hcons
  apply Operation.keeps_logged hbegan (leads_run hcall op)
  intro result
  apply Leads.record
  intro state before hs
  obtain ⟨n, hs, hresult⟩ := hs
  have hcons : Accounted none (History.started (.ended depth op result state :: before))
      ⟨state, .ended depth op result state :: before⟩ :=
    hs.cons rfl rfl rfl fun hop => ⟨n, hresult hop, by rw [hs.started]; rfl⟩
  rw [History.started, hs.started] at hcons
  exact hcons

end Calls

theorem maintains (c : Client) (limit : Nat) :
    c.Maintains limit AccountedUntil (Accounted none) Ready fun _ _ => True where
  respond _ _ _ _ := Program.within_of_forall fun _ => trivial
  called _ _ r := leads_called r
  answered _ _ r reply := keeps_answered r reply
  logged _ _ hcall _ op _ := keeps_logged hcall op

theorem of_start (c : Client) (depth : Nat) {α : Type} (program : Program α)
    {page : SharedPage} {config : Config} {start : Channels}
    (hstart : Channels.ofPage page config = .ok start) :
    AccountedUntil (c.finish depth program start) := by
  obtain ⟨_, rfl⟩ := Channels.eq_of_ofPage hstart
  have hwithin : program.Within fun _ => True := Program.within_of_forall fun _ => trivial
  have hbegin : Accounted none [] ⟨⟨page, .powerOn, config, true, false, none⟩, []⟩ :=
    ⟨fun port => ActionTable.isQueued_powerOn port, .nil, rfl, rfl⟩
  exact (maintains c (depth + 1)).holds [] hwithin hbegin fun _ hs => hs.accountedUntil

end Accounted

/-- Deferred work is in order at an entry: every queueing is used up by one claim or one cancellation
or its item is queued still, a claim is of work that was queued after its last cancellation and the
last reset of the port, handlers are started one to a claim, and a run of deferred work returns the
number of those it started itself. -/
structure Entry.AccountsForWork (entry : Entry) (before : History) : Prop where
  balanced : ∀ port, List.countP (queuesWork port) (entry :: before) =
    List.countP (claimsWork port) (entry :: before) +
      List.countP (cancelsWork port) (entry :: before) + (entry.state.table.isQueued port).toNat
  claimsWaiting : ∀ port, entry.claimsWork port = true → before.isWaiting port = true
  startsClaimed : entry.startedDeferred? = before.head?.bind claimedHandler?
  returns : entry.ReturnsStarted before

theorem Entry.FollowsWork.waiting_of_claim {entry : Entry} {before : History}
    (h : entry.FollowsWork before) {port : Port} (hclaim : entry.claimsWork port = true) :
    before.isWaiting port = true := by
  unfold Entry.claimsWork at hclaim
  split at hclaim
  · exact of_decide_eq_true hclaim ▸ h
  · cases hclaim

/-- Deferred work is accounted for throughout and at the end, whatever operations are run and however
they are nested; in the end no start is owed to a claim. What is queued, cancelled and reset is what
the operations tell of. -/
theorem deferred_work_is_accounted_for (c : Client) (depth : Nat) {α : Type} (program : Program α)
    {page : SharedPage} {config : Config} {start : Channels}
    (hstart : Channels.ofPage page config = .ok start) :
    (c.history depth program start).Always Entry.AccountsForWork ∧
    (∀ port, (c.history depth program start).countP (Entry.queuesWork port) =
      (c.history depth program start).countP (Entry.claimsWork port) +
        (c.history depth program start).countP (Entry.cancelsWork port) +
        ((c.finish depth program start).channels.table.isQueued port).toNat) ∧
    (c.history depth program start).head?.bind Entry.claimedHandler? = none ∧
    (c.history depth program start).Always Entry.TellsDeeds := by
  obtain ⟨_, rfl⟩ := Channels.eq_of_ofPage hstart
  have hwithin : program.Within fun _ => True := Program.within_of_forall fun _ => trivial
  have hbegin : Accounted none [] ⟨⟨page, .powerOn, config, true, false, none⟩, []⟩ :=
    ⟨fun port => ActionTable.isQueued_powerOn port, .nil, rfl, rfl⟩
  obtain ⟨htold, halways, hnone⟩ := (Accounted.maintains c (depth + 1)).holds [] hwithin
    hbegin fun _ hs => hs.accountedUntil
  have hfollows {history : History} (h : history.Always Entry.TellsWork) :
      history.Always Entry.FollowsWork := h.mono fun _ _ h => h.follows
  refine ⟨halways.derive ?_, ?_, hnone, c.always_tellsDeeds depth program _⟩
  · intro entry before htells hbefore
    refine ⟨fun port => ?_, fun port => htells.follows.waiting_of_claim, htells.startsClaimed,
      htells.returns⟩
    rw [htells.told port]
    exact History.countP_queuesWork (hfollows (.cons htells hbefore)) port
  · intro port
    rw [htold port]
    exact History.countP_queuesWork (hfollows halways) port

/-- A client whose handlers queue their work again, run it, queue it once more and cancel it. -/
def Client.requeueing : Client :=
  granting 3 fun
    | .handle _ _ port => [.table (.enqueue port), .table (.runWordAt port.word),
        .channels .deferredPass, .table (.enqueue port), .channels (.unbind port)]
    | _ => []

theorem deferred_work_is_accounted_for_requeueing :
    Channels.ofPage .zero { callbackIrq := 5 } =
      .ok ⟨.zero, .powerOn, { callbackIrq := 5 }, true, false, none⟩ ∧
    (Client.requeueing.history 2
      (.sequence () [.channels .init, .channels (.bindDeferred ⟨7⟩ "service"), .page (.raise ⟨7⟩ 0),
        .channels .scannerPass, .channels .deferredPass, .channels .suspend])
      ⟨.zero, .powerOn, { callbackIrq := 5 }, true, false, none⟩).Always Entry.AccountsForWork := by
  have hstart : Channels.ofPage .zero { callbackIrq := 5 } =
      .ok ⟨.zero, .powerOn, { callbackIrq := 5 }, true, false, none⟩ := rfl
  exact ⟨hstart, (deferred_work_is_accounted_for Client.requeueing 2 _ hstart).1⟩

end EventChannel
