import EventChannel.Proofs.Keeping.Operation
import EventChannel.Proofs.WorkAccount.Ledger

namespace EventChannel

open Guest

/-- The queued items are those that wait by the history, of which so far every entry is accounted for;
a start may be owed to the latest claim, and the operations under way have started so many handlers. -/
structure Accounted (owed? : Option (HandlerName × Port)) (counts : List Nat)
    (s : System History) : Prop where
  told : WorkTold s.channels.table s.outside
  always : s.outside.Always Entry.TellsWork
  owed : s.outside.head?.bind Entry.claimedHandler? = owed?
  started : s.outside.started = counts

/-- What is left of it by a fault, which comes when no start is owed. -/
def AccountedUntil (s : System History) : Prop :=
  WorkTold s.channels.table s.outside ∧ s.outside.Always Entry.TellsWork ∧
    s.outside.head?.bind Entry.claimedHandler? = none

theorem Entry.followsWork_of_unchanged {entry : Entry} (h : entry.changesWork = false)
    (before : History) : entry.FollowsWork before := by
  cases entry with
  | saw _ event _ =>
    cases event with
    | workQueued | workClaimed | workCancelled | slotReset => cases h
    | _ => trivial
  | _ => trivial

theorem Entry.claimedHandler?_of_unchanged {entry : Entry} (h : entry.changesWork = false) :
    entry.claimedHandler? = none := by
  cases entry with
  | saw _ event _ =>
    cases event with
    | workClaimed => cases h
    | _ => rfl
  | _ => rfl

namespace Accounted

variable {c : Client} {depth : Nat} {α : Type} {port : Port} {counts : List Nat}
  {owed? : Option (HandlerName × Port)}

theorem accountedUntil {s : System History} (h : Accounted none counts s) : AccountedUntil s :=
  ⟨h.told, h.always, h.owed⟩

theorem cons {entry : Entry} {state : Channels} {before : History}
    (h : Accounted owed? counts ⟨state, before⟩) (hstate : entry.state = state)
    (hentry : entry.changesWork = false) (hstarts : entry.startedDeferred? = owed?)
    (hreturns : entry.ReturnsStarted before) :
    Accounted none (History.started (entry :: before)) ⟨state, entry :: before⟩ := by
  have htold : WorkTold state.table (entry :: before) := by
    intro port
    rw [History.isWaiting_cons hentry]
    exact h.told port
  have htells : entry.TellsWork before :=
    ⟨hstate ▸ htold, Entry.followsWork_of_unchanged hentry before, hstarts.trans h.owed.symm, hreturns⟩
  exact ⟨htold, .cons htells h.always, Entry.claimedHandler?_of_unchanged hentry, rfl⟩

theorem keeps_emit {e : Event} (hentry : ∀ state, (Entry.saw depth e state).changesWork = false) :
    Keeps AccountedUntil (Accounted none counts) (emit (c.platform depth) e) := by
  apply Client.leads_emit
  intro state before hs
  have hcons := hs.cons rfl (hentry state) rfl trivial
  exact hs.started ▸ hcons

theorem keepsRemarks : KeepsRemarks (c.platform depth) AccountedUntil (Accounted none counts) :=
  fun _ _ => keeps_emit fun _ => rfl

theorem setTable {state : Channels} {history : History} {t : ActionTable}
    (hs : Accounted owed? counts ⟨state, history⟩) (h : ∀ q, t.isQueued q = state.table.isQueued q) :
    Accounted owed? counts ⟨{ state with table := t }, history⟩ :=
  ⟨fun q => (h q).trans (hs.told q), hs.always, hs.owed, hs.started⟩

theorem keeps_modifySlot {f : ActionTable → Slot → Slot} (h : ∀ t s, (f t s).work = s.work) :
    Keeps AccountedUntil (Accounted owed? counts)
      (modifyTable fun t => t.modifySlot port (f t)) :=
  Leads.modifyTable fun state _ hs => hs.setTable fun q =>
    state.table.isQueued_modifySlot port q (h state.table)

theorem keeps_onTable {f : ActionTable → α × ActionTable}
    (h : ∀ t q, (f t).2.isQueued q = t.isQueued q) :
    Keeps AccountedUntil (Accounted owed? counts) (onTable f) :=
  Leads.onTable fun state _ hs => hs.setTable (h state.table)

theorem keeps_countDelivery (port : Port) : Keeps AccountedUntil (Accounted owed? counts)
    (onTable fun t => t.countDelivery port) :=
  keeps_onTable fun t q => t.isQueued_modifySlot port q fun _ => rfl

theorem keeps_onPage (m : PageM α) : Keeps AccountedUntil (Accounted none counts) (onPage m) := by
  apply Leads.onPage
  intro state history hs
  split
  · exact ⟨hs.told, hs.always, hs.owed, hs.started⟩
  · exact hs.accountedUntil

theorem keeps_modifyChannels {f : Channels → Channels}
    (h : ∀ state, (f state).table = state.table) :
    Keeps AccountedUntil (Accounted owed? counts) (modifyChannels f) := by
  constructor
  rintro ⟨state, history⟩ hs
  have htold : WorkTold (f state).table history := (h state).symm ▸ hs.told
  exact ⟨htold, hs.always, hs.owed, hs.started⟩

/-- The work of a port is already as the next entry will have it. -/
structure Moved (port : Port) (old new : Bool) (counts : List Nat) (s : System History) : Prop where
  always : s.outside.Always Entry.TellsWork
  owed : s.outside.head?.bind Entry.claimedHandler? = none
  started : s.outside.started = counts
  was : s.outside.isWaiting port = old
  is : s.channels.table.isQueued port = new
  told : ∀ q, port ≠ q → s.channels.table.isQueued q = s.outside.isWaiting q

/-- The entry that tells of a move restores the account, and may owe a start. -/
theorem leads_emit_moved {e : Event} {old new : Bool}
    (hwaiting : ∀ state (before : History) q, History.isWaiting q (.saw depth e state :: before) =
      if port = q then new else before.isWaiting q)
    (hfollows : ∀ state (before : History), before.isWaiting port = old →
      (Entry.saw depth e state).FollowsWork before) :
    Leads AccountedUntil (Moved port old new counts) (emit (c.platform depth) e) fun _ s =>
      Accounted (Entry.claimedHandler? (.saw depth e s.channels)) counts s := by
  apply Client.leads_emit
  intro state before hs
  have htold : WorkTold state.table (.saw depth e state :: before) := by
    intro q
    rw [hwaiting]
    split
    next he => exact he ▸ hs.is
    next hne => exact hs.told q hne
  have htells : (Entry.saw depth e state).TellsWork before :=
    ⟨htold, hfollows state before hs.was, hs.owed.symm, trivial⟩
  exact ⟨htold, .cons htells hs.always, rfl, hs.started⟩

theorem moved {t : ActionTable} {new : Bool} {state : Channels} {history : History}
    (hs : Accounted none counts ⟨state, history⟩)
    (h : ∀ q, t.isQueued q = if port = q then new else state.table.isQueued q) :
    Moved port (state.table.isQueued port) new counts ⟨{ state with table := t }, history⟩ where
  always := hs.always
  owed := hs.owed
  started := hs.started
  was := (hs.told port).symm
  is := (h port).trans (if_pos rfl)
  told q hne := ((h q).trans (if_neg hne)).trans (hs.told q)

theorem isWaiting_removed {port q : Port} {waiting : Bool} :
    (decide (port ≠ q) && waiting) = if port = q then false else waiting := by
  by_cases he : port = q <;> simp [he]

theorem keeps_enqueue (port : Port) :
    Keeps AccountedUntil (Accounted none counts) (enqueue (c.platform depth) port) := by
  have hwork : Leads AccountedUntil (Accounted none counts) (onTable fun t => t.enqueue port)
      fun fresh s => if fresh then Moved port false true counts s else Accounted none counts s := by
    apply Leads.onTable
    intro state history hs
    have hmoved := hs.moved fun q => state.table.isQueued_enqueue port q
    rw [ActionTable.enqueue_fst]
    cases hqueued : state.table.isQueued port with
    | true =>
      refine hs.setTable fun q => ?_
      rw [ActionTable.isQueued_enqueue]
      split
      next he => exact he ▸ hqueued.symm
      · rfl
    | false =>
      rw [hqueued] at hmoved
      exact hmoved
  apply hwork.bind
  intro fresh
  cases fresh with
  | false => exact .pure fun _ => id
  | true =>
    have hqueued (kind : Kind) : Leads AccountedUntil (Moved port false true counts)
        (emit (c.platform depth) (.workQueued port kind)) fun _ => Accounted none counts := by
      apply leads_emit_moved
      · intro state before q
        rw [History.isWaiting]
        by_cases he : port = q <;> simp [he]
      · exact fun _ _ => id
    exact Leads.bind Keeps.table fun _ => (hqueued _).bind fun _ => .pure fun _ => id

theorem leads_cancel (port : Port) : Leads AccountedUntil (Accounted none counts)
    (cancel (c.platform depth) port) fun _ s =>
      Accounted none counts s ∧ s.channels.table.isQueued port = false := by
  have hwork : Leads AccountedUntil (Accounted none counts) (onTable fun t => t.cancel port)
      fun found => Moved port found false counts :=
    Leads.onTable fun state _ hs => hs.moved fun q => state.table.isQueued_cancel port q
  have hseen (found : Bool) : Leads AccountedUntil (Moved port found false counts)
      (emit (c.platform depth) (.workCancelled port found)) fun _ s =>
      Accounted none counts s ∧ s.channels.table.isQueued port = false := by
    apply Leads.and
    · exact leads_emit_moved (fun _ _ _ => isWaiting_removed) fun _ _ => id
    · exact Client.leads_emit fun _ _ hs => hs.is
  exact hwork.bind fun found => (hseen found).bind fun _ => .pure fun _ => id

theorem keeps_cancel (port : Port) :
    Keeps AccountedUntil (Accounted none counts) (cancel (c.platform depth) port) :=
  (leads_cancel port).of_post fun _ _ hs => hs.1

/-- The work of a port has been cancelled by the time its reset is told. -/
theorem keeps_resetSlot (port : Port) :
    Keeps AccountedUntil (Accounted none counts) (resetSlot (c.platform depth) port) := by
  have hcount : Keeps AccountedUntil (fun s => s.channels.table.isQueued port = false)
      (modifyTable fun t => t.setDeliveries port 0) := by
    apply Leads.modifyTable
    intro state _ hs
    have he : (state.table.setDeliveries port 0).isQueued port = state.table.isQueued port :=
      state.table.isQueued_modifySlot port port fun _ => rfl
    exact he.trans hs
  have hack : Keeps AccountedUntil (fun s => s.channels.table.isQueued port = false)
      (onTable fun t => t.acknowledge port) := Leads.onTable fun _ _ hs => hs
  have hseen : Leads AccountedUntil
      (fun s => Accounted none counts s ∧ s.channels.table.isQueued port = false)
      (emit (c.platform depth) (.slotReset port)) fun _ => Accounted none counts := by
    have hmoved : Leads AccountedUntil (Moved port false false counts)
        (emit (c.platform depth) (.slotReset port)) fun _ => Accounted none counts :=
      leads_emit_moved (fun _ _ _ => isWaiting_removed) fun _ _ => id
    apply hmoved.of_pre
    intro s hs
    obtain ⟨hs, hempty⟩ := hs
    exact ⟨hs.always, hs.owed, hs.started, hempty ▸ (hs.told port).symm, hempty, fun q _ => hs.told q⟩
  exact leads_resetSlot (keeps_modifySlot fun _ _ => rfl) (leads_cancel port)
    (Keeps.and (keeps_modifySlot fun _ _ => rfl) hcount)
    (Keeps.and (keeps_onTable fun _ _ => rfl) hack) hseen keepsRemarks
    (keeps_modifySlot fun _ _ => rfl)

theorem keeps_publish (port : Port) (action : Action) :
    Keeps AccountedUntil (Accounted none counts) (publish (c.platform depth) port action) :=
  Guest.keeps_publish keepsRemarks (fun _ => keeps_modifySlot fun _ _ => rfl)
    (keeps_modifySlot fun _ _ => rfl) (keeps_emit fun _ => rfl)

theorem keeps_dropAction (port : Port) :
    Keeps AccountedUntil (Accounted none counts) (dropAction (c.platform depth) port) :=
  Guest.keeps_dropAction keepsRemarks (keeps_modifySlot fun _ _ => rfl) fun _ _ =>
    keeps_emit fun _ => rfl

end Accounted

end EventChannel
