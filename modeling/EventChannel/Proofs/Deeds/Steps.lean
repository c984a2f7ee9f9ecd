import EventChannel.Proofs.Deeds.Record

namespace EventChannel

open Guest

/-- A reading of the history follows what the operation of a depth does itself. -/
def Follows (depth : Nat) (K : List Deed → History → Prop) : Prop :=
  ∀ deeds e state before, K deeds before →
    K (deeds ++ e.deed?.toList) (.saw depth e state :: before)

/-- After certain deeds more was done, of which a certain statement is true. -/
def Done (K : List Deed → History → Prop) (deeds : List Deed) (fact : List Deed → Prop)
    (s : System History) : Prop :=
  ∃ more, Surrounded (K (deeds ++ more)) s ∧ fact more

namespace Done

variable {K : List Deed → History → Prop} {deeds : List Deed} {fact fact' : List Deed → Prop}
  {s : System History}

theorem of_nil (hs : Surrounded (K deeds) s) (h : fact []) : Done K deeds fact s :=
  ⟨[], (List.append_nil deeds).symm ▸ hs, h⟩

theorem mono (hs : Done K deeds fact s) (h : ∀ more, fact more → fact' more) :
    Done K deeds fact' s := by
  obtain ⟨more, hs, hmore⟩ := hs
  exact ⟨more, hs, h more hmore⟩

theorem keeps {α : Type} {m : Guest History α} {lost : System History → Prop}
    (h : ∀ more, Keeps lost (Surrounded (K (deeds ++ more))) m) : Keeps lost (Done K deeds fact) m :=
  Keeps.exists fun more => Keeps.and_fact (h more)

theorem of_append {first : List Deed} (hs : Done K (deeds ++ first) fact s)
    (h : ∀ more, fact more → fact' (first ++ more)) : Done K deeds fact' s := by
  obtain ⟨more, hs, hmore⟩ := hs
  rw [List.append_assoc] at hs
  exact ⟨first ++ more, hs, h more hmore⟩

end Done

variable {c : Client} {depth : Nat} {K : List Deed → History → Prop} {α : Type} {port : Port}
  {action : Action} {deeds : List Deed}

/-- Calls leave what the operation that makes them has done. -/
def KeptByCalls (c : Client) (depth : Nat) (K : List Deed → History → Prop) : Prop :=
  ∀ deeds r, Keeps (fun _ => True) (Surrounded (K deeds)) (call (c.platform depth) r)

namespace Follows

theorem keeps_modifyChannels (f : Channels → Channels) :
    Keeps (fun _ => True) (Surrounded (K deeds)) (modifyChannels f) := ⟨fun _ => id⟩

theorem keeps_modifyPage (f : SharedPage → SharedPage) :
    Keeps (fun _ => True) (Surrounded (K deeds)) (modifyPage f) := ⟨fun _ => id⟩

theorem keeps_modifyTable (f : ActionTable → ActionTable) :
    Keeps (fun _ => True) (Surrounded (K deeds)) (modifyTable f) := Leads.modifyTable fun _ _ => id

theorem keeps_onTable (f : ActionTable → α × ActionTable) :
    Keeps (fun _ => True) (Surrounded (K deeds)) (onTable f) := Leads.onTable fun _ _ => id

variable (h : Follows depth K)

include h

theorem leads_emit (e : Event) : Leads (fun _ => True) (Surrounded (K deeds))
    (emit (c.platform depth) e) fun _ => Surrounded (K (deeds ++ e.deed?.toList)) :=
  Client.leads_emit fun state before hs => h deeds e state before hs

theorem keeps_emit {e : Event} (he : e.deed? = none) :
    Keeps (fun _ => True) (Surrounded (K deeds)) (emit (c.platform depth) e) := by
  apply (h.leads_emit e).of_post
  intro _ s hs
  rw [he, Option.toList_none, List.append_nil] at hs
  exact hs

theorem keepsRemarks :
    KeepsRemarks (c.platform depth) (fun _ => True) (Surrounded (K deeds)) := by
  intro n hn
  cases n with
  | actionDropped => cases hn
  | _ => exact h.keeps_emit rfl

theorem pageIndifferent :
    PageIndifferent (c.platform depth) (fun _ => True) (Surrounded (K deeds)) where
  page m := by
    apply Leads.onPage
    intro state o hs
    split
    · exact hs
    · trivial
  modifyPage := keeps_modifyPage
  raised _ _ := h.keeps_emit rfl
  discarded _ _ := h.keeps_emit rfl
  pendingDropped _ := h.keeps_emit rfl

theorem leads_enqueue : Leads (fun _ => True) (Surrounded (K deeds))
    (enqueue (c.platform depth) port) fun fresh =>
      Surrounded (K (deeds ++ if fresh then [.queued port] else [])) := by
  apply Leads.bind (keeps_onTable _)
  intro fresh
  cases fresh with
  | false =>
    apply Leads.pure
    intro s hs
    rw [if_neg Bool.false_ne_true, List.append_nil]
    exact hs
  | true =>
    apply Leads.bind Keeps.table
    intro t
    exact (h.leads_emit _).bind fun _ => .pure fun _ => id

theorem leads_cancel : Leads (fun _ => True) (Surrounded (K deeds))
    (cancel (c.platform depth) port) fun found =>
      Surrounded (K (deeds ++ [.cancelled port found])) := by
  apply Leads.bind (keeps_onTable _)
  intro found
  exact (h.leads_emit _).bind fun _ => .pure fun _ => id

theorem leads_cancelEach (ports : List Port) : Leads (fun _ => True) (Surrounded (K deeds))
    (cancelEach (c.platform depth) ports) fun count => Done K deeds (Cancels ports count) := by
  induction ports generalizing deeds with
  | nil => exact .pure fun s hs => .of_nil hs .done
  | cons port ports ih =>
    apply h.leads_cancel.bind
    intro found
    apply ih.bind
    intro count
    exact .pure fun s hs => hs.of_append fun more hmore => hmore.next found

theorem leads_cancelAll : Leads (fun _ => True) (Surrounded (K deeds))
    (cancelAll (c.platform depth)) fun count => Done K deeds (Cancels Port.all count) :=
  h.leads_cancelEach _

theorem keeps_replaceAction : Keeps (fun _ => True) (Surrounded (K deeds))
    (replaceAction (c.platform depth) port action) :=
  Guest.keeps_replaceAction h.keepsRemarks (keeps_modifyTable _)

theorem leads_publish : Leads (fun _ => True) (Surrounded (K deeds))
    (publish (c.platform depth) port action) fun result =>
      Surrounded (K (deeds ++ (Deed.bound port action).unlessRefused result)) := by
  have hrestore (former : Kind) : Leads (fun _ => True) (Surrounded (K deeds))
      (restoreKind port former) fun _ => Surrounded (K (deeds ++ [])) := by
    rw [List.append_nil]
    exact keeps_restoreKind (keeps_modifyTable _)
  exact leads_publish_of_replaceAction (fun _ => Surrounded (K deeds))
    (fun _ => Leads.of_pre (keeps_modifyTable _) fun _ hs => hs.1) (fun _ => h.keepsRemarks _ rfl)
    (fun _ => h.keeps_replaceAction) (fun former _ => hrestore former) (fun _ _ => keeps_modifyTable _)
    fun _ => h.leads_emit _

theorem leads_attach : Leads (fun _ => True) (Surrounded (K deeds))
    (attach (c.platform depth) port action) fun result =>
      Surrounded (K (deeds ++ (Deed.bound port action).unlessRefused result)) :=
  leads_attach_of_publish h.leads_publish (fun _ _ => id)
    ((h.pageIndifferent (c := c)).unmask port) (h.keepsRemarks _ rfl)

theorem leads_dropAction : Leads (fun _ => True) (Surrounded (K deeds))
    (dropAction (c.platform depth) port) fun result =>
      Surrounded (K (deeds ++ (Deed.dropped port).unlessRefused result)) := by
  apply leads_dropAction_of_replaceAction h.keeps_replaceAction
  · intro e s hs
    exact (List.append_nil deeds).symm ▸ hs
  · exact fun _ _ => h.leads_emit _

theorem leads_unbind : Leads (fun _ => True) (Surrounded (K deeds))
    (unbind (c.platform depth) port) fun result => Done K deeds fun more =>
      ∃ found, more = (Deed.dropped port).unlessRefused result ++ [.cancelled port found] := by
  have hmask : Keeps (fun _ => True) (Surrounded (K deeds)) (Guest.mask port) :=
    ((h.pageIndifferent (c := c)).page _).discard
  apply Leads.bind hmask
  intro _
  apply h.leads_dropAction.bind
  intro result
  apply h.leads_cancel.bind
  intro found
  apply Leads.guarded (fun _ => h.keepsRemarks _ rfl) (fun _ _ => id)
  intro _
  apply Leads.pure
  intro s hs
  rw [List.append_assoc] at hs
  exact ⟨_, hs, found, rfl⟩

theorem leads_resetSlot : Leads (fun _ => True) (Surrounded (K deeds))
    (resetSlot (c.platform depth) port) fun result => Done K deeds (Resets [port] result) := by
  let told : System History → Prop :=
    Done K deeds fun more => ∃ found, more = [.cancelled port found, .reset port]
  have hcancel : Leads (fun _ => True) (Surrounded (K deeds)) (cancel (c.platform depth) port)
      fun _ s => ∃ found, Surrounded (K (deeds ++ [.cancelled port found])) s :=
    h.leads_cancel.of_post fun found _ hs => ⟨found, hs⟩
  have hseen : Leads (fun _ => True)
      (fun s => ∃ found, Surrounded (K (deeds ++ [.cancelled port found])) s)
      (emit (c.platform depth) (.slotReset port)) fun _ => told := by
    apply Leads.of_exists
    intro found
    apply (h.leads_emit _).of_post
    intro _ s hs
    rw [List.append_assoc] at hs
    exact ⟨_, hs, found, rfl⟩
  have htold : Keeps (fun _ => True) told (replaceAction (c.platform depth) port .empty) :=
    Done.keeps fun _ => h.keeps_replaceAction
  apply leads_resetSlot_of_replaceAction (keeps_modifyTable _) hcancel
    (Keeps.exists fun _ => keeps_modifyTable _) (Keeps.exists fun _ => keeps_onTable _) hseen
  apply (Leads.and htold leads_replaceAction_refusal).of_post
  rintro replaced s ⟨hs, hbusy⟩
  apply hs.mono
  rintro _ ⟨found, rfl⟩
  cases replaced with
  | error e =>
    obtain rfl := hbusy e rfl
    exact .refused found
  | ok old => exact .next found .done

theorem leads_resetSlots (ports : List Port) : Leads (fun _ => True) (Surrounded (K deeds))
    (resetSlots (c.platform depth) ports) fun result => Done K deeds (Resets ports result) := by
  induction ports generalizing deeds with
  | nil => exact .pure fun s hs => .of_nil hs .done
  | cons port ports ih =>
    apply h.leads_resetSlot.bind
    intro result
    apply Leads.of_exists
    intro first
    apply Leads.assume
    intro hfirst
    cases result with
    | error e => exact .pure fun s hs => ⟨first, hs, hfirst.stop⟩
    | ok _ => exact ih.of_post fun _ _ hs => hs.of_append fun _ => hfirst.cons

theorem leads_resetTable : Leads (fun _ => True) (Surrounded (K deeds))
    (resetTable (c.platform depth)) fun result => Done K deeds (Resets Port.all result) :=
  h.leads_resetSlots _

theorem leads_broadcastTo (ports : List Port) : Leads (fun _ => True) (Surrounded (K deeds))
    (broadcastTo (c.platform depth) ports) fun counts => Done K deeds fun more =>
      ∃ fresh : List Port, more = fresh.map .queued ∧ counts.2 = fresh.length := by
  induction ports generalizing deeds with
  | nil => exact .pure fun s hs => .of_nil hs ⟨[], rfl, rfl⟩
  | cons port ports ih =>
    apply Leads.bind Keeps.table
    intro t
    split
    · have hrenew : Leads (fun _ => True) (Surrounded (K deeds)) (renew (c.platform depth) port)
          fun fresh => Surrounded (K (deeds ++ if fresh then [.queued port] else [])) :=
        Leads.bind (Keeps.discard (keeps_onTable _)) fun _ => h.leads_enqueue
      apply hrenew.bind
      intro queued
      apply ih.bind
      rintro ⟨marked, count⟩
      apply Leads.pure
      intro s hs
      apply hs.of_append
      rintro _ ⟨fresh, rfl, rfl⟩
      cases queued with
      | false => exact ⟨fresh, rfl, rfl⟩
      | true => exact ⟨port :: fresh, rfl, rfl⟩
    · exact ih

section Calls

variable (hcall : KeptByCalls c depth K)

include hcall

theorem stable : Stable (c.platform depth) (fun _ => True) (Surrounded (K deeds)) :=
  ⟨fun r _ _ _ => hcall deeds r, h.keepsRemarks⟩

theorem keeps_runWord (word : Fin 16) :
    Keeps (fun _ => True) (Surrounded (K deeds)) (runWord (c.platform depth) word) :=
  Guest.keeps_runWord (fun _ => keeps_onTable _)
    (fun _ => leads_runItem (h.stable hcall) (keeps_onTable _) (h.keeps_emit rfl) fun _ => hcall _ _)
    word

/-- A pass binds nothing itself, and what work it queues it queues port by port. -/
theorem leads_scannerPass : Leads (fun _ => True) (Surrounded (K deeds))
    (scannerPass (c.platform depth)) fun _ => Done K deeds fun more =>
      ∃ fresh : List Port, more = fresh.map .queued := by
  let J : System History → Prop := Done K deeds fun more => ∃ fresh : List Port, more = fresh.map .queued
  have hcalls (r : Request) : Keeps (fun _ => True) J (call (c.platform depth) r) :=
    Done.keeps fun _ => hcall _ r
  have hstable : Stable (c.platform depth) (fun _ => True) J :=
    ⟨fun r _ _ _ => hcalls r, fun n hn => Done.keeps fun _ => h.keepsRemarks n hn⟩
  have htable {α : Type} (f : ActionTable → α × ActionTable) : Keeps (fun _ => True) J (onTable f) :=
    Done.keeps fun _ => keeps_onTable f
  have hpage {α : Type} (m : PageM α) : Keeps (fun _ => True) J (onPage m) :=
    Done.keeps fun _ => (h.pageIndifferent (c := c)).page m
  have henqueue (port : Port) : Keeps (fun _ => True) J (enqueue (c.platform depth) port) := by
    apply Leads.of_exists
    intro more
    apply Leads.assume
    rintro ⟨earlier, rfl⟩
    apply h.leads_enqueue.of_post
    intro fresh s hs
    rw [List.append_assoc] at hs
    refine ⟨_, hs, earlier ++ if fresh then [port] else [], ?_⟩
    rw [List.map_append]
    cases fresh <;> rfl
  have hdeliver (port : Port) : Keeps (fun _ => True) J (deliver (c.platform depth) port) :=
    keeps_deliver_of_starts hstable (hcalls _) (fun _ => hcalls _) (htable _)
      (fun _ _ => Done.keeps fun _ => h.keeps_emit rfl) (fun _ => htable _) henqueue
  have hconsume (word bit : Fin 64) : Keeps (fun _ => True) J (consume (c.platform depth) word bit) :=
    keeps_consume hstable (hpage _) (Done.keeps fun _ => h.keeps_emit rfl) hdeliver
  have hpass : Keeps (fun _ => True) J (scannerPass (c.platform depth)) :=
    keeps_scannerPass hstable (fun _ => hpage _) (fun _ => hpage _) fun word bit =>
      Leads.of_pre (hconsume word bit) fun _ hs => hs.1
  exact Leads.of_pre hpass fun _ hs => .of_nil hs ⟨[], rfl⟩

theorem leads_emptyQueue : Leads (fun _ => True) (Surrounded (K deeds))
    (emptyQueue (c.platform depth)) fun _ => Done K deeds Drains := by
  apply h.leads_cancelAll.bind
  intro n
  apply Leads.of_exists
  intro first
  apply Leads.assume
  intro hfirst
  apply Leads.bind (hcall _ .flushDeferred)
  intro _
  apply h.leads_cancelAll.bind
  intro m
  have hnote : Keeps (fun _ => True) (Done K (deeds ++ first) (Cancels Port.all m))
      (note (c.platform depth) (.deferredWorkDrained (n + m))) :=
    Done.keeps fun _ => h.keepsRemarks _ rfl
  apply Leads.bind (Done.keeps fun _ => keeps_modifyChannels _)
  intro _
  apply hnote.of_post
  intro _ s hs
  exact hs.of_append fun second hsecond => ⟨n, m, first, second, hfirst, hsecond, rfl⟩

theorem leads_reserveSuspendPort : Leads (fun _ => True) (Surrounded (K deeds))
    (reserveSuspendPort (c.platform depth)) fun result => Surrounded (K (deeds ++
      match result with
      | .error _ => []
      | .ok port => [.bound port .suspend])) := by
  have hallocate (op : Hypercall) : Keeps (fun _ => True) (Surrounded (K deeds))
      (allocate (c.platform depth) op) := keeps_allocate (h.stable hcall) op
  have hback (s : System History) (hs : Surrounded (K deeds) s) : Surrounded (K (deeds ++ [])) s :=
    (List.append_nil deeds).symm ▸ hs
  exact Guest.leads_reserveSuspendPort (fun _ => Leads.of_pre (hallocate _) fun _ hs => hs.1)
    (fun _ => hback) (fun _ => h.leads_attach) (fun _ _ => id)
    fun port _ => keeps_giveBack (h.stable hcall) port.number

theorem leads_init : Leads (fun _ => True) (Surrounded (K deeds)) (init (c.platform depth))
    fun result => Done K deeds (Initialises result) := by
  let calm : System History → Prop := Done K deeds (Resets Port.all (.ok ()))
  have hquiesce : Keeps (fun _ => True) (Surrounded (K deeds)) quiesce :=
    keeps_quiesce (keeps_modifyChannels _) (keeps_modifyPage _)
  have hrequiesce (e : ChannelError) :
      Keeps (fun _ => True) (Done K deeds (Initialises (.error e))) quiesce :=
    keeps_quiesce (Done.keeps fun _ => keeps_modifyChannels _) (Done.keeps fun _ => keeps_modifyPage _)
  have hcalls (config : Config) : Leads (fun _ => True) (fun s => calm s ∧ s.channels.config = config)
      (call (c.platform depth) (.setParam .callbackIrq config.callbackIrq.toUInt64))
      fun _ : Except Errno Unit => calm :=
    Leads.of_pre (Done.keeps fun _ => hcall _ _) fun _ hs => hs.1
  have hreserve : Leads (fun _ => True) calm (reserveSuspendPort (c.platform depth))
      fun result => Done K deeds (Initialises result) := by
    apply Leads.of_exists
    intro more
    apply Leads.assume
    intro hmore
    apply (h.leads_reserveSuspendPort hcall).of_post
    intro result s hs
    rw [List.append_assoc] at hs
    refine ⟨_, hs, ?_⟩
    cases result with
    | error e => exact (List.append_nil more).symm ▸ .refused e hmore
    | ok port => exact .done port hmore
  exact leads_init_of_steps hquiesce (keeps_modifyChannels _) (keeps_modifyPage _) h.leads_resetTable
    (fun _ _ hs => hs.mono fun _ hmore => .busy hmore)
    (Done.keeps fun _ => (h.pageIndifferent (c := c)).discardPending) hcalls
    (fun _ _ hs => hs.mono fun _ hmore => .refused _ hmore) (Done.keeps fun _ => keeps_modifyPage _)
    (Done.keeps fun _ => keeps_modifyChannels _) hreserve hrequiesce
    (fun _ => Done.keeps fun _ => keeps_modifyChannels _)
    fun _ _ => Done.keeps fun _ => h.keepsRemarks _ rfl

end Calls

end Follows

end EventChannel
