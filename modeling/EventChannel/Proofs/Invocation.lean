import EventChannel.Proofs.History
import EventChannel.Proofs.Keeping.Operation

namespace EventChannel

open Guest

/-- How deep the operation runs that makes an entry. -/
def Entry.depth : Entry → Nat
  | began depth _ _ | ended depth _ _ _ | saw depth _ _ | called depth _ _
  | answered depth _ _ _ => depth

/-- Since the history was `base`, operations of a depth have made certain entries themselves; the
others are of operations that ran inside theirs. -/
def History.Since (base : History) (depth : Nat) (own history : History) : Prop :=
  ∃ during, history = during ++ base ∧ during.filter (fun e => e.depth = depth) = own

namespace History.Since

variable {base own history : History} {depth : Nat} {entry : Entry}

theorem nil : Since base depth [] base := ⟨[], rfl, rfl⟩

theorem cons (h : Since base depth own history) (hdepth : entry.depth = depth) :
    Since base depth (entry :: own) (entry :: history) := by
  obtain ⟨during, rfl, rfl⟩ := h
  exact ⟨entry :: during, rfl, List.filter_cons_of_pos (decide_eq_true hdepth)⟩

theorem cons_of_ne (hdepth : entry.depth ≠ depth) (h : Since base depth own history) :
    Since base depth own (entry :: history) := by
  obtain ⟨during, rfl, rfl⟩ := h
  exact ⟨entry :: during, rfl, List.filter_cons_of_neg fun he => hdepth (of_decide_eq_true he)⟩

end History.Since

/-- An assertion about what surrounds the event channels. -/
def Surrounded {σ : Type} (K : σ → Prop) (s : System σ) : Prop := K s.outside

section Surrounded

variable {σ : Type} {P : Platform σ} {lost : System σ → Prop} {K : σ → Prop}

theorem Surrounded.pageIndifferent (hemit : ∀ e, Keeps lost (Surrounded K) (emit P e))
    (hlost : ∀ s, Surrounded K s → lost s) : PageIndifferent P lost (Surrounded K) where
  page m := by
    apply Leads.onPage
    intro c o hs
    split
    · exact hs
    · exact hlost _ hs
  modifyPage _ := ⟨fun _ => id⟩
  raised _ _ := hemit _
  discarded _ _ := hemit _
  pendingDropped _ := hemit _

theorem Surrounded.slotIndifferent (hemit : ∀ e, Keeps lost (Surrounded K) (emit P e)) :
    SlotIndifferent P lost (Surrounded K) where
  modifySlot _ := ⟨fun _ => id⟩
  cancel _ := keeps_cancel (Leads.onTable fun _ _ => id) fun _ => hemit _
  setOutstanding _ := Leads.onTable fun _ _ => id
  acknowledge _ := Leads.onTable fun _ _ => id
  note _ _ := hemit _
  actionDropped _ _ _ := hemit _
  published _ _ := hemit _
  slotReset _ := hemit _
  readerTaken _ := hemit _
  readerReleased _ := hemit _

/-- What an operation does to the surroundings it does by events and calls. -/
theorem Operation.keeps_surrounded (hemit : ∀ e, Keeps lost (Surrounded K) (emit P e))
    (hcall : ∀ r, Keeps lost (Surrounded K) (call P r)) (hlost : ∀ s, Surrounded K s → lost s)
    (op : Operation) : Keeps lost (Surrounded K) (op.run P) := by
  have htable {α : Type} (f : ActionTable → α × ActionTable) :
      Keeps lost (Surrounded K) (onTable f) := Leads.onTable fun _ _ => id
  have hwrite (f : Channels → Channels) : Keeps lost (Surrounded K) (modifyChannels f) :=
    ⟨fun _ => id⟩
  have hstable : Stable P lost (Surrounded K) := ⟨fun r _ _ _ => hcall r, fun n _ => hemit _⟩
  have hpages : PageIndifferent P lost (Surrounded K) := Surrounded.pageIndifferent hemit hlost
  have hslots : SlotIndifferent P lost (Surrounded K) := Surrounded.slotIndifferent hemit
  have henqueue (port : Port) : Keeps lost (Surrounded K) (Guest.enqueue P port) :=
    keeps_enqueue (htable _) fun _ => hemit _
  have hconsume (word bit : Fin 64) : Keeps lost (Surrounded K) (Guest.consume P word bit) := by
    apply keeps_consume hstable (hpages.page _) (hemit _)
    intro port
    exact keeps_deliver_of_starts hstable (hcall _) (fun _ => hcall _) (htable _)
      (fun _ _ => hemit _) (fun _ => htable _) henqueue
  have hitem (port : Port) : Keeps lost (Surrounded K) (Guest.runItem P port) :=
    leads_runItem hstable (htable _) (hemit _) fun _ => hcall _
  have hreader (op : TableOperation) (hop : op.movesReader = true) :
      Keeps lost (Surrounded K) (op.run P) :=
    TableOperation.keeps_moveReader (fun _ _ => hwrite _) (fun _ => hemit _) (fun _ => hemit _) hop
  have hparts : Operation.Parts P lost (Surrounded K) :=
    ⟨hstable, fun r _ => hcall r, hpages, fun _ => hwrite _, fun _ => hwrite _, fun _ => hwrite _,
      hslots.publish, hslots.dropAction, hslots.resetSlot, henqueue, hslots.cancel, fun _ => htable _,
      fun _ => htable _, fun _ => htable _, hreader, hconsume, hitem⟩
  exact hparts.run hlost fun _ _ => htable _

end Surrounded

variable {c : Client} {lost : System History → Prop} {base own : History} {depth : Nat}

/-- What entries of lower depths leave alone, operations leave alone that run inside others. -/
theorem Operation.keeps_below {K : History → Prop}
    (hK : ∀ entry before, entry.depth < depth → K before → K (entry :: before)) {n : Nat}
    (hn : n < depth) (hlost : ∀ s, Surrounded K s → lost s) (op : Operation) :
    Keeps lost (Surrounded K) (op.logged (c.platform n) n) := by
  -- The calls of an operation run operations a level down, so the induction is on the depth.
  induction n using Nat.strongRecOn generalizing op with
  | _ n ih =>
    have hrecord (entry : Channels → Entry) (he : ∀ state, (entry state).depth = n) :
        Keeps lost (Surrounded K) (record entry) :=
      Leads.record fun state _ hs => hK _ _ (he state ▸ hn) hs
    have hemit (e : Event) : Keeps lost (Surrounded K) (emit (c.platform n) e) :=
      Client.leads_emit fun state o hs => (hrecord (.saw n e) fun _ => rfl).run ⟨state, o⟩ hs
    have hcall (r : Request) : Keeps lost (Surrounded K) (call (c.platform n) r) := by
      apply Client.leads_call (hrecord (.called n r) fun _ => rfl) _ fun reply =>
        hrecord (.answered n r reply) fun _ => rfl
      rintro k rfl s -
      have hk := Nat.lt_succ_self k
      exact Program.keeps_run (fun op _ => ih k hk (Nat.lt_trans hk hn) op)
        (Program.within_of_forall fun _ => trivial)
    exact Operation.keeps_logged (hrecord (.began n op) fun _ => rfl)
      (Operation.keeps_surrounded hemit hcall hlost op)
      fun result => hrecord (.ended n op result) fun _ => rfl

/-- A call comes to its own two entries and to entries of lower depths in between. -/
theorem Client.leads_call_of_below {pre during post : History → Prop} {r : Request}
    (hcalled : ∀ state before, pre before → during (.called depth r state :: before))
    (hbelow : ∀ entry before, entry.depth < depth → during before → during (entry :: before))
    (hlost : ∀ s, Surrounded during s → lost s)
    (hanswered : ∀ reply state before, during before → post (.answered depth r reply state :: before)) :
    Leads lost (Surrounded pre) (call (c.platform depth) r) fun _ => Surrounded post := by
  have hbegin : Leads lost (Surrounded pre) (record (.called depth r)) fun _ => Surrounded during :=
    Leads.record hcalled
  have hend (reply : r.Reply) : Leads lost (Surrounded during) (record (.answered depth r reply))
      fun _ => Surrounded post := Leads.record (hanswered reply)
  apply Client.leads_call hbegin _ hend
  rintro n rfl s -
  have hn := Nat.lt_succ_self n
  exact Program.keeps_run (fun op _ => Operation.keeps_below hbelow hn hlost op)
    (Program.within_of_forall fun _ => trivial)

/-- An operation of a depth has just begun. -/
def History.Begun (depth : Nat) (op : Operation) (history : History) : Prop :=
  ∃ state before, history = .began depth op state :: before

/-- What holds at the end of every operation, once it has begun, holds of every operation that ends in
the history of a run. -/
theorem Client.always_of_ended {R : Entry → History → Prop}
    (hother : ∀ entry before, (∀ depth op result state, entry ≠ .ended depth op result state) →
      R entry before)
    (hrun : ∀ depth op, Leads (fun _ => True) (Surrounded (History.Begun depth op))
      (op.run (c.platform depth)) fun result s => ∀ state, R (.ended depth op result state) s.outside)
    (depth : Nat) {α : Type} (program : Program α) (start : Channels) :
    (c.history depth program start).Always R := by
  let J : System History → Prop := Surrounded fun history => history.Always R
  have hrecord (entry : Channels → Entry)
      (hentry : ∀ state depth op result at', entry state ≠ .ended depth op result at') :
      Keeps J J (record entry) :=
    Leads.record fun state before hs => .cons (hother (entry state) before (hentry state)) hs
  have hlogged (depth : Nat) (hcall : ∀ r, Keeps J J (call (c.platform depth) r)) (op : Operation) :
      Keeps J J (op.logged (c.platform depth) depth) := by
    have hbegan : Leads J J (record (.began depth op)) fun _ s =>
        J s ∧ Surrounded (History.Begun depth op) s :=
      Leads.and (hrecord _ fun _ _ _ _ _ => nofun) (Leads.record fun state before _ =>
        ⟨state, before, rfl⟩)
    have hemit (e : Event) : Keeps J J (emit (c.platform depth) e) :=
      Client.leads_emit fun state before hs =>
        (hrecord (.saw depth e) fun _ _ _ _ _ => nofun).run ⟨state, before⟩ hs
    have hkeep : Keeps J J (op.run (c.platform depth)) :=
      Operation.keeps_surrounded hemit hcall (fun _ => id) op
    have hend := (Leads.of_pre hkeep fun s (hs : J s ∧ Surrounded (History.Begun depth op) s) =>
      hs.1).and_of_any ((hrun depth op).of_pre fun _ hs => hs.2)
    apply Operation.keeps_logged hbegan hend
    intro result
    apply Leads.record
    intro state before hs
    exact .cons (hs.2 state) hs.1
  have hmaintains : c.Maintains (depth + 1) J (fun _ : Unit => J) (fun _ _ => J) fun _ _ => True :=
    ⟨fun _ _ _ _ => Program.within_of_forall fun _ => trivial,
      fun _ _ _ => hrecord _ fun _ _ _ _ _ => nofun, fun _ _ _ _ => hrecord _ fun _ _ _ _ _ => nofun,
      fun depth _ hcall _ op _ => hlogged depth (hcall ()) op⟩
  exact hmaintains.holds () (Program.within_of_forall fun _ => trivial) .nil fun _ => id

/-- An assertion about the state and about the entries that operations of a depth have made
themselves since the history was `base`. -/
def Own (base : History) (depth : Nat) (K : History → Channels → Prop) (s : System History) : Prop :=
  ∃ own, History.Since base depth own s.outside ∧ K own s.channels

section Own

variable {K M : History → Channels → Prop}

theorem Own.mono {s : System History} (h : Own base depth K s)
    (hK : ∀ own, K own s.channels → M own s.channels) : Own base depth M s := by
  obtain ⟨own, hsince, hown⟩ := h
  exact ⟨own, hsince, hK own hown⟩

theorem Own.leads_emit {e : Event}
    (h : ∀ own state, K own state → M (.saw depth e state :: own) state) :
    Leads lost (Own base depth K) (emit (c.platform depth) e) fun _ => Own base depth M := by
  apply Client.leads_emit
  rintro state o ⟨own, hsince, hK⟩
  exact ⟨_, hsince.cons rfl, h own state hK⟩

theorem Own.leads_onTable {α : Type} {f : ActionTable → α × ActionTable}
    (h : ∀ own state, K own state → M own { state with table := (f state.table).2 }) :
    Leads lost (Own base depth K) (onTable f) fun _ => Own base depth M := by
  apply Leads.onTable
  rintro state o ⟨own, hsince, hK⟩
  exact ⟨own, hsince, h own state hK⟩

/-- A call that does not return is the latest entry, and one that does is followed by its answer,
whatever was done meanwhile. -/
theorem Own.leads_call {L : History → Channels → Prop} {r : Request}
    (hlost : ∀ own state late, K own state → L (.called depth r state :: own) late)
    (h : ∀ own state reply late, K own state →
      M (.answered depth r reply late :: .called depth r state :: own) late) :
    Leads (Own base depth L) (Own base depth K) (call (c.platform depth) r) fun _ =>
      Own base depth M := by
  constructor
  rintro s ⟨own, hsince, hK⟩
  let waiting : History := .called depth r s.channels :: own
  have hwaiting (t : System History) (ht : Surrounded (History.Since base depth waiting) t) :
      Own base depth L t := ⟨waiting, ht, hlost own s.channels t.channels hK⟩
  have hcalled : Leads (Own base depth L) (fun t => t = s) (record (.called depth r)) fun _ =>
      Surrounded (History.Since base depth waiting) := by
    apply Leads.record
    rintro _ _ rfl
    exact hsince.cons rfl
  have hanswered (reply : r.Reply) :
      Leads (Own base depth L) (Surrounded (History.Since base depth waiting))
        (record (.answered depth r reply)) fun _ => Own base depth M := by
    apply Leads.record
    intro late o hs
    exact ⟨_, hs.cons rfl, h own s.channels reply late hK⟩
  have hcall : Leads (Own base depth L) (fun t => t = s) (call (c.platform depth) r) fun _ =>
      Own base depth M := by
    apply Client.leads_call hcalled _ hanswered
    rintro n rfl t -
    have hn := Nat.lt_succ_self n
    have hbelow (entry : Entry) (before : History) (h : entry.depth < n + 1) :
        History.Since base (n + 1) waiting before →
        History.Since base (n + 1) waiting (entry :: before) := History.Since.cons_of_ne (Nat.ne_of_lt h)
    exact Program.keeps_run (fun op _ => Operation.keeps_below hbelow hn hwaiting op)
      (Program.within_of_forall fun _ => trivial)
  exact hcall.run s rfl

end Own

end EventChannel
