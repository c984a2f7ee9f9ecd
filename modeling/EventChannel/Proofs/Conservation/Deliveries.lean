import EventChannel.Proofs.ActionTable
import EventChannel.Proofs.History
import EventChannel.Proofs.Keeping.Operation

namespace EventChannel

open Guest

namespace History

/-- How often a port was dispatched since it was last reset. -/
def dispatches (port : Port) : History → Nat
  | [] => 0
  | .saw _ (.noticed (.delivering p _ _)) _ :: before =>
    if p = port then dispatches port before + 1 else dispatches port before
  | .saw _ (.slotReset p) _ :: before => if p = port then 0 else dispatches port before
  | _ :: before => dispatches port before

/-- Whether a delivery on a port was counted that did not take place. -/
def CountedDirectly (port : Port) (history : History) : Prop :=
  ∃ depth state, Entry.began depth (.table (.countDelivery port)) state ∈ history

end History

/-- The deliveries of a port are its dispatches since its last reset, in the arithmetic of the
counter. -/
def Tallied (t : ActionTable) (history : History) : Prop :=
  ∀ port, ¬history.CountedDirectly port →
    (t.slot port).deliveries = .ofNat (history.dispatches port)

/-- The tally is right at an entry. -/
def Entry.Tallies (entry : Entry) (before : History) : Prop :=
  Tallied entry.state.table (entry :: before)

/-- Whether an entry tells of a dispatch or of a reset. -/
def Entry.changesTally : Entry → Bool
  | saw _ (.noticed (.delivering ..)) _ | saw _ (.slotReset _) _ => true
  | _ => false

theorem History.dispatches_cons {entry : Entry} (h : entry.changesTally = false) (port : Port)
    (before : History) : dispatches port (entry :: before) = before.dispatches port := by
  unfold Entry.changesTally at h
  split at h
  · cases h
  · cases h
  next hdelivering hreset =>
    rw [dispatches]
    · exact hdelivering
    · exact hreset

/-- The tally is right now, as it was at every entry so far. -/
structure Tallying (s : System History) : Prop where
  tallied : Tallied s.channels.table s.outside
  always : s.outside.Always Entry.Tallies

def TalliedUntil (s : System History) : Prop := s.outside.Always Entry.Tallies

/-- The counters are ahead of the history by one entry, which is still to come. -/
def Ahead (next : Port → Nat → Nat) (s : System History) : Prop :=
  s.outside.Always Entry.Tallies ∧ ∀ port, ¬s.outside.CountedDirectly port →
    (s.channels.table.slot port).deliveries = .ofNat (next port (s.outside.dispatches port))

namespace Tallying

variable {c : Client} {depth : Nat} {α : Type} {port : Port} {next : Port → Nat → Nat}

theorem cons {entry : Entry} {state : Channels} {before : History}
    (h : Tallying ⟨state, before⟩) (hstate : entry.state = state)
    (hentry : entry.changesTally = false) : Tallying ⟨state, entry :: before⟩ := by
  have htallied : Tallied state.table (entry :: before) := by
    intro port hnot
    rw [History.dispatches_cons hentry]
    exact h.tallied port fun ⟨depth, seen, hmem⟩ =>
      hnot ⟨depth, seen, List.mem_cons_of_mem _ hmem⟩
  refine ⟨htallied, .cons ?_ h.always⟩
  rw [Entry.Tallies, hstate]
  exact htallied

theorem keeps_record {entry : Channels → Entry} (hstate : ∀ state, (entry state).state = state)
    (hentry : ∀ state, (entry state).changesTally = false) :
    Keeps TalliedUntil Tallying (record entry) :=
  Leads.record fun state _ hs => hs.cons (hstate state) (hentry state)

theorem keeps_emit {e : Event} (hentry : ∀ state, (Entry.saw depth e state).changesTally = false) :
    Keeps TalliedUntil Tallying (emit (c.platform depth) e) :=
  Client.leads_emit fun state _ hs => hs.cons rfl (hentry state)

theorem keepsRemarks : KeepsRemarks (c.platform depth) TalliedUntil Tallying := by
  intro n hn
  cases n with
  | delivering | actionDropped => cases hn
  | _ => exact keeps_emit fun _ => rfl

theorem keeps_modifyTable {f : ActionTable → ActionTable}
    (h : ∀ t q, ((f t).slot q).deliveries = (t.slot q).deliveries) :
    Keeps TalliedUntil Tallying (modifyTable f) :=
  Leads.modifyTable fun state _ hs =>
    ⟨fun q hnot => (h state.table q).trans (hs.tallied q hnot), hs.always⟩

theorem keeps_onTable {f : ActionTable → α × ActionTable}
    (h : ∀ t q, ((f t).2.slot q).deliveries = (t.slot q).deliveries) :
    Keeps TalliedUntil Tallying (onTable f) :=
  Leads.onTable fun state _ hs =>
    ⟨fun q hnot => (h state.table q).trans (hs.tallied q hnot), hs.always⟩

theorem keeps_modifySlot {f : ActionTable → Slot → Slot}
    (h : ∀ t s, (f t s).deliveries = s.deliveries) :
    Keeps TalliedUntil Tallying (modifyTable fun t => t.modifySlot port (f t)) :=
  keeps_modifyTable fun t _ => t.field_modifySlot _ _ (h t)

theorem keeps_onPage (m : PageM α) : Keeps TalliedUntil Tallying (onPage m) := by
  apply Leads.onPage
  intro state o hs
  split
  · exact ⟨hs.tallied, hs.always⟩
  · exact hs.always

theorem keeps_enqueue (port : Port) :
    Keeps TalliedUntil Tallying (enqueue (c.platform depth) port) := by
  apply Guest.keeps_enqueue _ fun _ => keeps_emit fun _ => rfl
  apply keeps_onTable
  intro t q
  rw [ActionTable.slot_enqueue]
  exact t.field_modifySlot _ _ fun _ => rfl

theorem keeps_cancel (port : Port) :
    Keeps TalliedUntil Tallying (cancel (c.platform depth) port) := by
  apply Guest.keeps_cancel _ fun _ => keeps_emit fun _ => rfl
  apply keeps_onTable
  intro t q
  rw [ActionTable.slot_cancel]
  exact t.field_modifySlot _ _ fun _ => rfl

theorem leads_emit {e : Event} (hentry : ∀ state (before : History) port,
      History.dispatches port (.saw depth e state :: before) =
        next port (before.dispatches port)) :
    Leads TalliedUntil (Ahead next) (emit (c.platform depth) e) fun _ => Tallying := by
  apply Client.leads_emit
  intro state o hs
  obtain ⟨halways, hahead⟩ := hs
  have htallied : Tallied state.table (.saw depth e state :: o) := by
    intro port hnot
    rw [hentry]
    exact hahead port fun ⟨depth, seen, hmem⟩ =>
      hnot ⟨depth, seen, List.mem_cons_of_mem _ hmem⟩
  exact ⟨htallied, .cons htallied halways⟩

/-- The counter is reset before the entry that says so. -/
theorem keeps_resetSlot (port : Port) :
    Keeps TalliedUntil Tallying (resetSlot (c.platform depth) port) := by
  have hkind : Keeps TalliedUntil Tallying (modifyTable fun t => t.setKind port .empty) :=
    keeps_modifySlot fun _ _ => rfl
  have haction : Keeps TalliedUntil Tallying (modifyTable fun t => t.setAction port .empty) :=
    keeps_modifySlot fun _ _ => rfl
  let reset (q : Port) (n : Nat) : Nat := if port = q then 0 else n
  have hzero : Leads TalliedUntil Tallying (modifyTable fun t => t.setDeliveries port 0)
      fun _ => Ahead reset := by
    apply Leads.modifyTable
    intro state o hs
    refine ⟨hs.always, fun q hnot => ?_⟩
    rw [ActionTable.deliveries_setDeliveries]
    by_cases he : port = q
    · simp only [reset, he, if_true]
      rfl
    · simp only [reset, he, if_false]
      exact hs.tallied q hnot
  have hack : Keeps TalliedUntil (Ahead reset) (onTable fun t => t.acknowledge port) :=
    Leads.onTable fun _ _ => id
  have hseen : Leads TalliedUntil (Ahead reset) (emit (c.platform depth) (.slotReset port))
      fun _ => Tallying := leads_emit fun _ _ _ => rfl
  exact leads_resetSlot hkind (keeps_cancel port) hzero hack hseen keepsRemarks haction

/-- The counter is raised before the entry that says so. -/
theorem keeps_deliver (port : Port)
    (hservice : ∀ kind, Keeps TalliedUntil Tallying (service (c.platform depth) port kind)) :
    Keeps TalliedUntil Tallying (deliver (c.platform depth) port) := by
  let raised (q : Port) (n : Nat) : Nat := if port = q then n + 1 else n
  have hcount : Leads TalliedUntil Tallying (onTable fun t => t.countDelivery port)
      fun _ => Ahead raised := by
    apply Leads.onTable
    intro state o hs
    refine ⟨hs.always, fun q hnot => ?_⟩
    change ((state.table.setDeliveries port _).slot q).deliveries = _
    rw [ActionTable.deliveries_setDeliveries]
    by_cases he : port = q
    · subst he
      simp only [raised, if_true, UInt64.ofNat_add]
      rw [hs.tallied port hnot]
      rfl
    · simp only [raised, he, if_false]
      exact hs.tallied q hnot
  apply hcount.bind
  intro deliveries
  apply Leads.bind (Keeps.table)
  intro t
  have hseen : Leads TalliedUntil (Ahead raised)
      (note (c.platform depth) (.delivering port (t.kind port) deliveries)) fun _ => Tallying :=
    leads_emit fun _ _ _ => rfl
  exact hseen.bind fun _ => hservice _

section Calls

variable (hcall : ∀ r, Keeps TalliedUntil Tallying (call (c.platform depth) r))

include hcall

theorem stable : Stable (c.platform depth) TalliedUntil Tallying :=
  ⟨fun r _ _ _ => hcall r, keepsRemarks⟩

theorem keeps_consume (word bit : Fin 64) :
    Keeps TalliedUntil Tallying (consume (c.platform depth) word bit) := by
  have hstable := stable hcall
  have hservice (port : Port) (kind : Kind) :
      Keeps TalliedUntil Tallying (service (c.platform depth) port kind) :=
    keeps_service hstable (hcall _) (fun _ => keeps_service_normal hstable fun _ => hcall _)
      (fun _ => keeps_onTable fun _ _ => rfl) keeps_enqueue
  exact Guest.keeps_consume hstable (keeps_onPage _) (keeps_emit fun _ => rfl)
    fun port => keeps_deliver port (hservice port)

theorem parts : Operation.Parts (c.platform depth) TalliedUntil Tallying where
  stable := stable hcall
  line r _ := hcall r
  page :=
    { page := keeps_onPage
      modifyPage := fun _ => Leads.modifyPage fun _ _ hs => ⟨hs.tallied, hs.always⟩
      raised := fun _ _ => keeps_emit fun _ => rfl
      discarded := fun _ _ => keeps_emit fun _ => rfl
      pendingDropped := fun _ => keeps_emit fun _ => rfl }
  setInterruptsMasked _ := ⟨fun _ hs => ⟨hs.tallied, hs.always⟩⟩
  setConnected _ := ⟨fun _ hs => ⟨hs.tallied, hs.always⟩⟩
  setSuspendPort _ := ⟨fun _ hs => ⟨hs.tallied, hs.always⟩⟩
  publish _ _ := keeps_publish keepsRemarks (fun _ => keeps_modifySlot fun _ _ => rfl)
    (keeps_modifySlot fun _ _ => rfl) (keeps_emit fun _ => rfl)
  dropAction _ := keeps_dropAction keepsRemarks (keeps_modifySlot fun _ _ => rfl) fun _ _ =>
    keeps_emit fun _ => rfl
  resetSlot := keeps_resetSlot
  enqueue := keeps_enqueue
  cancel := keeps_cancel
  takeWord _ := keeps_onTable fun _ _ => rfl
  setOutstanding _ := keeps_onTable fun _ _ => rfl
  acknowledge _ := keeps_onTable fun _ _ => rfl
  reader _ hop := TableOperation.keeps_moveReader
    (fun _ _ => keeps_modifySlot fun _ _ => rfl) (fun _ => keeps_emit fun _ => rfl)
    (fun _ => keeps_emit fun _ => rfl) hop
  consume := keeps_consume hcall
  runItem port := by
    apply leads_runItem (stable hcall) _ (keeps_emit fun _ => rfl) fun _ => hcall _
    exact keeps_onTable fun t q => t.field_modifySlot _ _ fun _ => rfl

/-- A direct count takes the port out of the tally beforehand. -/
theorem keeps_logged (op : Operation) :
    Keeps TalliedUntil Tallying (op.logged (c.platform depth) depth) := by
  have hbegan : Keeps TalliedUntil Tallying (record (.began depth op)) :=
    keeps_record (fun _ => rfl) fun _ => rfl
  have hended (result : Except ChannelError Report) :
      Keeps TalliedUntil Tallying (record (.ended depth op result)) :=
    keeps_record (fun _ => rfl) fun _ => rfl
  by_cases hop : ∃ port, op = .table (.countDelivery port)
  · obtain ⟨port, rfl⟩ := hop
    have hdirect : Leads TalliedUntil Tallying (record (.began depth (.table (.countDelivery port))))
        fun _ s => Tallying s ∧ s.outside.CountedDirectly port :=
      Leads.and hbegan (Leads.record fun state _ _ => ⟨depth, state, List.mem_cons_self⟩)
    have hcount : Leads TalliedUntil (fun s => Tallying s ∧ s.outside.CountedDirectly port)
        (onTable fun t => t.countDelivery port) fun _ => Tallying := by
      apply Leads.onTable
      intro state o hs
      obtain ⟨hs, hdirect⟩ := hs
      refine ⟨fun q hnot => ?_, hs.always⟩
      have hne : port ≠ q := fun he => hnot (he ▸ hdirect)
      change ((state.table.setDeliveries port _).slot q).deliveries = _
      rw [ActionTable.deliveries_setDeliveries, if_neg hne]
      exact hs.tallied q hnot
    have hrun : Leads TalliedUntil (fun s => Tallying s ∧ s.outside.CountedDirectly port)
        ((Operation.table (.countDelivery port)).run (c.platform depth)) fun _ => Tallying :=
      hcount.bind fun _ => .pure fun _ => id
    exact Operation.keeps_logged hdirect hrun hended
  · have hrun : Keeps TalliedUntil Tallying (op.run (c.platform depth)) :=
      (parts hcall).run (fun _ hs => hs.always) fun port he => absurd ⟨port, he⟩ hop
    exact Operation.keeps_logged hbegan hrun hended

end Calls

end Tallying

/-- The delivery counters tell the dispatches throughout a run from power-on. -/
theorem Client.always_tallies (c : Client) (depth : Nat) {α : Type} (program : Program α)
    {start : Channels} (hstart : start.table = .powerOn) :
    (c.history depth program start).Always Entry.Tallies := by
  have hmaintains : c.Maintains (depth + 1) TalliedUntil (fun _ : Unit => Tallying)
      (fun _ _ => Tallying) fun _ _ => True := by
    refine ⟨fun _ _ _ _ => Program.within_of_forall fun _ => trivial, fun _ _ _ => ?_,
      fun _ _ _ _ => ?_, fun depth _ hcall _ op _ => Tallying.keeps_logged (hcall ()) op⟩
    · exact Tallying.keeps_record (fun _ => rfl) fun _ => rfl
    · exact Tallying.keeps_record (fun _ => rfl) fun _ => rfl
  have htallied : Tallied start.table [] := by
    intro port _
    rw [hstart, ActionTable.slot_powerOn]
    rfl
  exact hmaintains.holds () (Program.within_of_forall fun _ => trivial) ⟨htallied, .nil⟩
    fun _ hs => hs.always

end EventChannel
