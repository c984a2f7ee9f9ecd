import EventChannel.Proofs.Contention
import EventChannel.Proofs.Erasure
import EventChannel.Proofs.Independence.Locality
import EventChannel.Proofs.ScannerPass.Dispatch

namespace EventChannel

open Guest

/-- The ports below a port come before it in the list of all ports, and no others. -/
theorem Port.exists_all_eq (k : Port) :
    ∃ before after, all = before ++ k :: after ∧ ∀ q, q ∈ before ↔ q.index < k.index := by
  have hsorted : all.Pairwise fun p q => p.index < q.index := by
    rw [all, List.pairwise_map, List.pairwise_iff_getElem]
    intro i j _ _ hij
    rw [List.getElem_finRange, List.getElem_finRange]
    exact hij
  obtain ⟨before, after, hall⟩ := List.append_of_mem k.mem_all
  refine ⟨before, after, hall, fun q => ⟨fun hq => ?_, fun hq => ?_⟩⟩
  · rw [hall, List.pairwise_append] at hsorted
    exact hsorted.2.2 q hq k List.mem_cons_self
  · rw [hall, List.pairwise_append, List.pairwise_cons] at hsorted
    have hmem : q ∈ before ++ k :: after := hall ▸ q.mem_all
    rcases List.mem_append.1 hmem with hbefore | hrest
    · exact hbefore
    · rcases List.mem_cons.1 hrest with rfl | hafter
      · exact absurd hq (Fin.lt_irrefl _)
      · exact absurd hq (Fin.lt_asymm (hsorted.2.1.1 q hafter))

namespace Channels

/-- The state in which initialisation resets the table. -/
def closed (c : Channels) : Channels := { c with
  page := (c.page.modifyVcpus fun v => v.maskUpcall true).maskAll
  interruptsMasked := true
  suspendPort := none }

end Channels

namespace ActionTable

/-- What a reset leaves that was refused at a port: the ports below have been reset, the port has up
to its action, and those above have not. -/
structure InterruptedAt (k : Port) (t u : ActionTable) : Prop where
  below : ∀ q, q.index < k.index → AgreeAt q powerOn u
  slot : u.slot k = { t.slot k with kind := .empty, work := .new, deliveries := 0 }
  outstanding : u.isOutstanding k = false
  flagged : u.isFlagged k = false
  above : ∀ q, k.index < q.index → AgreeAt q t u

/-- The lowest port whose action has readers. -/
structure LowestRead (t : ActionTable) (k : Port) : Prop where
  busy : (t.slot k).readers ≠ 0
  free : ∀ q, q.index < k.index → (t.slot q).readers = 0

theorem LowestRead.unique {t : ActionTable} {k k' : Port} (h : t.LowestRead k)
    (h' : t.LowestRead k') : k = k' := by
  have hle : k'.index ≤ k.index := Fin.not_lt.1 fun hlt => h.busy (h'.free k hlt)
  have hge : k.index ≤ k'.index := Fin.not_lt.1 fun hlt => h'.busy (h.free k' hlt)
  exact Port.ext (Fin.le_antisymm hge hle)

variable (t : ActionTable) (p q : Port)

theorem readers_resetAt : ((t.resetAt p).slot q).readers = (t.slot q).readers := by
  rw [slot_resetAt]
  split <;> rfl

theorem readers_bindAt (a : Action) : ((t.bindAt p a).slot q).readers = (t.slot q).readers := by
  rw [slot_bindAt]
  split <;> rfl

theorem agreeAt_clearAt {p q : Port} (hne : p ≠ q) : AgreeAt q t (t.clearAt p) where
  slot := by rw [slot_clearAt, if_neg hne]
  outstanding := ((isOutstanding_acknowledge _ p q).trans (if_neg hne)).symm
  flagged := (((t.setKind p .empty).isFlagged_cancel p q).trans (if_neg hne)).symm

theorem agreeAt_resetAt {p q : Port} (hne : p ≠ q) : AgreeAt q t (t.resetAt p) where
  slot := by rw [slot_resetAt, if_neg hne]
  outstanding := by rw [isOutstanding_resetAt, if_neg hne]
  flagged := by rw [isFlagged_resetAt, if_neg hne]

theorem agreeAt_foldl_resetAt {ports : List Port} {q : Port} (hq : q ∉ ports) :
    AgreeAt q t (ports.foldl resetAt t) := by
  induction ports generalizing t with
  | nil => exact .refl t
  | cons p ports ih =>
    have hne : p ≠ q := fun he => hq (he ▸ List.mem_cons_self)
    exact (t.agreeAt_resetAt hne).trans (ih (t.resetAt p) fun h => hq (List.mem_cons_of_mem p h))

/-- A port without readers that has been reset is as after power-on. -/
theorem powerOn_agreeAt_foldl_resetAt {ports : List Port} {q : Port} (hq : q ∈ ports)
    (hfree : (t.slot q).readers = 0) : AgreeAt q powerOn (ports.foldl resetAt t) where
  slot := by
    rw [slot_foldl_resetAt, if_pos hq, hfree, slot_powerOn]
    rfl
  outstanding := by rw [(t.bits_foldl_resetAt q ports hq).1, isOutstanding_powerOn]
  flagged := by rw [(t.bits_foldl_resetAt q ports hq).2, isFlagged_powerOn]

theorem interruptedAt_clearAt {k : Port} {before : List Port}
    (hbefore : ∀ q, q ∈ before ↔ q.index < k.index)
    (hfree : ∀ q, q.index < k.index → (t.slot q).readers = 0) :
    InterruptedAt k t ((before.foldl resetAt t).clearAt k) where
  below q hq := by
    have hne : k ≠ q := fun he => Fin.lt_irrefl _ (he ▸ hq)
    exact (t.powerOn_agreeAt_foldl_resetAt ((hbefore q).2 hq) (hfree q hq)).trans
      (agreeAt_clearAt _ hne)
  slot := by
    have hk : k ∉ before := fun h => Fin.lt_irrefl _ ((hbefore k).1 h)
    rw [slot_clearAt, if_pos rfl, ← (t.agreeAt_foldl_resetAt hk).slot]
  outstanding := (isOutstanding_acknowledge _ k k).trans (if_pos rfl)
  flagged := (ActionTable.isFlagged_cancel _ k k).trans (if_pos rfl)
  above q hq := by
    have hne : k ≠ q := fun he => Fin.lt_irrefl _ (he ▸ hq)
    have hmem : q ∉ before := fun h => Fin.lt_asymm hq ((hbefore q).1 h)
    exact (t.agreeAt_foldl_resetAt hmem).trans (agreeAt_clearAt _ hne)

/-- If an action has readers, there is a lowest port whose action does. -/
theorem exists_lowestRead {t : ActionTable} {p : Port} (h : (t.slot p).readers ≠ 0) :
    ∃ k, t.LowestRead k := by
  induction hi : p.index.val using Nat.strongRecOn generalizing p with
  | ind n ih =>
    by_cases hlower : ∃ q, q.index < p.index ∧ (t.slot q).readers ≠ 0
    · obtain ⟨q, hq, hbusy⟩ := hlower
      exact ih q.index.val (hi ▸ hq) hbusy rfl
    · exact ⟨p, h, fun q hq => Decidable.byContradiction fun hbusy => hlower ⟨q, hq, hbusy⟩⟩

end ActionTable

/-- What an initialisation leaves that was refused since a port's action has readers: nothing is
delivered, and nothing that is pending has been discarded. -/
structure Channels.RefusedInitAt (k : Port) (c d : Channels) : Prop where
  table : c.table.InterruptedAt k d.table
  masked : ∀ w b, d.page.mask.test w b = true
  pending : d.page.pending = c.page.pending
  vcpu : ∀ v, d.page.vcpu v = { c.page.vcpu v with upcallMask := 1 }
  reserved : d.page.reserved = c.page.reserved
  interruptsMasked : d.interruptsMasked = true
  suspendPort : d.suspendPort = none
  connected : d.connected = c.connected
  config : d.config = c.config

theorem Channels.refusedInitAt_closed {c : Channels} {k : Port} {u : ActionTable}
    (hu : c.table.InterruptedAt k u) : c.RefusedInitAt k { c.closed with table := u } where
  table := hu
  masked w b := by
    change (Bitmap.replicate 64 .full).test w b = true
    rw [Bitmap.test_replicate, Word.test_full]
  pending := rfl
  vcpu v := c.page.vcpu_modifyVcpus _ v
  reserved := rfl
  interruptsMasked := rfl
  suspendPort := rfl
  connected := rfl
  config := rfl

namespace Guest

section Observed

variable {σ : Type} {P : Platform σ} {lost : System σ → Prop} {K : σ → Prop} {c : Channels}
variable {k : Port}
variable (hseen : ∀ e c o, K o → K (P.observe e c o))

include hseen

/-- A reset of ports one by one ends at the first whose action has readers. -/
theorem held_resetSlots_busy {before after : List Port}
    (hfree : ∀ p ∈ before, (c.table.slot p).readers = 0) (hbusy : (c.table.slot k).readers ≠ 0) :
    Leads lost (Held K c) (resetSlots P (before ++ k :: after)) fun result s =>
      result = .error (.slotBusy k) ∧
        Held K { c with table := (before.foldl ActionTable.resetAt c.table).clearAt k } s := by
  induction before generalizing c with
  | nil => exact (held_resetSlot_busy hseen hbusy).bind_of_eq (.pure fun _ hs => ⟨rfl, hs⟩)
  | cons port before ih =>
    have hfirst := hfree port List.mem_cons_self
    apply (held_resetSlot hseen hfirst).bind_of_eq
    apply ih
    · intro p hp
      rw [ActionTable.readers_resetAt]
      exact hfree p (List.mem_cons_of_mem port hp)
    · rw [ActionTable.readers_resetAt]
      exact hbusy

theorem held_resetTable_busy (hk : c.table.LowestRead k) :
    ∃ u, c.table.InterruptedAt k u ∧ Leads lost (Held K c) (resetTable P) fun result s =>
      result = .error (.slotBusy k) ∧ Held K { c with table := u } s := by
  obtain ⟨before, after, hall, hbefore⟩ := k.exists_all_eq
  refine ⟨_, c.table.interruptedAt_clearAt hbefore hk.free, ?_⟩
  rw [resetTable, hall]
  exact held_resetSlots_busy hseen (fun p hp => hk.free p ((hbefore p).1 hp)) hk.busy

theorem held_reset_free (hfree : ∀ p, (c.table.slot p).readers = 0) :
    Leads lost (Held K c) (Operation.run P (.table .reset)) fun result s =>
      result = .ok .done ∧ Held K { c with table := .powerOn } s :=
  (held_resetTable hseen hfree).bind_of_eq (.pure fun _ hs => ⟨rfl, hs⟩)

theorem held_reset_busy (hk : c.table.LowestRead k) :
    ∃ u, c.table.InterruptedAt k u ∧
      Leads lost (Held K c) (Operation.run P (.table .reset)) fun result s =>
        result = .error (.slotBusy k) ∧ Held K { c with table := u } s := by
  obtain ⟨u, hu, hreset⟩ := held_resetTable_busy (P := P) (K := K) hseen hk
  exact ⟨u, hu, hreset.bind_of_eq (.pure fun _ hs => ⟨rfl, hs⟩)⟩

/-- An initialisation that finds an action with readers stops before its first call. -/
theorem held_init_busy (hk : c.table.LowestRead k) :
    ∃ u, c.table.InterruptedAt k u ∧ Leads lost (Held K c) (init P) fun result s =>
      result = .error (.slotBusy k) ∧ Held K { c.closed with table := u } s := by
  have hclosed : c.closed.table.LowestRead k := hk
  obtain ⟨u, hu, hreset⟩ := held_resetTable_busy (P := P) (K := K) hseen hclosed
  refine ⟨u, hu, ?_⟩
  apply held_quiesce.bind
  intro _
  apply held_modifyChannels.bind
  intro _
  apply held_modifyPage.bind
  intro _
  apply hreset.bind_of_eq
  exact .pure fun _ hs => ⟨rfl, hs⟩

theorem held_bringUp_busy {op : ChannelOperation} (hop : op = .init ∨ op = .resume)
    (hk : c.table.LowestRead k) :
    ∃ u, c.table.InterruptedAt k u ∧ Leads lost (Held K c) (op.run P) fun result s =>
      result = .error (.slotBusy k) ∧ Held K { c.closed with table := u } s := by
  obtain ⟨u, hu, hinit⟩ := held_init_busy (P := P) (K := K) hseen hk
  refine ⟨u, hu, ?_⟩
  rcases hop with rfl | rfl
  · exact hinit.bind_of_eq (.pure fun _ hs => ⟨rfl, hs⟩)
  · have hresume : Leads lost (Held K c) (resume P) _ :=
      Leads.bind (held_emit hseen (.noticed .resuming)) fun _ => hinit
    exact hresume.bind_of_eq (.pure fun _ hs => ⟨rfl, hs⟩)

/-- Once all readers have ended, a reset succeeds. -/
theorem held_releases_reset :
    Leads lost (Held K c) (Operation.runAll P (c.releasesOf Port.all ++ [.table .reset]))
      fun results s => results.getLast? = some (.ok .done) ∧
        Held K { c with table := .powerOn } s := by
  have hreset (u : ActionTable) (hfree : ∀ p, (u.slot p).readers = 0) :
      Leads lost (Held K { c with table := u }) (Operation.runAll P [.table .reset])
        fun results s => results = [.ok .done] ∧ Held K { c with table := .powerOn } s :=
    leads_runAll_cons (held_reset_free hseen hfree) (leads_runAll_nil fun _ hs => ⟨rfl, hs⟩)
  apply leads_runAll_append (held_releasesOf hseen Port.nodup_all)
  intro results
  apply (hreset _ fun p => ?_).of_post
  · rintro _ s ⟨rfl, hs⟩
    exact ⟨List.getLast?_concat, hs⟩
  · rw [ActionTable.readers_foldl_setReaders, if_pos p.mem_all]

end Observed

end Guest

/-- A reset that is interrupted. It succeeds exactly if no action has readers, and then the table is as
after power-on; otherwise it names the lowest port whose action has readers, and what it leaves is
divided at that port. An initialisation is refused alike, before its first call, with every bit masked
and nothing delivered. Once the readers have ended, a reset succeeds. -/
theorem reset_stops_at_lowest_read :
    (∀ {σ : Type} (P : Platform σ) (s : System σ), ∃ result s',
      (Operation.table .reset).run P s = .ok result s' ∧
      (result = .ok .done ↔ s.channels.HasNoReaders) ∧
      (result = .ok .done → s'.channels = { s.channels with table := .powerOn }) ∧
      (¬s.channels.HasNoReaders → ∃ k, s.channels.table.LowestRead k ∧
        result = .error (.slotBusy k) ∧ s.channels.table.InterruptedAt k s'.channels.table ∧
        s'.channels = { s.channels with table := s'.channels.table })) ∧
    (∀ (c : Client) (depth : Nat) (op : ChannelOperation) (s : System History) (k : Port),
      op = .init ∨ op = .resume → s.channels.table.LowestRead k → ∃ s',
      op.run (c.platform depth) s = .ok (.error (.slotBusy k)) s' ∧
      s.channels.RefusedInitAt k s'.channels ∧ s'.outside.requests = s.outside.requests) ∧
    ∀ {σ : Type} (P : Platform σ) (s : System σ), ∃ results s',
      Operation.runAll P (s.channels.releasesOf Port.all ++ [.table .reset]) s = .ok results s' ∧
      results.getLast? = some (.ok .done) ∧ s'.channels = { s.channels with table := .powerOn } := by
  refine ⟨fun {σ} P s => ?_, fun c depth op s k hop hk => ?_, fun {σ} P s => ?_⟩
  · have hseen (e : Event) (c : Channels) (o : σ) (_ : True) : True := trivial
    have hstart : Held (fun _ => True) s.channels s := ⟨rfl, trivial⟩
    by_cases hfree : s.channels.HasNoReaders
    · have hreset : Leads (fun _ => False) (Held (fun _ => True) s.channels) _ _ :=
        held_reset_free (P := P) hseen hfree
      obtain ⟨_, s', hrun, rfl, hs'⟩ := hreset.exists_ok hstart
      exact ⟨_, s', hrun, iff_of_true rfl hfree, fun _ => hs'.channels, fun hbusy => absurd hfree hbusy⟩
    · obtain ⟨p, hp⟩ := Classical.not_forall.1 hfree
      obtain ⟨k, hk⟩ := ActionTable.exists_lowestRead hp
      obtain ⟨u, hu, hreset⟩ := held_reset_busy (P := P) hseen hk
      obtain ⟨_, s', hrun, rfl, hs'⟩ := hreset.exists_ok hstart
      refine ⟨_, s', hrun, iff_of_false nofun hfree, nofun, fun _ => ⟨k, hk, rfl, ?_⟩⟩
      rw [hs'.channels]
      exact ⟨hu, rfl⟩
  · have hseen (e : Event) (channels : Channels) (history : History)
        (h : history.requests = s.outside.requests) :
        ((c.platform depth).observe e channels history).requests = s.outside.requests := by
      cases depth <;> exact h
    have hstart : Held (fun history => history.requests = s.outside.requests) s.channels s :=
      ⟨rfl, rfl⟩
    obtain ⟨u, hu, hinit⟩ := held_bringUp_busy (P := c.platform depth) hseen hop hk
    obtain ⟨_, s', hrun, rfl, hs'⟩ := hinit.exists_ok hstart
    refine ⟨s', hrun, ?_, hs'.outside⟩
    rw [hs'.channels]
    exact Channels.refusedInitAt_closed hu
  · have hreset : Leads (fun _ => False) (Held (fun _ => True) s.channels) _ _ :=
      held_releases_reset (P := P) fun _ _ _ => id
    obtain ⟨results, s', hrun, hlast, hs'⟩ := hreset.exists_ok ⟨rfl, trivial⟩
    exact ⟨results, s', hrun, hlast, hs'.channels⟩

/-- Port 5 is read as the table is reset: port 2 has lost its binding, and port 9 keeps it. -/
theorem reset_stops_at_lowest_read_between :
    let irq : Action := .deferredHardwareIrq ⟨"card", 7, "nic"⟩
    let table := (((ActionTable.powerOn.bindAt ⟨2⟩ (.normal "line")).bindAt ⟨5⟩ irq).bindAt ⟨9⟩
      (.normal "timer")).setReaders ⟨5⟩ 1
    let start : Channels := ⟨.zero, table, { callbackIrq := 5 }, false, true, some ⟨2⟩⟩
    table.LowestRead ⟨5⟩ ∧ ∃ s t results u,
      (Operation.table .reset).run (Client.reraising.platform 1) ⟨start, []⟩ =
        .ok (.error (.slotBusy ⟨5⟩)) s ∧
      s.channels.table.slot ⟨2⟩ = .powerOn ∧
      s.channels.table.slot ⟨5⟩ = { Slot.powerOn with action := irq, readers := 1 } ∧
      s.channels.table.slot ⟨9⟩ = { Slot.powerOn with kind := .normal, action := .normal "timer" } ∧
      ChannelOperation.init.run (Client.reraising.platform 1) ⟨start, []⟩ =
        .ok (.error (.slotBusy ⟨5⟩)) t ∧
      start.RefusedInitAt ⟨5⟩ t.channels ∧ t.outside.requests = [] ∧
      Operation.runAll (Client.reraising.platform 1)
        (t.channels.releasesOf Port.all ++ [.table .reset]) t = .ok results u ∧
      results.getLast? = some (.ok .done) ∧ u.channels.table = .powerOn := by
  intro irq table start
  have hreaders (q : Port) : (table.slot q).readers = if ⟨5⟩ = q then 1 else 0 := by
    have hfree : ((((ActionTable.powerOn.bindAt ⟨2⟩ (.normal "line")).bindAt ⟨5⟩ irq).bindAt ⟨9⟩
        (.normal "timer")).slot q).readers = 0 := by
      rw [ActionTable.readers_bindAt, ActionTable.readers_bindAt, ActionTable.readers_bindAt,
        ActionTable.slot_powerOn]
      rfl
    rw [ActionTable.readers_setReaders, hfree]
  have hk : table.LowestRead ⟨5⟩ := by
    refine ⟨?_, fun q hq => ?_⟩
    · rw [hreaders, if_pos rfl]
      decide
    · have hne : (⟨5⟩ : Port) ≠ q := fun he => Fin.lt_irrefl _ (he ▸ hq)
      rw [hreaders, if_neg hne]
  obtain ⟨hreset, hinit, hreleased⟩ := reset_stops_at_lowest_read
  obtain ⟨_, s, hrun, -, -, hbusy⟩ := hreset (Client.reraising.platform 1) ⟨start, []⟩
  obtain ⟨k, hlowest, rfl, hs, -⟩ := hbusy fun hfree => hk.busy (hfree ⟨5⟩)
  obtain rfl := hk.unique hlowest
  obtain ⟨t, hrefused, ht, hcalls⟩ :=
    hinit Client.reraising 1 .init ⟨start, []⟩ ⟨5⟩ (.inl rfl) hk
  obtain ⟨results, u, hlater, hlast, hu⟩ := hreleased (Client.reraising.platform 1) t
  refine ⟨hk, s, t, results, u, hrun, ?_, ?_, ?_, hrefused, ht, hcalls, hlater, hlast, ?_⟩
  · rw [← (hs.below ⟨2⟩ (by decide)).slot, ActionTable.slot_powerOn]
  · rw [hs.slot]
    decide +kernel
  · rw [← (hs.above ⟨9⟩ (by decide)).slot]
    decide +kernel
  · rw [hu]

end EventChannel
