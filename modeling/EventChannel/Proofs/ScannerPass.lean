import EventChannel.Proofs.Keeping.Scan
import EventChannel.Proofs.ScannerPass.Bits
import EventChannel.Proofs.ScannerPass.Dispatch

namespace EventChannel

open Guest

/-- What a pass on a processor makes of the event channels. -/
structure Channels.Serviced (before : Channels) (v : Fin 32) (after : Channels) : Prop where
  pending : ∀ w b, after.page.pending.test w b =
    (before.page.pending.test w b && !before.page.isDue v w b)
  vcpu : ∀ i, after.page.vcpu i = if v = i then (before.page.vcpu i).reset else before.page.vcpu i
  page : after.page =
    { before.page with pending := after.page.pending, vcpus := after.page.vcpus }
  table : before.table.Gains (before.page.duePorts v).contains
    (before.table.marks (before.page.duePorts v)) (before.table.queues (before.page.duePorts v))
    after.table
  rest : after = { before with page := after.page, table := after.table }

namespace Guest

variable {c : Client} {lost : System History → Prop} {requests : List Request} {ports : List Port}
  {start : Channels} {bits : List (Fin 64 × Fin 64)} {word bit : Fin 64}

/-- The bits have been serviced, since the history told of certain calls and dispatches. -/
def Progress (start : Channels) (requests : List Request) (ports : List Port)
    (bits : List (Fin 64 × Fin 64)) : System History → Prop :=
  Gained (Port.ofBits bits).contains (start.table.marks (Port.ofBits bits))
    (start.table.queues (Port.ofBits bits))
    (requests ++ start.table.requests [] (Port.ofBits bits)) (ports ++ Port.ofBits bits)
    { start with page := start.page.clearEach bits }

theorem leads_consume (hmasked : start.interruptsMasked = false) (hnew : (word, bit) ∉ bits) :
    Leads lost (Progress start requests ports bits) (consume (c.platform 0) word bit) fun one s =>
      Progress start requests ports (bits ++ [(word, bit)]) s ∧
      start.table.outcome (Port.ofBits bits) ∪ one =
        start.table.outcome (Port.ofBits (bits ++ [(word, bit)])) := by
  unfold Progress
  rw [Port.ofBits_append, start.page.clearEach_append]
  apply leads_gained
  intro u hgains
  apply (held_onPage (PageM.clearAt_run _ word bit)).discard.bind
  intro _
  apply Leads.bind (held_told rfl)
  intro _
  cases hport : Port.at? word bit with
  | none =>
    apply Leads.bind (held_told rfl)
    intro _
    apply Leads.pure
    intro s hs
    rw [Option.toList_none, List.append_nil, PassOutcome.union_empty]
    exact ⟨⟨u, hs, hgains⟩, rfl⟩
  | some port =>
    -- A delivery is counted once only because no bit is serviced twice.
    have hports : port ∉ Port.ofBits bits := by
      intro hmem
      obtain ⟨hword, hbit⟩ := Port.at?_eq_some_iff.1 hport
      rw [Port.mem_ofBits, hword, hbit] at hmem
      exact hnew hmem
    let now : Channels :=
      { start with page := (start.page.clearEach bits).clearPending word bit, table := u }
    have hnow : now.interruptsMasked = false := hmasked
    apply (leads_deliver hnow).of_post
    intro one s hs
    obtain ⟨⟨t, hs, hdelivered⟩, hone⟩ := hs
    rw [Option.toList_some, ActionTable.requests_append, ActionTable.outcome_append, hone,
      List.nil_append, ← hgains.requestsAt_eq, ← List.append_assoc, ← List.append_assoc]
    refine ⟨⟨t, hs, hgains.append hdelivered hports⟩, ?_⟩
    exact congrArg (fun kind : Kind => _ ∪ kind.outcome) (hgains.kind port)

theorem leads_ready_progress : Leads lost (Progress start requests ports bits)
    (onPage (PageM.ready word)) fun ready s =>
      ready = (start.page.clearEach bits).ready word ∧ Progress start requests ports bits s := by
  apply leads_ready.of_post
  intro ready s hs
  obtain ⟨⟨u, hs, hgains⟩, rfl⟩ := hs
  have hpage : s.channels.page = start.page.clearEach bits := congrArg Channels.page hs.channels
  exact ⟨by rw [hpage], u, hs, hgains⟩

/-- What has been serviced is no longer pending, so leaving it out again changes nothing. -/
theorem leads_rescan {serviced : Word} {outcome : PassOutcome}
    {post : PassOutcome → System History → Prop}
    (hserviced : ∀ b, serviced.test b = true → (word, b) ∈ bits)
    (hscan : Leads lost (Progress start requests ports bits)
      (match ((start.page.clearEach bits).ready word).lowest? with
        | none => return outcome
        | some bit => do
          let one ← consume (c.platform 0) word bit
          scanWord (c.platform 0) word (serviced.insert bit) (outcome ∪ one)) post) :
    Leads lost (Progress start requests ports bits) (scanWord (c.platform 0) word serviced outcome)
      post := by
  have hwithout : ((start.page.clearEach bits).ready word).without serviced =
      (start.page.clearEach bits).ready word := by
    apply Word.ext_test
    intro b
    rw [Word.test_without]
    cases hb : serviced.test b with
    | true =>
      have hmem := List.contains_iff_mem.2 (hserviced b hb)
      rw [SharedPage.test_ready_clearEach, hmem, Bool.not_true, Bool.and_false, Bool.and_false]
    | false => rw [Bool.not_false, Bool.and_true]
  rw [scanWord_eq]
  apply leads_ready_progress.bind_of_eq
  rw [hwithout]
  exact hscan

/-- The scan of a word comes to what was ready there, lowest first. -/
theorem leads_scanWord_ready (hmasked : start.interruptsMasked = false) (left : List (Fin 64))
    (serviced : Word) (hserviced : ∀ b, serviced.test b = true → (word, b) ∈ bits)
    (hleft : ((start.page.clearEach bits).ready word).toList = left) :
    Leads lost (Progress start requests ports bits)
      (scanWord (c.platform 0) word serviced (start.table.outcome (Port.ofBits bits)))
      fun outcome s => Progress start requests ports (bits ++ left.map fun b => (word, b)) s ∧
        outcome = start.table.outcome (Port.ofBits (bits ++ left.map fun b => (word, b))) := by
  -- The scan looks at the page again after each bit, so what is left is read off the page and not off
  -- `serviced`, which only has to stay within what has been serviced.
  induction left generalizing bits serviced with
  | nil =>
    apply leads_rescan hserviced
    rw [Word.lowest?_eq_head?, hleft, List.head?_nil, List.map_nil, List.append_nil]
    exact .pure fun _ hs => ⟨hs, rfl⟩
  | cons b left ih =>
    have hlowest : ((start.page.clearEach bits).ready word).lowest? = some b := by
      rw [Word.lowest?_eq_head?, hleft, List.head?_cons]
    have hready := Word.test_of_lowest? hlowest
    rw [SharedPage.test_ready_clearEach, Bool.and_eq_true, Bool.not_eq_true',
      ← Bool.not_eq_true, List.contains_iff_mem] at hready
    have hleft' : ((start.page.clearEach (bits ++ [(word, b)])).ready word).toList = left := by
      rw [start.page.toList_ready_clearEach hlowest] at hleft
      exact (List.cons.inj hleft).2
    have hserviced' (a : Fin 64) (ha : (serviced.insert b).test a = true) :
        (word, a) ∈ bits ++ [(word, b)] := by
      rw [Word.test_insert, Bool.or_eq_true, decide_eq_true_eq] at ha
      rcases ha with rfl | ha
      · exact List.mem_append_right _ List.mem_cons_self
      · exact List.mem_append_left _ (hserviced a ha)
    apply leads_rescan hserviced
    rw [hlowest, List.map_cons, List.append_cons]
    apply (leads_consume hmasked hready.2).bind
    intro one
    apply Leads.assume
    intro hone
    rw [hone]
    exact ih _ hserviced' hleft'

theorem leads_scanWords_ready (hmasked : start.interruptsMasked = false) (words : List (Fin 64))
    (hwords : words.Nodup) (hfresh : ∀ w ∈ words, ∀ b, (w, b) ∉ bits) :
    Leads lost (Progress start requests ports bits)
      (scanWords (c.platform 0) words (start.table.outcome (Port.ofBits bits)))
      fun outcome s =>
        Progress start requests ports
          (bits ++ words.flatMap fun w => (start.page.ready w).toList.map fun b => (w, b)) s ∧
        outcome = start.table.outcome (Port.ofBits
          (bits ++ words.flatMap fun w => (start.page.ready w).toList.map fun b => (w, b))) := by
  induction words generalizing bits with
  | nil =>
    rw [List.flatMap_nil, List.append_nil]
    exact .pure fun _ hs => ⟨hs, rfl⟩
  | cons word words ih =>
    obtain ⟨hword, hwords⟩ := List.nodup_cons.1 hwords
    have hready : (start.page.clearEach bits).ready word = start.page.ready word := by
      apply Word.ext_test
      intro b
      have hnot : bits.contains (word, b) = false := by
        rw [← Bool.not_eq_true, List.contains_iff_mem]
        exact hfresh word List.mem_cons_self b
      rw [SharedPage.test_ready_clearEach, hnot, Bool.not_false, Bool.and_true]
    have hnone (b : Fin 64) (hb : Word.empty.test b = true) : (word, b) ∈ bits := by
      rw [Word.test_empty] at hb
      cases hb
    apply (leads_scanWord_ready hmasked _ .empty hnone (congrArg Word.toList hready)).bind
    intro outcome
    apply Leads.assume
    intro houtcome
    rw [houtcome, List.flatMap_cons, ← List.append_assoc]
    apply ih hwords
    intro w hw b hmem
    rcases List.mem_append.1 hmem with hmem | hmem
    · exact hfresh w (List.mem_cons_of_mem _ hw) b hmem
    · obtain ⟨_, _, he⟩ := List.mem_map.1 hmem
      cases he
      exact hword hw

theorem progress_nil {s : System History} (hs : Held (History.Tells requests ports) start s) :
    Progress start requests ports [] s := by
  have hgains : start.table.Gains [].contains (start.table.marks []) (start.table.queues [])
      start.table := by
    apply (ActionTable.Gains.refl _).congr
    · exact fun _ => rfl
    · intro q
      rw [ActionTable.marks, List.contains_nil, List.any_nil, Bool.or_self, Bool.and_false]
      rfl
    · intro q
      rw [ActionTable.queues_nil]
  unfold Progress
  rw [Port.ofBits, List.filterMap_nil, ActionTable.requests, List.append_nil, List.append_nil]
  exact ⟨start.table, hs, hgains⟩

theorem leads_scannerPass {v : Fin 32} (hmasked : start.interruptsMasked = false)
    (hvcpu : start.config.upcallVcpu = v) :
    Leads lost (Held (History.Tells requests ports) start) (scannerPass (c.platform 0))
      fun outcome s =>
        outcome = start.table.outcome (start.page.duePorts v) ∧
        Progress { start with page := start.page.drained v } requests ports (start.page.dueBits v) s := by
  apply held_scannerPass_of_scanWords hmasked hvcpu
  let now : Channels := { start with page := start.page.drained v }
  have hnow : now.interruptsMasked = false := hmasked
  have hnodup : (start.page.vcpu v).selector.toList.Nodup := (List.nodup_finRange 64).filter _
  have hscan : Leads lost (Progress now requests ports [])
      (scanWords (c.platform 0) (start.page.vcpu v).selector.toList .empty) fun outcome s =>
        Progress now requests ports (start.page.dueBits v) s ∧
        outcome = start.table.outcome (Port.ofBits (start.page.dueBits v)) :=
    leads_scanWords_ready hnow _ hnodup fun _ _ _ => List.not_mem_nil
  apply hscan.weaken
  · exact fun _ hs => progress_nil hs
  · intro outcome s hs
    rw [← SharedPage.ofBits_dueBits]
    exact ⟨hs.2, hs.1⟩

end Guest

/-- When calls do nothing but leave a trace, a pass on a processor comes to what the page and the
table say as it begins. It services the bits that are due, dispatches to the ports among them in
order, makes the calls that follow from the kinds of these ports and what work waits already, and
leaves everything else as it was. -/
theorem scanner_pass_meets_specification (c : Client) {s : System History} {v : Fin 32}
    (hmasked : s.channels.interruptsMasked = false)
    (hvcpu : s.channels.config.upcallVcpu = v) :
    ∃ s', scannerPass (c.platform 0) s =
        .ok (s.channels.table.outcome (s.channels.page.duePorts v)) s' ∧
      s.channels.Serviced v s'.channels ∧
      s'.outside.dispatched = s.outside.dispatched ++ s.channels.page.duePorts v ∧
      s'.outside.requests =
        s.outside.requests ++ s.channels.table.requests [] (s.channels.page.duePorts v) := by
  have hstart : Held (History.Tells s.outside.requests s.outside.dispatched) s.channels s :=
    ⟨rfl, rfl, rfl⟩
  obtain ⟨outcome, s', hrun, rfl, u, hs', hgains⟩ :=
    (leads_scannerPass hmasked hvcpu).exists_ok hstart
  have hchannels := hs'.channels
  obtain ⟨hrequests, hports⟩ := hs'.outside
  rw [SharedPage.ofBits_dueBits] at hgains hrequests hports
  refine ⟨s', hrun, ?_, hports, hrequests⟩
  rw [hchannels]
  constructor
  · intro w b
    have hdue : (s.channels.page.dueBits v).contains (w, b) = s.channels.page.isDue v w b := by
      rw [Bool.eq_iff_iff, List.contains_iff_mem, SharedPage.mem_dueBits]
    rw [← hdue]
    exact (s.channels.page.drained v).test_pending_clearEach _ w b
  · intro i
    have hvcpu : ((s.channels.page.drained v).clearEach (s.channels.page.dueBits v)).vcpu i =
        (s.channels.page.drained v).vcpu i := by
      rw [SharedPage.clearEach_eq]
      rfl
    exact hvcpu.trans (s.channels.page.vcpu_drained v i)
  · have hpage := (s.channels.page.drained v).clearEach_eq (s.channels.page.dueBits v)
    rw [hpage]
    rfl
  · exact hgains
  · rfl

/-- A broadcast in the middle of a pass queues the work of port 5 before its own event comes, and that
of port 9, which is masked. Word 2 is not flagged, and the pending bit of word 16 has no port. -/
theorem scanner_pass_meets_specification_broadcast :
    let bindings : List (Port × Action) := [(⟨1⟩, .normal "timer"), (⟨4⟩, .suspend),
      (⟨5⟩, .deferredHardwareIrq ⟨"line", 11, "serial"⟩), (⟨7⟩, .deferredProcedure "ring"),
      (⟨9⟩, .deferredHardwareIrq ⟨"line", 12, "disk"⟩)]
    let table := bindings.foldl (fun t x => (t.setAction x.1 x.2).setKind x.1 x.2.kind) .powerOn
    let bits : List (Fin 64 × Fin 64) := [(0, 1), (0, 4), (0, 5), (0, 7), (0, 9), (2, 0), (16, 3)]
    let page := bits.foldl (fun s x => s.setPending x.1 x.2) (SharedPage.zero.setMask 0 9)
    let start : Channels := ⟨page.modifyVcpu 0 fun slot => (slot.flagWord 0).flagWord 16, table,
      { callbackIrq := 5 }, false, false, none⟩
    start.interruptsMasked = false ∧ start.config.upcallVcpu = (0 : Fin 32) ∧
    ∃ s', scannerPass (Client.reraising.platform 0) ⟨start, []⟩ = .ok ⟨true, true⟩ s' ∧
      start.Serviced 0 s'.channels ∧ s'.outside.dispatched = [⟨1⟩, ⟨4⟩, ⟨5⟩, ⟨7⟩] ∧
      s'.outside.requests = [.handle .inline "timer" ⟨1⟩, .queueDeferred, .queueDeferred] ∧
      s'.channels.table.isQueued ⟨9⟩ = true ∧ s'.channels.page.pending.test 16 3 = false := by
  intro bindings table bits page start
  have hports : start.page.duePorts 0 = [⟨1⟩, ⟨4⟩, ⟨5⟩, ⟨7⟩] := by decide +kernel
  have houtcome : start.table.outcome [⟨1⟩, ⟨4⟩, ⟨5⟩, ⟨7⟩] = ⟨true, true⟩ := by decide +kernel
  have hrequests : start.table.requests [] [⟨1⟩, ⟨4⟩, ⟨5⟩, ⟨7⟩] =
      [.handle .inline "timer" ⟨1⟩, .queueDeferred, .queueDeferred] := by decide +kernel
  have hqueues : start.table.queues [⟨1⟩, ⟨4⟩, ⟨5⟩, ⟨7⟩] ⟨9⟩ = true := by decide +kernel
  have hdue : start.page.isDue 0 16 3 = true := by decide +kernel
  obtain ⟨s', hrun, hserviced, hdispatched, hcalls⟩ :=
    scanner_pass_meets_specification Client.reraising (s := ⟨start, []⟩) (v := 0) rfl rfl
  have hqueued := hserviced.table.isQueued ⟨9⟩
  have hpending := hserviced.pending 16 3
  rw [hports] at hrun hdispatched hcalls hqueued
  rw [houtcome] at hrun
  rw [hrequests] at hcalls
  rw [hqueues, Bool.or_true] at hqueued
  rw [hdue, Bool.not_true, Bool.and_false] at hpending
  exact ⟨rfl, rfl, s', hrun, hserviced, hdispatched, hcalls, hqueued, hpending⟩

end EventChannel
