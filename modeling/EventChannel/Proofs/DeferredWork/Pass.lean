import EventChannel.Proofs.DeferredWork.Table

namespace EventChannel

open Guest

/-- The frames once a request is due. -/
def Frame.owing : List Frame → List Frame
  | .ordinary _ :: frames => .ordinary true :: frames
  | frames => frames

namespace Attending

variable {frames : List Frame} {state : Channels} {history : History}

theorem owing (h : Attending frames state history) :
    Attending (Frame.owing frames) state history := by
  unfold Frame.owing
  split
  · exact h.exchange rfl (fun _ _ => id) (fun _ _ _ _ => .inr (.inl rfl)) nofun
  · exact h

theorem requested (h : Attending (Frame.owing frames) state history) (depth : Nat) :
    Attending frames state (.called depth .queueDeferred state :: history) := by
  unfold Frame.owing at h
  split at h
  · exact ⟨h.tracked, fun _ _ _ => .inl rfl,
      fun hmem => h.calm (List.mem_cons_of_mem _ ((List.mem_cons.1 hmem).resolve_left nofun)),
      h.running, h.lifecycles⟩
  · exact h.cons (fun _ => rfl) fun _ => rfl

end Attending

namespace Attended

/-- Before a deferred run is requested, the request is still due. -/
def Ready (frames : List Frame) : Request → System History → Prop
  | .queueDeferred => Attended (Frame.owing frames)
  | .hypercall _ | .setParam _ _ | .connect _ | .disconnect _ | .flushDeferred
  | .handle _ _ _ => Attended frames

variable {c : Client} {depth : Nat} {frames : List Frame} {captured awaited : Port → Prop}

theorem ready {s : System History} (hs : Attended frames s) (r : Request) : Ready frames r s := by
  cases r with
  | queueDeferred => exact ⟨hs.attending.owing, hs.always⟩
  | _ => exact hs

theorem recapture {s : System History} {captured' : Port → Prop}
    (hs : Attended (.draining captured awaited :: frames) s)
    (h : ∀ port, s.channels.table.isQueued port = true → captured port → captured' port) :
    Attended (.draining captured' awaited :: frames) s :=
  ⟨hs.attending.exchange rfl h (fun _ _ _ h => .inr (.inl h)) nofun, hs.always⟩

theorem leads_broadcastTo {due : Bool} (hcalm : .lifecycle true ∉ frames) (ports : List Port) :
    Leads AttendedUntil (Attended (.ordinary due :: frames)) (broadcastTo (c.platform depth) ports)
      fun counts => Attended (.ordinary (due || decide (counts.2 > 0)) :: frames) := by
  induction ports generalizing due with
  | nil =>
    apply Leads.pure
    intro s hs
    simpa only [gt_iff_lt, Nat.lt_irrefl, decide_false, Bool.or_false] using hs
  | cons port ports ih =>
    apply Leads.bind Keeps.table
    intro t
    split
    · have hrenew : Leads AttendedUntil (Attended (.ordinary due :: frames))
          (renew (c.platform depth) port) fun fresh =>
          Attended (.ordinary (due || fresh) :: frames) :=
        Leads.bind (keeps_setOutstanding port).discard fun _ => leads_enqueue hcalm port
      apply hrenew.bind
      intro fresh
      apply ih.bind
      rintro ⟨marked, queued⟩
      apply Leads.pure
      intro s hs
      cases fresh with
      | false => simpa only [Bool.or_false, Bool.false_eq_true, if_false] using hs
      | true =>
        simpa only [Bool.or_true, Bool.true_or, if_true, gt_iff_lt, Nat.succ_pos, decide_true]
          using hs
    · exact ih

theorem leads_broadcast {due : Bool} (hcalm : .lifecycle true ∉ frames) :
    Leads AttendedUntil (Attended (.ordinary due :: frames)) (broadcast (c.platform depth))
      fun counts => Attended (.ordinary (due || decide (counts.2 > 0)) :: frames) := by
  unfold broadcast
  exact leads_broadcastTo hcalm Port.all

theorem leads_takeWord (word : Fin 16) (words : List (Fin 16)) :
    Leads AttendedUntil
      (Attended (.draining (fun _ => False) (fun p => p.word ∈ word :: words) :: frames))
      (onTable fun t => t.takeWord word) fun flagged =>
      Attended (.draining (fun p => p.word = word ∧ p.bit ∈ flagged.toList)
        (fun p => p.word ∈ words) :: frames) := by
  apply Leads.onTable
  intro state history hs
  have hflagged (port : Port) (hword : port.word = word)
      (hflag : state.table.isFlagged port = true) :
      port.bit ∈ (state.table.takeWord word).1.toList := by
    rw [Word.mem_toList, ← hword]
    exact hflag
  -- The ports are captured first, so that none is untracked once the word is empty.
  have hcaptured : Attending (.draining
      (fun p => p.word = word ∧ p.bit ∈ (state.table.takeWord word).1.toList)
      (fun p => p.word ∈ words) :: frames) state history := by
    refine hs.attending.exchange rfl (fun _ _ => False.elim) (fun _ port hport hawaited => ?_) nofun
    rcases List.mem_cons.1 hawaited with hword | hrest
    · rcases hs.attending.tracked port hport with hflag | hnone | houter
      · exact .inl ⟨hword, hflagged port hword hflag⟩
      · cases hnone
      · exact .inr (.inr houter)
    · exact .inr (.inl hrest)
  refine ⟨hcaptured.shrink rfl (fun _ => id) fun port _ hflag => ?_, hs.always⟩
  rw [ActionTable.isFlagged_takeWord]
  split
  next hword => exact .inr (.inl ⟨hword.symm, hflagged port hword.symm hflag⟩)
  · exact .inl hflag

section Calls

variable (hcall : ∀ frames r,
  Leads AttendedUntil (Ready frames r) (call (c.platform depth) r) fun _ => Attended frames)

include hcall

theorem stable : Stable (c.platform depth) AttendedUntil (Attended frames) :=
  ⟨fun r _ _ _ => (hcall frames r).of_pre fun _ hs => hs.ready r, keepsRemarks⟩

section Scan

variable (hcalm : .lifecycle true ∉ frames)

include hcalm

theorem keeps_postpone (port : Port) : Keeps AttendedUntil (Attended (.ordinary false :: frames))
    (postpone (c.platform depth) port) := by
  apply Keeps.interruptsMasked.bind
  intro masked
  split
  · exact keeps_emit _
  · apply (leads_enqueue hcalm port).bind
    intro fresh
    cases fresh with
    | false => exact .pure fun _ => id
    | true => exact hcall (.ordinary false :: frames) .queueDeferred

theorem keeps_service (port : Port) (kind : Kind) :
    Keeps AttendedUntil (Attended (.ordinary false :: frames))
      (service (c.platform depth) port kind) := by
  have hsuspend : Keeps AttendedUntil (Attended (.ordinary false :: frames))
      (service (c.platform depth) port .suspend) := by
    apply (leads_broadcast hcalm).bind
    rintro ⟨marked, queued⟩
    apply Leads.bind (keeps_emit _)
    intro _
    apply Leads.guarded
    · intro hqueued
      rw [decide_eq_true hqueued]
      exact hcall (.ordinary false :: frames) .queueDeferred
    · intro hnone
      rw [decide_eq_false hnone]
      exact fun _ => id
    · exact fun _ => .pure fun _ => id
  have hnormal : Keeps AttendedUntil (Attended (.ordinary false :: frames))
      (service (c.platform depth) port .normal) :=
    keeps_service_normal (stable hcall) fun handler =>
      hcall (.ordinary false :: frames) (.handle .inline handler port)
  exact keeps_service_of_kinds (stable hcall) (fun _ => hnormal) (keeps_setOutstanding port)
    (keeps_postpone hcall hcalm port) hsuspend

end Scan

theorem keeps_scannerPass : Keeps AttendedUntil (Attended (.ordinary false :: frames))
    (scannerPass (c.platform depth)) := by
  by_cases hcalm : .lifecycle true ∈ frames
  · -- Calm means masked, so the pass returns before it can queue anything.
    apply Leads.interruptsMasked.bind
    intro masked
    split
    · exact Leads.bind (Leads.of_pre (keeps_emit _) fun s hs => hs.1) fun _ => .pure fun _ => id
    next hopen =>
      constructor
      intro s hs
      obtain ⟨hs, rfl⟩ := hs
      exact absurd (hs.attending.calm (List.mem_cons_of_mem _ hcalm)).1 hopen
  · apply Guest.keeps_scannerPass (stable hcall) (fun _ => keeps_onPage _) fun _ => keeps_onPage _
    intro word bit
    have hslots : SlotIndifferent (c.platform depth) AttendedUntil
        (Attended (.ordinary false :: frames)) := slotIndifferent
    have hdeliver (port : Port) : Keeps AttendedUntil (Attended (.ordinary false :: frames))
        (deliver (c.platform depth) port) :=
      keeps_deliver (hslots.countDelivery port) (fun _ _ => keeps_emit _)
        (keeps_service hcall hcalm port)
    have hconsume := keeps_consume (stable hcall) (keeps_onPage (PageM.clearAt word bit))
      (keeps_emit (.consumed word bit)) hdeliver
    exact Leads.of_pre hconsume fun s hs => hs.1

theorem leads_runItem (port : Port) :
    Leads AttendedUntil (Attended (.draining captured awaited :: frames))
      (runItem (c.platform depth) port) fun _ =>
      Attended (.draining (fun q => captured q ∧ q ≠ port) awaited :: frames) := by
  have hclaim : Leads AttendedUntil (Attended (.draining captured awaited :: frames))
      (onTable fun t => t.claim port) fun _ =>
      Attended (.draining (fun q => captured q ∧ q ≠ port) awaited :: frames) := by
    apply Leads.onTable
    intro state history hs
    have hqueued (q : Port) (hq : (state.table.claim port).2.isQueued q = true) :
        port ≠ q ∧ state.table.isQueued q = true := by
      rw [ActionTable.isQueued_claim] at hq
      split at hq
      · cases hq
      next hne => exact ⟨hne, hq⟩
    have hclaimed : Attended (.draining captured awaited :: frames)
        ⟨{ state with table := (state.table.claim port).2 }, history⟩ :=
      ⟨hs.attending.shrink rfl (fun q hq => (hqueued q hq).2) fun _ _ => .inl, hs.always⟩
    exact hclaimed.recapture fun q hq hcaptured => ⟨hcaptured, (hqueued q hq).1.symm⟩
  exact Guest.leads_runItem (stable hcall) hclaim (keeps_emit _) fun handler =>
    hcall _ (.handle .deferred handler port)

theorem leads_runItems (word : Fin 16) (bits : List (Fin 64)) (ran : Nat) :
    Leads AttendedUntil
      (Attended (.draining (fun p => p.word = word ∧ p.bit ∈ bits) awaited :: frames))
      (runItems (c.platform depth) word bits ran) fun _ =>
      Attended (.draining (fun _ => False) awaited :: frames) := by
  induction bits generalizing ran with
  | nil =>
    apply Leads.pure
    exact fun s hs => hs.recapture fun port _ h => absurd h.2 List.not_mem_nil
  | cons bit bits ih =>
    obtain ⟨port, hword, hbit, hcons⟩ := Guest.exists_runItems_cons (P := c.platform depth) word bit
    rw [hcons]
    apply (leads_runItem hcall port).bind
    intro one
    apply (ih _).of_pre
    intro s hs
    apply hs.recapture
    intro q _ h
    obtain ⟨⟨hqword, hqbit⟩, hne⟩ := h
    refine ⟨hqword, (List.mem_cons.1 hqbit).resolve_left fun he => hne ?_⟩
    exact Port.ext_bit (hqword.trans hword.symm) (he.trans hbit.symm)

theorem leads_runWord (word : Fin 16) (words : List (Fin 16)) :
    Leads AttendedUntil
      (Attended (.draining (fun _ => False) (fun p => p.word ∈ word :: words) :: frames))
      (runWord (c.platform depth) word) fun _ =>
      Attended (.draining (fun _ => False) (fun p => p.word ∈ words) :: frames) := by
  apply (leads_takeWord word words).bind
  intro flagged
  rw [runFlagged_eq]
  exact leads_runItems hcall word flagged.toList 0

/-- The run ends early only if interrupts are masked, when nothing need be awaited. -/
theorem leads_runWords (words : List (Fin 16)) (ran : Nat) :
    Leads AttendedUntil
      (Attended (.draining (fun _ => False) (fun p => p.word ∈ words) :: frames))
      (runWords (c.platform depth) words ran) fun _ =>
      Attended (.draining (fun _ => False) (fun _ => False) :: frames) := by
  induction words generalizing ran with
  | nil =>
    apply Leads.pure
    intro s hs
    refine ⟨hs.attending.exchange rfl (fun _ _ => id) (fun _ _ _ hmem => ?_) nofun, hs.always⟩
    exact absurd hmem List.not_mem_nil
  | cons word words ih =>
    apply Leads.interruptsMasked.bind
    intro masked
    split
    next hmasked =>
      have hstop : Leads AttendedUntil (fun s => Attended (.draining (fun _ => False)
          (fun p => p.word ∈ word :: words) :: frames) s ∧ s.channels.interruptsMasked = masked)
          (note (c.platform depth) (.deferredPassStopped word)) fun _ =>
          Attended (.draining (fun _ => False) (fun _ => False) :: frames) := by
        apply Leads.of_pre (keeps_emit _)
        intro s hs
        obtain ⟨hs, rfl⟩ := hs
        refine ⟨hs.attending.exchange rfl (fun _ _ => id) (fun hopen => ?_) nofun, hs.always⟩
        rw [hmasked] at hopen
        cases hopen
      exact hstop.bind fun _ => .pure fun _ => id
    · apply Leads.bind (Leads.of_pre (leads_runWord hcall word words) fun s hs => hs.1)
      exact fun more => ih _

theorem leads_deferredPass :
    Leads AttendedUntil (Attended (.draining (fun _ => False) (fun _ => True) :: frames))
      (deferredPass (c.platform depth)) fun _ =>
      Attended (.draining (fun _ => False) (fun _ => False) :: frames) := by
  apply (leads_runWords hcall (List.finRange 16) 0).of_pre
  intro s hs
  refine ⟨hs.attending.exchange rfl (fun _ _ => id) (fun _ port _ _ => ?_) nofun, hs.always⟩
  exact .inr (.inl (List.mem_finRange port.word))

end Calls

end Attended

end EventChannel
