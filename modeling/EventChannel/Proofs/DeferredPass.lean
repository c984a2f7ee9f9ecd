import EventChannel.Proofs.Keeping.Scan
import EventChannel.Proofs.ScannerPass.Bits
import EventChannel.Proofs.ScannerPass.Dispatch

namespace EventChannel

open Guest

namespace Port

/-- The ports that bits of a word of a private bitmap belong to. -/
def ofWord (word : Fin 16) (bits : List (Fin 64)) : List Port :=
  ofBits (bits.map fun bit => (word.castLE words_le_pageWords, bit))

theorem mem_ofWord {word : Fin 16} {bits : List (Fin 64)} {p : Port} :
    p ∈ ofWord word bits ↔ p.word = word ∧ p.bit ∈ bits := by
  rw [ofWord, mem_ofBits, List.mem_map]
  constructor
  · rintro ⟨bit, hbit, he⟩
    obtain ⟨hword, rfl⟩ := Prod.ext_iff.1 he
    exact ⟨Fin.ext (congrArg Fin.val hword).symm, hbit⟩
  · rintro ⟨rfl, hbit⟩
    exact ⟨p.bit, hbit, rfl⟩

theorem ofWord_nil (word : Fin 16) : ofWord word [] = [] := rfl

theorem ofWord_cons {word : Fin 16} {bit : Fin 64} {p : Port} {bits : List (Fin 64)}
    (hword : p.word = word) (hbit : p.bit = bit) :
    ofWord word (bit :: bits) = p :: ofWord word bits := by
  subst hword hbit
  have hport : at? (p.word.castLE words_le_pageWords) p.bit = some p :=
    at?_eq_some_iff.2 ⟨rfl, rfl⟩
  rw [ofWord, ofBits, List.map_cons, List.filterMap_cons, hport]
  rfl

theorem pairwise_ofWord (word : Fin 16) {bits : List (Fin 64)} (h : bits.Pairwise (· < ·)) :
    (ofWord word bits).Pairwise fun p q => p.index < q.index := by
  rw [ofWord, ofBits, List.pairwise_filterMap, List.pairwise_map]
  apply h.imp
  intro b b' hlt p hp q hq
  change p.index.val < q.index.val
  rw [index_of_at? hp, index_of_at? hq]
  exact Nat.add_lt_add_left hlt _

end Port

/-- The handler start that a deferred pass owes to a port with the slot. The port has to be queued, and
its action has to be of the deferred kind that is published. -/
def Slot.deferredStart? (s : Slot) (port : Port) : Option Request :=
  match s.work.queued, s.kind, s.action with
  | true, .deferredProcedure, .deferredProcedure handler => some (.handle .deferred handler port)
  | true, .deferredHardwareIrq, .deferredHardwareIrq irq =>
    some (.handle .deferred irq.handler port)
  | _, _, _ => none

namespace ActionTable

def deferredStart? (t : ActionTable) (port : Port) : Option Request :=
  (t.slot port).deferredStart? port

/-- The handler starts that deferred passes owe to ports, in turn. -/
def deferredStarts (t : ActionTable) (ports : List Port) : List Request :=
  ports.filterMap t.deferredStart?

/-- The table without queued work, and without bits that tell of any. -/
def withoutWork (t : ActionTable) : ActionTable :=
  { t with slots := t.slots.map fun s => { s with work := .new }, queued := .replicate 16 .empty }

/-- The ports that a word of the bitmap flags, lowest first. -/
def flaggedIn (t : ActionTable) (word : Fin 16) : List Port :=
  Port.ofWord word (t.queued.word word).toList

/-- A table that differs from another in this only: the work items of some ports are off the queue, and
some words of the bitmap have been taken. -/
structure Spent (t : ActionTable) (done : List Port) (taken : List (Fin 16)) (u : ActionTable) :
    Prop where
  slot : ∀ q, u.slot q = { t.slot q with work := ⟨t.isQueued q && !done.contains q⟩ }
  outstanding : u.outstanding = t.outstanding
  queued : ∀ w, u.queued.word w = if w ∈ taken then .empty else t.queued.word w

variable {t u : ActionTable} {done : List Port} {taken : List (Fin 16)} {port : Port}

theorem deferredStart?_eq (t : ActionTable) (port : Port) : t.deferredStart? port =
    if t.isQueued port ∧ (t.kind port).isDeferred then
      (t.handler? port (t.kind port)).map fun handler => .handle .deferred handler port
    else none := by
  unfold deferredStart? Slot.deferredStart? handler? Slot.handler? isQueued kind
  cases (t.slot port).work.queued with
  | false => rfl
  | true => cases (t.slot port).kind <;> cases (t.slot port).action <;> rfl

theorem deferredStart?_of_not_queued (h : t.isQueued port = false) :
    t.deferredStart? port = none := by
  rw [deferredStart?_eq, h, if_neg fun h => Bool.false_ne_true h.1]

theorem deferredStarts_append (earlier later : List Port) :
    t.deferredStarts (earlier ++ later) = t.deferredStarts earlier ++ t.deferredStarts later :=
  List.filterMap_append

theorem deferredStarts_singleton (port : Port) :
    t.deferredStarts [port] = (t.deferredStart? port).toList := by
  rw [deferredStarts, List.filterMap_cons, List.filterMap_nil]
  cases t.deferredStart? port <;> rfl

/-- Ports that are not flagged are owed nothing if every queued port is flagged. -/
theorem deferredStarts_filter (hflagged : ∀ p, t.isQueued p = true → t.isFlagged p = true)
    (ports : List Port) : t.deferredStarts (ports.filter t.isFlagged) = t.deferredStarts ports := by
  rw [deferredStarts, List.filterMap_filter]
  apply List.filterMap_congr
  intro p _
  split
  · rfl
  next hnot =>
    have hqueued : t.isQueued p = false := by
      rw [← Bool.not_eq_true]
      exact fun hqueued => hnot (hflagged p hqueued)
    exact (deferredStart?_of_not_queued hqueued).symm

@[simp] theorem slot_withoutWork (t : ActionTable) (q : Port) :
    t.withoutWork.slot q = { t.slot q with work := .new } := by
  simp only [withoutWork, slot, Fin.getElem_fin, Vector.getElem_map]

@[simp] theorem isQueued_withoutWork (t : ActionTable) (q : Port) :
    t.withoutWork.isQueued q = false := by
  rw [isQueued, slot_withoutWork]
  rfl

@[simp] theorem isFlagged_withoutWork (t : ActionTable) (q : Port) :
    t.withoutWork.isFlagged q = false := by
  rw [isFlagged, withoutWork, Bitmap.test_replicate, Word.test_empty]

theorem mem_flaggedIn {word : Fin 16} {q : Port} :
    q ∈ t.flaggedIn word ↔ q.word = word ∧ t.isFlagged q = true := by
  rw [flaggedIn, Port.mem_ofWord, Word.mem_toList]
  constructor
  · rintro ⟨rfl, hflagged⟩
    exact ⟨rfl, hflagged⟩
  · rintro ⟨rfl, hflagged⟩
    exact ⟨rfl, hflagged⟩

/-- Going through the words comes to the flagged ports in their order. -/
theorem flatMap_flaggedIn (t : ActionTable) :
    (List.finRange 16).flatMap t.flaggedIn = Port.all.filter t.isFlagged := by
  apply Port.eq_filter_all
  · rw [List.pairwise_flatMap]
    refine ⟨fun w _ => Port.pairwise_ofWord w ((List.pairwise_lt_finRange 64).filter _), ?_⟩
    apply (List.pairwise_lt_finRange 16).imp
    intro w w' hlt p hp q hq
    obtain ⟨rfl, -⟩ := mem_flaggedIn.1 hp
    obtain ⟨rfl, -⟩ := mem_flaggedIn.1 hq
    have hval : p.index.val / 64 < q.index.val / 64 := hlt
    change p.index.val < q.index.val
    omega
  · intro p
    rw [List.mem_flatMap]
    constructor
    · rintro ⟨w, -, hp⟩
      exact (mem_flaggedIn.1 hp).2
    · exact fun hp => ⟨p.word, List.mem_finRange _, mem_flaggedIn.2 ⟨rfl, hp⟩⟩

namespace Spent

theorem refl (t : ActionTable) : t.Spent [] [] t := by
  refine ⟨fun q => ?_, rfl, fun w => (if_neg List.not_mem_nil).symm⟩
  rw [List.contains_nil, Bool.not_false, Bool.and_true]
  rfl

theorem kind (h : t.Spent done taken u) (q : Port) : u.kind q = t.kind q := by
  rw [ActionTable.kind, h.slot]
  rfl

theorem handler (h : t.Spent done taken u) (q : Port) (expected : Kind) :
    u.handler? q expected = t.handler? q expected := by
  rw [handler?, h.slot]
  rfl

theorem isQueued (h : t.Spent done taken u) (hport : port ∉ done) :
    u.isQueued port = t.isQueued port := by
  have hnot : done.contains port = false := by
    rw [← Bool.not_eq_true, List.contains_iff_mem]
    exact hport
  rw [ActionTable.isQueued, h.slot, hnot, Bool.not_false, Bool.and_true]

theorem claim (h : t.Spent done taken u) (port : Port) :
    t.Spent (done ++ [port]) taken (u.claim port).2 := by
  refine ⟨fun q => ?_, h.outstanding, h.queued⟩
  change (u.setWork port ⟨false⟩).slot q = _
  rw [setWork, slot_modifySlot, h.slot, List.contains_append, contains_singleton]
  by_cases hq : port = q
  · rw [if_pos hq, decide_eq_true hq, Bool.or_true, Bool.not_true, Bool.and_false]
  · rw [if_neg hq, decide_eq_false hq, Bool.or_false]

theorem takeWord (h : t.Spent done taken u) (word : Fin 16) :
    t.Spent done (taken ++ [word]) (u.takeWord word).2 := by
  refine ⟨h.slot, h.outstanding, fun w => ?_⟩
  change (u.queued.setWord word .empty).word w = _
  rw [Bitmap.word_setWord, h.queued]
  by_cases hw : word = w
  · rw [if_pos hw, if_pos (List.mem_append_right _ (List.mem_singleton.2 hw.symm))]
  · have hiff : w ∈ taken ++ [word] ↔ w ∈ taken := by
      rw [List.mem_append, List.mem_singleton, or_iff_left fun he => hw he.symm]
    simp only [hw, if_false, hiff]

/-- A lookup in the table as it has become finds the handler that is owed to a queued port. -/
theorem deferredStart?_eq_some (h : t.Spent done taken u) {handler : HandlerName}
    (hqueued : t.isQueued port = true) (hdeferred : (u.kind port).isDeferred = true)
    (hhandler : u.handler? port (u.kind port) = some handler) :
    t.deferredStart? port = some (.handle .deferred handler port) := by
  rw [h.kind] at hdeferred hhandler
  rw [deferredStart?_eq, if_pos ⟨hqueued, hdeferred⟩, ← h.handler, hhandler]
  rfl

theorem deferredStart?_eq_none (h : t.Spent done taken u)
    (hhandler : (u.kind port).isDeferred = true → u.handler? port (u.kind port) = none) :
    t.deferredStart? port = none := by
  rw [h.kind, h.handler] at hhandler
  rw [deferredStart?_eq]
  split
  next hdeferred => rw [hhandler hdeferred.2, Option.map_none]
  next => rfl

/-- When all words have been taken and all flagged ports are done, no work is left. -/
theorem eq_withoutWork (h : t.Spent (Port.all.filter t.isFlagged) (List.finRange 16) u)
    (hflagged : ∀ p, t.isQueued p = true → t.isFlagged p = true) : u = t.withoutWork := by
  have hqueued : u.queued = .replicate 16 .empty := by
    apply Bitmap.ext_test
    intro w b
    rw [Bitmap.test, h.queued, if_pos (List.mem_finRange w), Bitmap.test_replicate]
  apply ext_ports
  · intro q
    have hdone : (t.isQueued q && !(Port.all.filter t.isFlagged).contains q) = false := by
      cases hq : t.isQueued q with
      | false => rfl
      | true =>
        rw [List.contains_iff_mem.2 (List.mem_filter.2 ⟨q.mem_all, hflagged q hq⟩)]
        rfl
    rw [h.slot, hdone, slot_withoutWork]
    rfl
  · intro q
    rw [isOutstanding, h.outstanding]
    rfl
  · intro q
    rw [isFlagged, hqueued]
    rfl

end Spent

end ActionTable

namespace Guest

variable {c : Client} {lost : System History → Prop} {start : Channels} {requests : List Request}
  {dispatched done : List Port} {taken : List (Fin 16)}

/-- The items of some ports have been run and some words of the bitmap taken, since the history told
of certain calls and dispatches. -/
def Drained (start : Channels) (requests : List Request) (dispatched done : List Port)
    (taken : List (Fin 16)) (s : System History) : Prop :=
  ∃ u, Held (History.Tells (requests ++ start.table.deferredStarts done) dispatched)
    { start with table := u } s ∧ start.table.Spent done taken u

/-- An item has been run, and the handler that was owed to its port has been started. -/
theorem drained_append {port : Port} {u : ActionTable} {made : Option Request} {s : System History}
    (hspent : start.table.Spent (done ++ [port]) taken u)
    (hmade : start.table.deferredStart? port = made)
    (hs : Held (History.Tells (requests ++ start.table.deferredStarts done ++ made.toList)
      dispatched) { start with table := u } s) :
    Drained start requests dispatched (done ++ [port]) taken s ∧
      made.isSome = (start.table.deferredStart? port).isSome := by
  subst hmade
  refine ⟨⟨u, ?_, hspent⟩, rfl⟩
  rw [ActionTable.deferredStarts_append, ActionTable.deferredStarts_singleton, ← List.append_assoc]
  exact hs

theorem drained_append_none {port : Port} {u : ActionTable} {s : System History}
    (hspent : start.table.Spent (done ++ [port]) taken u)
    (hmade : start.table.deferredStart? port = none)
    (hs : Held (History.Tells (requests ++ start.table.deferredStarts done) dispatched)
      { start with table := u } s) :
    Drained start requests dispatched (done ++ [port]) taken s ∧
      false = (start.table.deferredStart? port).isSome := by
  apply drained_append hspent hmade
  rw [Option.toList_none, List.append_nil]
  exact hs

/-- An item is run once, and starts a handler exactly if one is owed to its port. -/
theorem leads_runItem_drained {port : Port} (hport : port ∉ done) :
    Leads lost (Drained start requests dispatched done taken) (runItem (c.platform 0) port)
      fun one s => Drained start requests dispatched (done ++ [port]) taken s ∧
        one = (start.table.deferredStart? port).isSome := by
  apply Leads.of_exists
  intro u
  apply Leads.assume
  intro hspent
  let calls := requests ++ start.table.deferredStarts done
  let after : Channels := { start with table := (u.claim port).2 }
  have hafter : start.table.Spent (done ++ [port]) taken after.table := hspent.claim port
  -- What is claimed, and then seen, is the item of a port that was queued as the pass began.
  let claimed (s : System History) : Prop :=
    Held (History.Tells calls dispatched) after s ∧ start.table.isQueued port = true
  have hclaim : Leads lost (Held (History.Tells calls dispatched) { start with table := u })
      (onTable fun t => t.claim port) fun found s =>
        if found then claimed s else
          Drained start requests dispatched (done ++ [port]) taken s ∧
            false = (start.table.deferredStart? port).isSome := by
    apply held_onTable_eq.of_post
    rintro found s ⟨rfl, hs⟩
    have hfound : (u.claim port).1 = start.table.isQueued port := hspent.isQueued hport
    dsimp only
    rw [hfound]
    cases hqueued : start.table.isQueued port with
    | true => exact ⟨hs, hqueued⟩
    | false =>
      exact drained_append_none hafter (ActionTable.deferredStart?_of_not_queued hqueued) hs
  have hseen : Keeps lost claimed (emit (c.platform 0) (.workClaimed port)) := by
    apply Leads.assume
    intro hqueued
    apply Leads.of_post (held_told rfl)
    exact fun _ s hs => ⟨hs, hqueued⟩
  apply leads_runItem_of_claim hclaim hseen
  · intro handler
    constructor
    rintro s ⟨⟨hs, hqueued⟩, hdeferred, hhandler⟩
    rw [hs.channels] at hdeferred hhandler
    have hstart := hafter.deferredStart?_eq_some hqueued hdeferred hhandler
    have hcall : Leads lost (Held (History.Tells calls dispatched) after)
        (call (c.platform 0) (.handle .deferred handler port)) fun _ =>
          Held (History.Tells (calls ++ [.handle .deferred handler port]) dispatched) after :=
      held_call _
    exact (hcall.of_post fun _ s hs => drained_append hafter hstart hs).run s hs
  · intro n hn
    constructor
    rintro s ⟨⟨hs, -⟩, hhandler⟩
    rw [hs.channels] at hhandler
    have hstale := hafter.deferredStart?_eq_none hhandler
    have htold : Keeps lost (Held (History.Tells calls dispatched) after)
        (note (c.platform 0) n) := held_told (Notice.isDispatch_of_isRemark hn)
    exact (Leads.of_post htold fun _ s hs => drained_append_none hafter hstale hs).run s hs

theorem leads_runItems_drained (word : Fin 16) (bits : List (Fin 64)) (ran : Nat)
    (hbits : bits.Nodup) (hfresh : ∀ port ∈ done, port.word = word → port.bit ∉ bits) :
    Leads lost (Drained start requests dispatched done taken)
      (runItems (c.platform 0) word bits ran) fun n s =>
        Drained start requests dispatched (done ++ Port.ofWord word bits) taken s ∧
        n = ran + (start.table.deferredStarts (Port.ofWord word bits)).length := by
  induction bits generalizing ran done with
  | nil =>
    apply Leads.pure
    intro s hs
    rw [Port.ofWord_nil, List.append_nil]
    exact ⟨hs, rfl⟩
  | cons bit bits ih =>
    obtain ⟨port, hword, hbit, hcons⟩ := exists_runItems_cons (P := c.platform 0) word bit
    obtain ⟨hnew, hbits⟩ := List.nodup_cons.1 hbits
    have hport : port ∉ done := fun hmem => hfresh port hmem hword (hbit ▸ List.mem_cons_self)
    have hfresh' : ∀ q ∈ done ++ [port], q.word = word → q.bit ∉ bits := by
      intro q hq hqword hqbit
      rcases List.mem_append.1 hq with hq | hq
      · exact hfresh q hq hqword (List.mem_cons_of_mem _ hqbit)
      · rw [List.mem_singleton.1 hq, hbit] at hqbit
        exact hnew hqbit
    rw [hcons, Port.ofWord_cons hword hbit]
    apply (leads_runItem_drained hport).bind
    intro one
    apply Leads.assume
    intro hone
    apply (ih _ hbits hfresh').of_post
    intro n s hs
    rw [List.append_assoc] at hs
    refine ⟨hs.1, hs.2.trans ?_⟩
    rw [hone, ActionTable.deferredStarts, ActionTable.deferredStarts, List.filterMap_cons]
    cases start.table.deferredStart? port with
    | none => rfl
    | some r =>
      rw [Option.isSome_some, if_pos rfl, List.length_cons]
      omega

/-- A word that has not been taken still flags what it flagged as the pass began. -/
theorem leads_runWord_drained {word : Fin 16} (hword : word ∉ taken)
    (hfresh : ∀ port ∈ done, port.word ≠ word) :
    Leads lost (Drained start requests dispatched done taken) (runWord (c.platform 0) word)
      fun n s => Drained start requests dispatched (done ++ start.table.flaggedIn word)
          (taken ++ [word]) s ∧
        n = (start.table.deferredStarts (start.table.flaggedIn word)).length := by
  have htake : Leads lost (Drained start requests dispatched done taken)
      (onTable fun t => t.takeWord word) fun flagged s =>
        flagged = start.table.queued.word word ∧
        Drained start requests dispatched done (taken ++ [word]) s := by
    apply Leads.of_exists
    intro u
    apply Leads.assume
    intro hspent
    apply held_onTable_eq.of_post
    rintro flagged s ⟨rfl, hs⟩
    exact ⟨(hspent.queued word).trans (if_neg hword), _, hs, hspent.takeWord word⟩
  apply htake.bind_of_eq
  rw [runFlagged_eq]
  apply (leads_runItems_drained word _ 0 ((List.nodup_finRange 64).filter _) _).of_post
  · intro n s hs
    rw [Nat.zero_add] at hs
    exact hs
  · exact fun port hmem hport => absurd hport (hfresh port hmem)

theorem leads_runWords_drained (hmasked : start.interruptsMasked = false) (words : List (Fin 16))
    (ran : Nat) (hwords : words.Nodup) (htaken : ∀ word ∈ words, word ∉ taken)
    (hfresh : ∀ port ∈ done, port.word ∉ words) :
    Leads lost (Drained start requests dispatched done taken) (runWords (c.platform 0) words ran)
      fun n s => Drained start requests dispatched (done ++ words.flatMap start.table.flaggedIn)
          (taken ++ words) s ∧
        n = ran + (start.table.deferredStarts (words.flatMap start.table.flaggedIn)).length := by
  induction words generalizing ran done taken with
  | nil =>
    apply Leads.pure
    intro s hs
    rw [List.flatMap_nil, List.append_nil, List.append_nil]
    exact ⟨hs, rfl⟩
  | cons word words ih =>
    obtain ⟨hnew, hwords⟩ := List.nodup_cons.1 hwords
    have hopen : Leads lost (Drained start requests dispatched done taken) interruptsMasked
        fun masked s => masked = false ∧ Drained start requests dispatched done taken s := by
      constructor
      rintro s ⟨u, hs, hspent⟩
      exact ⟨(congrArg Channels.interruptsMasked hs.channels).trans hmasked, u, hs, hspent⟩
    have hword : ∀ port ∈ done, port.word ≠ word :=
      fun port hmem he => hfresh port hmem (he ▸ List.mem_cons_self)
    apply hopen.bind_of_eq
    rw [if_neg Bool.false_ne_true]
    apply (leads_runWord_drained (htaken word List.mem_cons_self) hword).bind
    intro more
    apply Leads.assume
    intro hmore
    apply (ih (ran + more) hwords _ _).of_post
    · intro n s hs
      rw [List.flatMap_cons, ← List.append_assoc, List.append_cons]
      refine ⟨hs.1, ?_⟩
      rw [hs.2, hmore, ActionTable.deferredStarts_append, List.length_append, Nat.add_assoc]
    · intro w hw hmem
      rcases List.mem_append.1 hmem with hmem | hmem
      · exact htaken w (List.mem_cons_of_mem _ hw) hmem
      · exact hnew (List.mem_singleton.1 hmem ▸ hw)
    · intro port hmem hport
      rcases List.mem_append.1 hmem with hmem | hmem
      · exact hfresh port hmem (List.mem_cons_of_mem _ hport)
      · exact hnew ((ActionTable.mem_flaggedIn.1 hmem).1 ▸ hport)

theorem leads_deferredPass (hmasked : start.interruptsMasked = false)
    (hflagged : ∀ p, start.table.isQueued p = true → start.table.isFlagged p = true) :
    Leads lost (Held (History.Tells requests dispatched) start) (deferredPass (c.platform 0))
      fun n s => n = (start.table.deferredStarts Port.all).length ∧
        Held (History.Tells (requests ++ start.table.deferredStarts Port.all) dispatched)
          { start with table := start.table.withoutWork } s := by
  have hstarts := ActionTable.deferredStarts_filter hflagged Port.all
  have hwords : Leads lost (Drained start requests dispatched [] []) (deferredPass (c.platform 0))
      fun n s => Drained start requests dispatched ([] ++ (List.finRange 16).flatMap
          start.table.flaggedIn) ([] ++ List.finRange 16) s ∧
        n = 0 + (start.table.deferredStarts
          ((List.finRange 16).flatMap start.table.flaggedIn)).length :=
    leads_runWords_drained hmasked _ 0 (List.nodup_finRange 16) (fun _ _ => List.not_mem_nil)
      fun _ hmem => absurd hmem List.not_mem_nil
  rw [List.nil_append, List.nil_append, Nat.zero_add, ActionTable.flatMap_flaggedIn, hstarts] at hwords
  apply hwords.weaken
  · intro s hs
    refine ⟨start.table, ?_, .refl _⟩
    rw [ActionTable.deferredStarts, List.filterMap_nil, List.append_nil]
    exact hs
  · rintro n s ⟨⟨u, hs, hspent⟩, hn⟩
    rw [hspent.eq_withoutWork hflagged, hstarts] at hs
    exact ⟨hn, hs⟩

/-- A pass over empty words does nothing. -/
theorem leads_runWords_of_empty {σ : Type} {P : Platform σ} {lost : System σ → Prop} {s : System σ}
    (hmasked : s.channels.interruptsMasked = false)
    (hqueued : s.channels.table.queued = .replicate 16 .empty) (words : List (Fin 16)) (ran : Nat) :
    Leads lost (fun s' => s' = s) (runWords P words ran) fun n s' => n = ran ∧ s' = s := by
  have hsame (word : Fin 16) : s.channels.table.takeWord word = (.empty, s.channels.table) := by
    have hqueued' : s.channels.table.queued.setWord word .empty = s.channels.table.queued := by
      apply Bitmap.ext_test
      intro w b
      rw [Bitmap.test_setWord, hqueued, Bitmap.test_replicate, ite_self]
    rw [ActionTable.takeWord, hqueued', hqueued, Bitmap.word_replicate, ← hqueued]
  have hword (word : Fin 16) :
      Leads lost (fun s' => s' = s) (runWord P word) fun more s' => more = 0 ∧ s' = s := by
    have htake : Leads lost (fun s' => s' = s) (onTable fun t => t.takeWord word) fun flagged s' =>
        flagged = .empty ∧ s' = s := by
      apply Leads.onTable
      rintro c o rfl
      rw [hsame word]
      exact ⟨rfl, rfl⟩
    apply htake.bind_of_eq
    rw [runFlagged_eq, Word.toList_empty]
    exact .pure fun _ hs => ⟨rfl, hs⟩
  induction words with
  | nil => exact .pure fun _ hs => ⟨rfl, hs⟩
  | cons word words ih =>
    have hopen : Leads lost (fun s' => s' = s) interruptsMasked fun masked s' =>
        masked = false ∧ s' = s := by
      constructor
      rintro _ rfl
      exact ⟨hmasked, rfl⟩
    apply hopen.bind_of_eq
    rw [if_neg Bool.false_ne_true]
    apply (hword word).bind_of_eq
    exact ih

end Guest

/-- When calls do nothing but leave a trace and every queued item is flagged, a deferred pass starts
the handlers that are owed to the ports, in order, and returns how many it started. It leaves no
work and no flag, and everything else as it was, so that another pass finds nothing to do. -/
theorem deferred_pass_meets_specification (c : Client) {s : System History}
    (hmasked : s.channels.interruptsMasked = false)
    (hflagged : ∀ p, s.channels.table.isQueued p = true → s.channels.table.isFlagged p = true) :
    ∃ s', deferredPass (c.platform 0) s =
        .ok (s.channels.table.deferredStarts Port.all).length s' ∧
      s'.outside.requests = s.outside.requests ++ s.channels.table.deferredStarts Port.all ∧
      s'.channels = { s.channels with table := s.channels.table.withoutWork } ∧
      deferredPass (c.platform 0) s' = .ok 0 s' := by
  have hstart : Held (History.Tells s.outside.requests s.outside.dispatched) s.channels s :=
    ⟨rfl, rfl, rfl⟩
  obtain ⟨n, s', hrun, hn, hs'⟩ := (leads_deferredPass hmasked hflagged).exists_ok hstart
  rw [hn] at hrun
  have hmasked' : s'.channels.interruptsMasked = false := by
    rw [hs'.channels]
    exact hmasked
  have hqueued' : s'.channels.table.queued = .replicate 16 .empty := by
    rw [hs'.channels]
    rfl
  obtain ⟨n, after, hagain, rfl, hafter⟩ :=
    (leads_runWords_of_empty hmasked' hqueued' (List.finRange 16) 0).exists_ok rfl
  rw [hafter] at hagain
  exact ⟨s', hrun, hs'.outside.1, hs'.channels, hagain⟩

/-- Port 2 is queued without a deferred action, the kind of port 3 has been withdrawn, and port 70 is
flagged without an item. -/
theorem deferred_pass_meets_specification_stale :
    let slot : Nat → Slot
      | 1 => ⟨.deferredProcedure, .deferredProcedure "ring", 0, ⟨true⟩, 0⟩
      | 2 => ⟨.normal, .normal "timer", 0, ⟨true⟩, 0⟩
      | 3 => ⟨.empty, .deferredProcedure "disk", 0, ⟨true⟩, 0⟩
      | 65 => ⟨.deferredHardwareIrq, .deferredHardwareIrq ⟨"line", 11, "serial"⟩, 0, ⟨true⟩, 0⟩
      | _ => .powerOn
    let flags : Bitmap 16 := [(0, 1), (0, 2), (0, 3), (1, 1), (1, 6)].foldl
      (fun m x => m.insert x.1 x.2) (.replicate 16 .empty)
    let start : Channels := ⟨.zero, ⟨Vector.ofFn fun i => slot i.val, .replicate 16 .empty, flags⟩,
      { callbackIrq := 5 }, false, false, none⟩
    start.interruptsMasked = false ∧
    (∀ p, start.table.isQueued p = true → start.table.isFlagged p = true) ∧
    ∃ s', deferredPass (Client.reraising.platform 0) ⟨start, []⟩ = .ok 2 s' ∧
      s'.outside.requests = [.handle .deferred "ring" ⟨1⟩, .handle .deferred "line" ⟨65⟩] ∧
      s'.channels = { start with table := start.table.withoutWork } ∧
      deferredPass (Client.reraising.platform 0) s' = .ok 0 s' := by
  intro slot flags start
  have hslot (p : Port) : start.table.slot p = slot p.index.val := Vector.getElem_ofFn p.index.isLt
  have hflagged (p : Port) (hp : start.table.isQueued p = true) : start.table.isFlagged p = true := by
    rw [ActionTable.isQueued, hslot] at hp
    dsimp only [slot] at hp
    split at hp
    next hi =>
      obtain rfl : p = ⟨1⟩ := Port.ext (Fin.ext hi)
      decide +kernel
    next hi =>
      obtain rfl : p = ⟨2⟩ := Port.ext (Fin.ext hi)
      decide +kernel
    next hi =>
      obtain rfl : p = ⟨3⟩ := Port.ext (Fin.ext hi)
      decide +kernel
    next hi =>
      obtain rfl : p = ⟨65⟩ := Port.ext (Fin.ext hi)
      decide +kernel
    next => cases hp
  have hports : Port.all.filter start.table.isFlagged = [⟨1⟩, ⟨2⟩, ⟨3⟩, ⟨65⟩, ⟨70⟩] := by
    decide +kernel
  have hstarts : start.table.deferredStarts Port.all =
      [.handle .deferred "ring" ⟨1⟩, .handle .deferred "line" ⟨65⟩] := by
    have hstart : start.table.deferredStart? = fun p => (slot p.index.val).deferredStart? p :=
      funext fun p => congrArg (fun s : Slot => s.deferredStart? p) (hslot p)
    rw [← ActionTable.deferredStarts_filter hflagged, hports, ActionTable.deferredStarts, hstart]
    rfl
  obtain ⟨s', hrun, hrequests, hchannels, hagain⟩ :=
    deferred_pass_meets_specification Client.reraising (s := ⟨start, []⟩) rfl hflagged
  rw [hstarts] at hrun hrequests
  exact ⟨rfl, hflagged, s', hrun, hrequests, hchannels, hagain⟩

end EventChannel
