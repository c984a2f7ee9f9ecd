import EventChannel.Proofs.BoundedPass.Steps
import EventChannel.Proofs.Invocation

namespace EventChannel

open Guest

/-- What the entries of a pass tell that it has done so far. -/
structure Telling (selector : Word) (start : SharedPage) (bits : List (Fin 64 × Fin 64))
    (ports : List Port) (kinds : List Kind) (own : History) (state : Channels) : Prop where
  steps : own.Always (Entry.IsPassStep selector start)
  page : state.page = own.latestPage start
  taken : own.taken = bits
  dispatched : own.dispatched = ports
  kinds : own.dispatchedKinds = kinds

namespace Telling

variable {selector : Word} {start : SharedPage} {bits : List (Fin 64 × Fin 64)} {ports : List Port}
  {kinds : List Kind} {own : History} {state late : Channels} {port : Port} {depth : Nat}

theorem nil (h : state.page = start) : Telling selector start [] [] [] [] state :=
  ⟨.nil, h, rfl, rfl, rfl⟩

theorem of_page (h : Telling selector start bits ports kinds own state)
    (hpage : late.page = state.page) : Telling selector start bits ports kinds own late :=
  ⟨h.steps, hpage.trans h.page, h.taken, h.dispatched, h.kinds⟩

theorem remarked (h : Telling selector start bits ports kinds own state) {n : Notice}
    (hn : n.isRemark = true) :
    Telling selector start bits ports kinds (.saw depth (.noticed n) state :: own) state := by
  have hstep : (Event.noticed n).IsPassStep selector (own.latestPage start) own state := by
    cases n with
    | delivering => cases hn
    | _ => exact h.page
  have hdispatch := Notice.isDispatch_of_isRemark hn
  constructor
  · exact .cons hstep h.steps
  · rfl
  · exact h.taken
  · exact (History.dispatched_saw hdispatch depth state own).trans h.dispatched
  · exact (History.dispatchedKinds_saw hdispatch depth state own).trans h.kinds

theorem workQueued (h : Telling selector start bits ports kinds own state) {kind : Kind}
    (hpending : ports.getLast? = some port → state.page.isPending port = false) :
    Telling selector start bits ports kinds (.saw depth (.workQueued port kind) state :: own)
      state := by
  obtain ⟨hsteps, hpage, htaken, rfl, hkinds⟩ := h
  exact ⟨.cons ⟨hpage, hpage ▸ hpending⟩ hsteps, rfl, htaken, rfl, hkinds⟩

/-- A bit is told to be taken when the page has it cleared already. -/
theorem consumed {page : SharedPage} {word bit : Fin 64}
    (h : Telling selector start bits ports kinds own { state with page })
    (htakes : page.Takes selector bits word bit)
    (hpage : state.page = page.clearPending word bit) :
    Telling selector start (bits ++ [(word, bit)]) ports kinds
      (.saw depth (.consumed word bit) state :: own) state := by
  obtain ⟨hsteps, rfl, rfl, hdispatched, hkinds⟩ := h
  exact ⟨.cons ⟨htakes, hpage⟩ hsteps, rfl, rfl, hdispatched, hkinds⟩

theorem delivering (h : Telling selector start bits ports kinds own state) {n : UInt64}
    (hlast : bits.getLast? = some (port.pageWord, port.bit))
    (hpending : state.page.isPending port = false) :
    Telling selector start bits (ports ++ [port]) (kinds ++ [state.table.kind port])
      (.saw depth (.noticed (.delivering port (state.table.kind port) n)) state :: own) state := by
  obtain ⟨hsteps, hpage, rfl, rfl, rfl⟩ := h
  exact ⟨.cons ⟨hpage, hlast, rfl, hpage ▸ hpending⟩ hsteps, rfl, rfl, rfl, rfl⟩

theorem called (h : Telling selector start bits ports kinds own state) {r : Request}
    (hr : r.IsPassStep state.page own) :
    Telling selector start bits ports kinds (.called depth r state :: own) state := by
  obtain ⟨hsteps, hpage, htaken, hdispatched, hkinds⟩ := h
  exact ⟨.cons ⟨hpage, hpage ▸ hr⟩ hsteps, rfl, htaken, hdispatched, hkinds⟩

/-- Whatever a call did to the page, the pass goes on from what it finds. -/
theorem answered (h : Telling selector start bits ports kinds own state) {r : Request}
    {reply : r.Reply} :
    Telling selector start bits ports kinds (.answered depth r reply late :: own) late :=
  ⟨.cons trivial h.steps, rfl, h.taken, h.dispatched, h.kinds⟩

end Telling

/-- A scanner pass: the history as it begins, its depth, the words that it is to visit, and the page
as it begins to visit them. -/
structure Pass where
  base : History
  depth : Nat
  selector : Word
  page : SharedPage

namespace Pass

variable (pass : Pass)

/-- The pass has taken certain bits and dispatched to the ports among them, under certain kinds. -/
def AtRest (bits : List (Fin 64 × Fin 64)) (kinds : List Kind) : System History → Prop :=
  Own pass.base pass.depth (Telling pass.selector pass.page bits (Port.ofBits bits) kinds)

/-- The pass has cleared a bit that it has yet to tell. -/
def Clearing (word bit : Fin 64) (bits : List (Fin 64 × Fin 64)) (kinds : List Kind) :
    System History → Prop :=
  Own pass.base pass.depth fun own state => ∃ page : SharedPage,
    Telling pass.selector pass.page bits (Port.ofBits bits) kinds own { state with page } ∧
      page.Takes pass.selector bits word bit ∧ state.page = page.clearPending word bit

/-- The pass services an event on a port, which is not pending. -/
def Servicing (port : Port) (bits : List (Fin 64 × Fin 64)) (ports : List Port)
    (kinds : List Kind) : System History → Prop :=
  Own pass.base pass.depth fun own state =>
    Telling pass.selector pass.page bits ports kinds own state ∧
      state.page.isPending port = false

/-- The pass waits for a call that does not return. -/
def Interrupted : System History → Prop :=
  Own pass.base pass.depth fun own _ => own.TellsPass pass.selector pass.page ∧ own.Unanswered

/-- The pass has taken certain bits, and its outcome is the union over what it dispatched. -/
def Scanned (outcome : PassOutcome) (bits : List (Fin 64 × Fin 64)) (s : System History) : Prop :=
  ∃ kinds, pass.AtRest bits kinds s ∧ outcome = .unionOf (kinds.map Kind.outcome)

end Pass

/-- A service makes one call at most, and makes it last. -/
theorem Guest.leads_service_of_call {σ : Type} {P : Platform σ} {lost J post : System σ → Prop}
    {port : Port} {kind : Kind} (hpost : ∀ s, J s → post s) (hnote : KeepsRemarks P lost J)
    (hmark : ∀ port, Keeps lost J (onTable fun t => t.setOutstanding port))
    (henqueue : ∀ port, Keeps lost J (enqueue P port))
    (hqueue : Leads lost J (call P .queueDeferred) fun _ => post)
    (hhandle : ∀ handler, Leads lost J (call P (.handle .inline handler port)) fun _ => post) :
    Leads lost J (service P port kind) fun one s => one = kind.outcome ∧ post s := by
  have hpostpone : Leads lost J (postpone P port) fun _ => post :=
    leads_postpone (Leads.of_post (hnote _ rfl) fun _ => hpost)
      (Leads.of_pre (henqueue port) fun _ hs => hs.1) hqueue hpost
  cases kind with
  | empty => exact Leads.bind (hnote _ rfl) fun _ => .pure fun s hs => ⟨rfl, hpost s hs⟩
  | normal =>
    apply Leads.bind Keeps.table
    intro t
    dsimp only
    split
    · exact (hhandle _).bind fun _ => .pure fun _ hs => ⟨rfl, hs⟩
    · exact Leads.bind (hnote _ rfl) fun _ => .pure fun s hs => ⟨rfl, hpost s hs⟩
  | deferredProcedure => exact hpostpone.bind fun _ => .pure fun _ hs => ⟨rfl, hs⟩
  | deferredHardwareIrq =>
    apply Leads.bind (hmark port).discard
    intro _
    exact hpostpone.bind fun _ => .pure fun _ hs => ⟨rfl, hs⟩
  | suspend =>
    have hbroadcast : Keeps lost J (broadcast P) :=
      keeps_broadcast fun port => keeps_renew (hmark port) (henqueue port)
    apply Leads.bind hbroadcast
    rintro ⟨marked, queued⟩
    apply Leads.bind (hnote _ rfl)
    intro _
    exact Leads.guarded (fun _ => hqueue) (fun _ => hpost) fun _ => .pure fun _ hs => ⟨rfl, hs⟩

namespace Pass

variable {c : Client} {pass : Pass} {bits : List (Fin 64 × Fin 64)} {ports : List Port}
  {kinds : List Kind} {outcome : PassOutcome} {port : Port} {word bit : Fin 64}

theorem servicing_onTable {α : Type} {f : ActionTable → α × ActionTable} :
    Keeps pass.Interrupted (pass.Servicing port bits ports kinds) (onTable f) :=
  Own.leads_onTable fun _ _ hs => ⟨hs.1.of_page rfl, hs.2⟩

theorem leads_service (hlast : (Port.ofBits bits).getLast? = some port) {kind : Kind} :
    Leads pass.Interrupted (pass.Servicing port bits (Port.ofBits bits) kinds)
      (service (c.platform pass.depth) port kind) fun one s =>
        one = kind.outcome ∧ pass.AtRest bits kinds s := by
  have hcall (r : Request) (hr : ∀ own state,
      Telling pass.selector pass.page bits (Port.ofBits bits) kinds own state ∧
        state.page.isPending port = false → r.IsPassStep state.page own) :
      Leads pass.Interrupted (pass.Servicing port bits (Port.ofBits bits) kinds)
        (call (c.platform pass.depth) r) fun _ => pass.AtRest bits kinds := by
    apply Own.leads_call
    · intro own state late hs
      have hcalled : Telling pass.selector pass.page bits (Port.ofBits bits) kinds
          (.called pass.depth r state :: own) state := hs.1.called (hr own state hs)
      refine ⟨History.tellsPass_of_steps hcalled.steps ?_, trivial⟩
      rw [hcalled.dispatched, hcalled.taken]
    · exact fun own state reply late hs => (hs.1.called (hr own state hs)).answered
  have hqueued (q : Port) (kind : Kind) :
      Keeps pass.Interrupted (pass.Servicing port bits (Port.ofBits bits) kinds)
        (emit (c.platform pass.depth) (.workQueued q kind)) := by
    apply Own.leads_emit
    rintro own state ⟨hs, hpending⟩
    refine ⟨hs.workQueued fun hq => ?_, hpending⟩
    obtain rfl := Option.some.inj (hq.symm.trans hlast)
    exact hpending
  apply leads_service_of_call
  · exact fun s hs => hs.mono fun _ hs => hs.1
  · exact fun n hn => Own.leads_emit fun _ _ hs => ⟨hs.1.remarked hn, hs.2⟩
  · exact fun _ => servicing_onTable
  · exact fun _ => keeps_enqueue servicing_onTable fun kind => hqueued _ kind
  · exact hcall _ fun _ _ _ => trivial
  · intro handler
    apply hcall
    intro own state hs
    exact ⟨rfl, hs.1.dispatched ▸ hlast, hs.2⟩

/-- A port is dispatched under the kind that is published as its event is told. -/
theorem leads_deliver (hlast : bits.getLast? = some (port.pageWord, port.bit))
    (hports : Port.ofBits bits = ports ++ [port]) :
    Leads pass.Interrupted (pass.Servicing port bits ports kinds)
      (deliver (c.platform pass.depth) port) fun one s =>
        ∃ kind : Kind, one = kind.outcome ∧ pass.AtRest bits (kinds ++ [kind]) s := by
  apply Leads.bind servicing_onTable
  intro deliveries
  apply Leads.table.bind
  intro t
  have hseen : Leads pass.Interrupted
      (fun s => pass.Servicing port bits ports kinds s ∧ s.channels.table = t)
      (note (c.platform pass.depth) (.delivering port (t.kind port) deliveries)) fun _ =>
        pass.Servicing port bits (Port.ofBits bits) (kinds ++ [t.kind port]) := by
    apply Client.leads_emit
    rintro state o ⟨⟨own, hsince, hs, hpending⟩, rfl⟩
    refine ⟨_, hsince.cons rfl, ?_, hpending⟩
    rw [hports]
    exact hs.delivering hlast hpending
  apply hseen.bind
  intro _
  have hport : (Port.ofBits bits).getLast? = some port := by
    rw [hports, List.getLast?_append, List.getLast?_singleton, Option.some_or]
  exact (leads_service hport).of_post fun one s hs => ⟨t.kind port, hs⟩

theorem leads_clear :
    Leads pass.Interrupted
      (fun s => pass.AtRest bits kinds s ∧ s.channels.page.Takes pass.selector bits word bit)
      (onPage (PageM.clearAt word bit)) fun _ => pass.Clearing word bit bits kinds := by
  apply Leads.onPage
  rintro state o ⟨⟨own, hsince, hs⟩, htakes⟩
  rw [PageM.clearAt_run]
  exact ⟨own, hsince, state.page, hs, htakes, rfl⟩

theorem leads_tell :
    Leads pass.Interrupted (pass.Clearing word bit bits kinds)
      (emit (c.platform pass.depth) (.consumed word bit)) fun _ =>
        Own pass.base pass.depth fun own state =>
          Telling pass.selector pass.page (bits ++ [(word, bit)]) (Port.ofBits bits) kinds own
            state ∧ state.page.pending.test word bit = false := by
  apply Own.leads_emit
  rintro own state ⟨page, hs, htakes, hpage⟩
  have hpending : state.page.pending = page.pending.erase word bit := by
    rw [hpage]
    rfl
  refine ⟨hs.consumed htakes hpage, ?_⟩
  rw [hpending, Bitmap.test_erase, decide_eq_true ⟨rfl, rfl⟩, Bool.not_true, Bool.false_and]

/-- The pass takes a bit and adds what it dispatches to its outcome. -/
theorem leads_consume :
    Leads pass.Interrupted
      (fun s => pass.Scanned outcome bits s ∧ s.channels.page.Takes pass.selector bits word bit)
      (consume (c.platform pass.depth) word bit) fun one =>
        pass.Scanned (outcome ∪ one) (bits ++ [(word, bit)]) := by
  constructor
  rintro s ⟨⟨kinds, hs, rfl⟩, htakes⟩
  have hconsume : Leads pass.Interrupted
      (fun s => pass.AtRest bits kinds s ∧ s.channels.page.Takes pass.selector bits word bit)
      (consume (c.platform pass.depth) word bit) fun one =>
        pass.Scanned (.unionOf (kinds.map Kind.outcome) ∪ one) (bits ++ [(word, bit)]) := by
    apply leads_clear.discard.bind
    intro _
    apply leads_tell.bind
    intro _
    have hports := Port.ofBits_append bits word bit
    cases hport : Port.at? word bit with
    | none =>
      rw [hport, Option.toList_none, List.append_nil] at hports
      have hnote : Leads pass.Interrupted (Own pass.base pass.depth fun own state =>
          Telling pass.selector pass.page (bits ++ [(word, bit)]) (Port.ofBits bits) kinds own
            state ∧ state.page.pending.test word bit = false)
          (note (c.platform pass.depth) (.eventBeyondTable word bit)) fun _ =>
            pass.AtRest (bits ++ [(word, bit)]) kinds := by
        apply Own.leads_emit
        rintro own state ⟨hs, -⟩
        rw [hports]
        exact hs.remarked rfl
      apply hnote.bind
      intro _
      exact .pure fun s hs => ⟨kinds, hs, PassOutcome.union_empty _⟩
    | some port =>
      rw [hport, Option.toList_some] at hports
      obtain ⟨rfl, rfl⟩ := Port.at?_eq_some_iff.1 hport
      apply (leads_deliver List.getLast?_concat hports).of_post
      rintro one s ⟨kind, rfl, hs⟩
      refine ⟨kinds ++ [kind], hs, ?_⟩
      rw [List.map_append, PassOutcome.unionOf_append, List.map_singleton,
        PassOutcome.unionOf_singleton]
  exact hconsume.run s ⟨hs, htakes⟩

/-- The bits that are serviced are those of the word that have been taken. -/
theorem leads_scanWord {rest : List (Fin 64)} (hsuffix : word :: rest <:+ pass.selector.toList) :
    Leads pass.Interrupted
      (fun s => ∃ bits, InWord pass.selector word .empty bits s.channels.page ∧
        pass.Scanned outcome bits s)
      (scanWord (c.platform pass.depth) word .empty outcome) fun outcome s =>
        ∃ bits, Between pass.selector rest bits s.channels.page ∧ pass.Scanned outcome bits s := by
  let K (serviced : Word) (outcome : PassOutcome) (s : System History) : Prop :=
    ∃ bits, InWord pass.selector word serviced bits s.channels.page ∧ pass.Scanned outcome bits s
  have hflagged : pass.selector.test word = true := (Word.of_suffix hsuffix).1
  have hconsume (serviced : Word) (outcome : PassOutcome) (bit : Fin 64)
      (hfresh : serviced.test bit = false) :
      Leads pass.Interrupted
        (fun s => K serviced outcome s ∧ (s.channels.page.ready word).test bit = true)
        (consume (c.platform pass.depth) word bit) fun one =>
          K (serviced.insert bit) (outcome ∪ one) := by
    constructor
    rintro s ⟨⟨bits, hword, hs⟩, hready⟩
    have hone : Leads pass.Interrupted
        (fun s => pass.Scanned outcome bits s ∧
          s.channels.page.Takes pass.selector bits word bit)
        (consume (c.platform pass.depth) word bit) fun one => K (serviced.insert bit) (outcome ∪ one) :=
      leads_consume.of_post fun one s hs => ⟨_, hword.insert, hs⟩
    exact hone.run s ⟨hs, hword.takes hflagged hready hfresh⟩
  apply (leads_scanWord_of_outcome hconsume .empty outcome).of_post
  rintro outcome s ⟨done, ⟨bits, hword, hs⟩, hdone⟩
  exact ⟨bits, hword.between hsuffix hdone, hs⟩

theorem atRest_of_held {channels : Channels} {s : System History}
    (hs : Held (fun history => history = pass.base) channels s)
    (hpage : channels.page = pass.page) : pass.AtRest [] [] s := by
  refine ⟨[], ?_, .nil ((congrArg Channels.page hs.channels).trans hpage)⟩
  rw [hs.outside]
  exact .nil

theorem leads_scanWords :
    Leads pass.Interrupted (pass.AtRest [] [])
      (scanWords (c.platform pass.depth) pass.selector.toList .empty) fun outcome s =>
        ∃ bits, Between pass.selector [] bits s.channels.page ∧ pass.Scanned outcome bits s := by
  let K (rest : List (Fin 64)) (outcome : PassOutcome) (s : System History) : Prop :=
    ∃ bits, Between pass.selector rest bits s.channels.page ∧ pass.Scanned outcome bits s
  have hword (word : Fin 64) (rest : List (Fin 64)) (outcome : PassOutcome) :
      Leads pass.Interrupted (K (word :: rest) outcome)
        (scanWord (c.platform pass.depth) word .empty outcome) (K rest) := by
    constructor
    rintro s ⟨bits, hbetween, hs⟩
    exact (leads_scanWord hbetween.suffix).run s ⟨bits, hbetween.inWord, hs⟩
  apply (leads_scanWords_of_outcome hword pass.selector.toList .empty).of_pre
  exact fun s hs => ⟨[], .start, [], hs, rfl⟩

end Pass

/-- The words that a pass on a processor visits: those flagged as it begins, or none if interrupts
are masked. -/
def Channels.captured (start : Channels) (v : Fin 32) : Word :=
  if start.interruptsMasked then .empty else (start.page.vcpu v).selector

/-- The page as a pass on a processor begins to visit words. -/
def Channels.passPage (start : Channels) (v : Fin 32) : SharedPage :=
  if start.interruptsMasked then start.page else start.page.drained v

/-- The pass on a processor that begins at a certain moment. -/
def Pass.begins (start : System History) (depth : Nat) (v : Fin 32) : Pass :=
  ⟨start.outside, depth, start.channels.captured v, start.channels.passPage v⟩

theorem Pass.leads_scannerPass {c : Client} {depth : Nat} {start : System History} {v : Fin 32}
    (hvcpu : start.channels.config.upcallVcpu = v) :
    Leads (Pass.begins start depth v).Interrupted
      (Held (fun history => history = start.outside) start.channels)
      (scannerPass (c.platform depth)) fun outcome s => ∃ bits,
        Between (start.channels.captured v) [] bits s.channels.page ∧
          (Pass.begins start depth v).Scanned outcome bits s := by
  let pass := Pass.begins start depth v
  cases hmasked : start.channels.interruptsMasked with
  | true =>
    apply held_interruptsMasked.bind_of_eq
    have hselector : pass.selector = .empty := if_pos hmasked
    have hpage : start.channels.page = pass.page := (if_pos hmasked).symm
    have hnote : Keeps pass.Interrupted (pass.AtRest [] [])
        (note (c.platform depth) .interruptWhileMasked) :=
      Own.leads_emit fun _ _ hs => hs.remarked rfl
    rw [if_pos hmasked]
    apply (Leads.of_pre hnote fun s hs => atRest_of_held hs hpage).bind
    intro _
    apply Leads.pure
    intro s hs
    have hbetween : Between pass.selector pass.selector.toList [] s.channels.page := .start
    have hnone : pass.selector.toList = [] := by rw [hselector, Word.toList_empty]
    rw [hnone] at hbetween
    exact ⟨[], hbetween, [], hs, rfl⟩
  | false =>
    have hopen : ¬start.channels.interruptsMasked = true := hmasked ▸ Bool.false_ne_true
    have hselector : (start.channels.page.vcpu v).selector = pass.selector := (if_neg hopen).symm
    have hpage : start.channels.page.drained v = pass.page := (if_neg hopen).symm
    apply held_scannerPass_of_scanWords hmasked hvcpu
    rw [hselector]
    exact leads_scanWords.of_pre fun s hs => atRest_of_held hs hpage

/-- Whatever the calls of a pass do that return, the pass comes to an end. It has taken no bit twice and
visited the flagged words in order, has left no bit of them that was ready as it went on, and its outcome
is what it dispatched itself. It fails only by a call that does not return. -/
theorem scanner_pass_is_bounded (c : Client) (depth : Nat) (s : System History) {v : Fin 32}
    (hvcpu : s.channels.config.upcallVcpu = v) :
    ∃ own, own.TellsPass (s.channels.captured v) (s.channels.passPage v) ∧
      match scannerPass (c.platform depth) s with
      | .ok outcome s' =>
        History.Since s.outside depth own s'.outside ∧
          outcome = .unionOf (own.dispatchedKinds.map Kind.outcome) ∧
          ∀ w, (s.channels.captured v).test w = true → (∀ x ∈ own.taken, x.1 ≤ w) →
            s'.channels.page.Exhausted own.taken w
      | .error _ s' => History.Since s.outside depth own s'.outside ∧ own.Unanswered := by
  have hscan : Leads (Pass.begins s depth v).Interrupted
      (Held (fun history => history = s.outside) s.channels) (scannerPass (c.platform depth))
      fun outcome s' => ∃ bits, Between (s.channels.captured v) [] bits s'.channels.page ∧
        (Pass.begins s depth v).Scanned outcome bits s' := Pass.leads_scannerPass hvcpu
  have hpass := hscan.run s ⟨rfl, rfl⟩
  cases hrun : scannerPass (c.platform depth) s with
  | ok outcome s' =>
    rw [hrun] at hpass
    obtain ⟨bits, hbetween, kinds, ⟨own, hsince, htells⟩, rfl⟩ := hpass
    obtain ⟨hsteps, -, rfl, hdispatched, rfl⟩ := htells
    refine ⟨own, History.tellsPass_of_steps hsteps hdispatched, hsince, rfl, ?_⟩
    exact fun w hw => hbetween.left w hw List.not_mem_nil
  | error fault s' =>
    rw [hrun] at hpass
    obtain ⟨own, hsince, htells, hunanswered⟩ := hpass
    exact ⟨own, htells, hsince, hunanswered⟩

/-- The handler of port 1 raises its event again and starts a pass of its own, and so does the handler
that this pass calls. Each of the three passes takes the bit once; the innermost takes that of port 7
too, whose work is no part of the outcome of the outermost. -/
theorem scanner_pass_is_bounded_reraising :
    let bindings : List (Port × Action) := [(⟨1⟩, .normal "timer"), (⟨7⟩, .deferredProcedure "ring")]
    let table := bindings.foldl (fun t x => (t.setAction x.1 x.2).setKind x.1 x.2.kind) .powerOn
    let bits : List (Fin 64 × Fin 64) := [(0, 1), (0, 7), (16, 3)]
    let page := bits.foldl (fun s x => s.setPending x.1 x.2) SharedPage.zero
    let start : Channels := ⟨page.modifyVcpu 0 fun slot => (slot.flagWord 0).flagWord 16, table,
      { callbackIrq := 5 }, false, false, none⟩
    start.config.upcallVcpu = (0 : Fin 32) ∧
    ∃ own s', scannerPass (Client.reraising.platform 2) ⟨start, []⟩ = .ok ⟨true, false⟩ s' ∧
      own.TellsPass (start.captured 0) (start.passPage 0) ∧ History.Since [] 2 own s'.outside ∧
      own.taken = [(0, 1), (16, 3)] ∧
      s'.outside.taken = [(0, 1), (0, 1), (0, 1), (0, 7), (16, 3)] := by
  intro bindings table bits page start
  obtain ⟨own, htells, hresult⟩ :=
    scanner_pass_is_bounded Client.reraising 2 ⟨start, []⟩ (v := 0) rfl
  have hcomputed : (match scannerPass (Client.reraising.platform 2) ⟨start, []⟩ with
      | .ok outcome s' => some (outcome, s'.outside.taken,
          History.taken (s'.outside.filter fun e => e.depth = 2))
      | .error _ _ => none) = some (⟨true, false⟩,
        [(0, 1), (0, 1), (0, 1), (0, 7), (16, 3)], [(0, 1), (16, 3)]) := by decide +kernel
  cases hrun : scannerPass (Client.reraising.platform 2) ⟨start, []⟩ with
  | error fault s' =>
    rw [hrun] at hcomputed
    cases hcomputed
  | ok outcome s' =>
    rw [hrun] at hcomputed hresult
    obtain ⟨hsince, -, -⟩ := hresult
    obtain ⟨during, hduring, rfl⟩ := hsince
    simp only [Option.some.injEq, Prod.mk.injEq] at hcomputed
    obtain ⟨rfl, hall, hown⟩ := hcomputed
    rw [hduring, List.append_nil] at hown
    exact ⟨rfl, _, s', rfl, htells, ⟨during, hduring, rfl⟩, hown, hall⟩

end EventChannel
