import EventChannel.Proofs.History
import EventChannel.Proofs.Independence.Locality

namespace EventChannel

open Guest

/-- Of two alerts of the same word one is enough. -/
theorem VcpuSlot.alertAmong_of_or {first second : Bool} (h : (first || second) = true) (v i : Fin 32)
    (w : Fin 64) (slot : VcpuSlot) :
    (slot.alertAmong (if first then [v] else []) i w).alertAmong (if second then [v] else []) i w =
      slot.alertAmong [v] i w := by
  rw [alertAmong_append]
  cases first with
  | false =>
    cases second with
    | false => cases h
    | true => rfl
  | true =>
    cases second with
    | false => rfl
    | true =>
      unfold alertAmong
      simp only [if_true, List.mem_append, or_self]

/-- What may bring a word of the shared page to notice: an event that the hypervisor delivers, or a
port that the guest unmasks. -/
inductive Arrival where
  | delivery (word bit : Fin 64)
  | unmasking (port : Port)
deriving DecidableEq

namespace Arrival

/-- The operation by which the arrival comes to a virtual processor. -/
def operation (v : Fin 32) : Arrival → Operation
  | delivery word bit => .page (.raiseAt word bit v)
  | unmasking port => .channels (.unmask port)

def word : Arrival → Fin 64
  | delivery word _ => word
  | unmasking port => port.pageWord

def bit : Arrival → Fin 64
  | delivery _ bit => bit
  | unmasking port => port.bit

/-- Whether the arrival flags its word. A new event is looked up in the mask, an unmasked port among
the pending bits. -/
def alerts (s : SharedPage) : Arrival → Bool
  | delivery word bit => !s.pending.test word bit && !s.mask.test word bit
  | unmasking port => s.isPending port

def write (s : SharedPage) : Arrival → SharedPage
  | delivery word bit => s.setPending word bit
  | unmasking port => s.clearMask port.pageWord port.bit

/-- What the operation of an arrival reports: a delivery, whether its event is a new one. -/
def report (s : SharedPage) : Arrival → Report
  | delivery word bit => .truth (!s.pending.test word bit)
  | unmasking _ => .done

/-- Whether the arrival is a delivery at the bit. -/
def delivers (word bit : Fin 64) : Arrival → Bool
  | delivery w b => decide (w = word ∧ b = bit)
  | unmasking _ => false

/-- Whether the arrival clears the mask bit. -/
def uncovers (word bit : Fin 64) : Arrival → Bool
  | delivery _ _ => false
  | unmasking port => decide (port.pageWord = word ∧ port.bit = bit)

/-- Whether an arrival with its result is the delivery of a new event at the bit. -/
def isNewAt (word bit : Fin 64) : Arrival × Except ChannelError Report → Bool
  | (a, .ok (.truth raised)) => a.delivers word bit && raised
  | _ => false

@[simp] theorem delivers_self (w b : Fin 64) : (delivery w b).delivers w b = true :=
  decide_eq_true ⟨rfl, rfl⟩

@[simp] theorem uncovers_self (port : Port) :
    (unmasking port).uncovers port.pageWord port.bit = true := decide_eq_true ⟨rfl, rfl⟩

end Arrival

namespace SharedPage

/-- The page after an arrival at the virtual processor. -/
def arrive (v : Fin 32) (s : SharedPage) (a : Arrival) : SharedPage :=
  if a.alerts s then (a.write s).modifyVcpu v fun slot => slot.alert a.word else a.write s

variable (v : Fin 32) (s : SharedPage) (a : Arrival)

theorem pending_arrive : (s.arrive v a).pending = (a.write s).pending := by
  unfold arrive
  split <;> rfl

theorem mask_arrive : (s.arrive v a).mask = (a.write s).mask := by
  unfold arrive
  split <;> rfl

theorem reserved_arrive : (s.arrive v a).reserved = s.reserved := by
  unfold arrive
  cases a <;> split <;> rfl

theorem vcpu_arrive (i : Fin 32) : (s.arrive v a).vcpu i =
    (s.vcpu i).alertAmong (if a.alerts s then [v] else []) i a.word := by
  have hwrite : (a.write s).vcpu i = s.vcpu i := by cases a <;> rfl
  unfold arrive VcpuSlot.alertAmong
  split
  next =>
    by_cases he : i = v
    · rw [if_pos (List.mem_singleton.2 he), he, vcpu_modifyVcpu_self, ← he, hwrite]
    · rw [if_neg fun h => he (List.mem_singleton.1 h), vcpu_modifyVcpu_of_ne _ _ (Ne.symm he), hwrite]
  next => rw [if_neg List.not_mem_nil, hwrite]

theorem test_pending_arrive (w b : Fin 64) :
    (s.arrive v a).pending.test w b = (a.delivers w b || s.pending.test w b) := by
  rw [pending_arrive]
  cases a with
  | delivery word bit => exact s.pending.test_insert word w bit b
  | unmasking port => rfl

theorem test_mask_arrive (w b : Fin 64) :
    (s.arrive v a).mask.test w b = (!a.uncovers w b && s.mask.test w b) := by
  rw [mask_arrive]
  cases a with
  | delivery word bit => rfl
  | unmasking port => exact s.mask.test_erase port.pageWord w port.bit b

/-- An arrival leaves the bits elsewhere as they are. -/
theorem agreeAt_arrive {w b : Fin 64} (h : ¬(a.word = w ∧ a.bit = b)) :
    AgreeAt w b s (s.arrive v a) := by
  have hdelivers : a.delivers w b = false := by
    cases a with
    | delivery word bit => exact decide_eq_false h
    | unmasking port => rfl
  have huncovers : a.uncovers w b = false := by
    cases a with
    | delivery word bit => rfl
    | unmasking port => exact decide_eq_false h
  constructor
  · rw [test_mask_arrive, huncovers, Bool.not_false, Bool.true_and]
  · rw [test_pending_arrive, hdelivers, Bool.false_or]

variable {v s a}

theorem AgreeAt.alerts {t : SharedPage} (h : AgreeAt a.word a.bit s t) : a.alerts s = a.alerts t := by
  cases a with
  | delivery word bit =>
    have hpending : s.pending.test word bit = t.pending.test word bit := h.pending
    have hmask : s.mask.test word bit = t.mask.test word bit := h.mask
    rw [Arrival.alerts, Arrival.alerts, hpending, hmask]
  | unmasking port => exact h.pending

/-- A delivery and an unmasking of the same bit flag its word between them, in either order. -/
theorem alerts_own {w b : Fin 64} {port : Port} (h : w = port.pageWord ∧ b = port.bit) :
    (Arrival.unmasking port).alerts (s.arrive v (.delivery w b)) = true ∧
    ((Arrival.unmasking port).alerts s ||
      (Arrival.delivery w b).alerts (s.arrive v (.unmasking port))) = true := by
  obtain ⟨rfl, rfl⟩ := h
  constructor
  · rw [Arrival.alerts, isPending, test_pending_arrive, Arrival.delivers_self, Bool.true_or]
  · rw [Arrival.alerts, Arrival.alerts, isPending, test_pending_arrive, test_mask_arrive,
      Arrival.uncovers_self]
    cases s.pending.test port.pageWord port.bit <;> rfl

/-- Two arrivals come to the same in either order. -/
theorem arrive_comm (v : Fin 32) (s : SharedPage) (a a' : Arrival) :
    (s.arrive v a).arrive v a' = (s.arrive v a').arrive v a := by
  have hown {w b : Fin 64} {port : Port} (h : w = port.pageWord ∧ b = port.bit) (i : Fin 32) :
      ((s.arrive v (.delivery w b)).arrive v (.unmasking port)).vcpu i =
        ((s.arrive v (.unmasking port)).arrive v (.delivery w b)).vcpu i := by
    obtain ⟨hlate, hearly⟩ := alerts_own (v := v) (s := s) h
    rw [vcpu_arrive, vcpu_arrive, vcpu_arrive, vcpu_arrive]
    have hword : (Arrival.delivery w b).word = (Arrival.unmasking port).word := h.1
    rw [hword, VcpuSlot.alertAmong_of_or (by rw [hlate, Bool.or_true]),
      VcpuSlot.alertAmong_of_or hearly]
  apply ext_parts
  · intro w b
    constructor
    · rw [test_mask_arrive, test_mask_arrive, test_mask_arrive, test_mask_arrive]
      ac_rfl
    · rw [test_pending_arrive, test_pending_arrive, test_pending_arrive, test_pending_arrive]
      ac_rfl
  · intro i
    by_cases hplace : a.word = a'.word ∧ a.bit = a'.bit
    · cases a with
      | delivery w b =>
        cases a' with
        | delivery w' b' =>
          obtain ⟨rfl, rfl⟩ : w = w' ∧ b = b' := hplace
          rfl
        | unmasking port => exact hown hplace i
      | unmasking port =>
        cases a' with
        | delivery w b => exact (hown ⟨hplace.1.symm, hplace.2.symm⟩ i).symm
        | unmasking port' =>
          obtain rfl : port = port' :=
            Decidable.byContradiction fun hne => Port.place_ne hne hplace
          rfl
    · -- What each looks at is not what the other writes, so both flag their words or neither does.
      have hplace' : ¬(a'.word = a.word ∧ a'.bit = a.bit) := fun h => hplace ⟨h.1.symm, h.2.symm⟩
      rw [vcpu_arrive, vcpu_arrive, vcpu_arrive, vcpu_arrive, ← (s.agreeAt_arrive v a hplace).alerts,
        ← (s.agreeAt_arrive v a' hplace').alerts, VcpuSlot.alertAmong_comm]
  · rw [reserved_arrive, reserved_arrive, reserved_arrive, reserved_arrive]

/-- A delivery at a bit that is pending already changes nothing. -/
theorem arrive_of_pending {w b : Fin 64} (h : s.pending.test w b = true) :
    s.arrive v (.delivery w b) = s := by
  have hset : s.setPending w b = s := by
    have hinsert : s.pending.insert w b = s.pending := by
      apply Bitmap.ext_test
      intro i j
      rw [Bitmap.test_insert]
      by_cases hij : w = i ∧ b = j
      · rw [← hij.1, ← hij.2, h, Bool.or_true]
      · rw [decide_eq_false hij, Bool.false_or]
    rw [setPending, hinsert]
  rw [arrive, Arrival.alerts, h, Bool.not_true, Bool.false_and, if_neg Bool.false_ne_true]
  exact hset

end SharedPage

theorem PageM.raiseAt_arrive (s : SharedPage) (w b : Fin 64) (v : Fin 32) :
    PageM.raiseAt w b v s = .ok (!s.pending.test w b) (s.arrive v (.delivery w b)) := by
  cases hpending : s.pending.test w b with
  | true =>
    rw [raiseAt_run, if_pos hpending, SharedPage.arrive_of_pending hpending]
    rfl
  | false =>
    cases hmask : s.mask.test w b with
    | true =>
      rw [raiseAt_run, hpending, if_neg Bool.false_ne_true, if_pos hmask, SharedPage.arrive,
        Arrival.alerts, hpending, hmask, Bool.not_true, Bool.and_false, if_neg Bool.false_ne_true]
      rfl
    | false =>
      rw [raiseAt_run_alerted s w b v hpending hmask, SharedPage.arrive, Arrival.alerts, hpending,
        hmask]
      rfl

section Runs

variable {σ : Type} {P : Platform σ} {lost : System σ → Prop} {K : σ → Prop} {c : Channels}

theorem PageOperation.held_emitIf {happened : Bool} {word : Nat} {event : Fin 64 → Event}
    (hK : ∀ w c o, K o → K (P.observe (event w) c o)) :
    Leads lost (Held K c) (emitIf P happened word event) fun _ => Held K c := by
  unfold emitIf
  split
  · apply Leads.emit
    rintro _ o ⟨rfl, ho⟩
    exact ⟨rfl, hK _ _ _ ho⟩
  · exact .pure fun _ => id

/-- To raise a port's event is to raise it at the port's bit. -/
theorem PageOperation.run_raise (port : Port) (vcpu : Nat) :
    (raise port vcpu).run P = (raiseAt port.pageWord port.bit vcpu).run P := rfl

theorem PageOperation.held_raiseAt (hK : ∀ w b c o, K o → K (P.observe (.raised w b) c o))
    (w b : Fin 64) (v : Fin 32) :
    Leads lost (Held K c) ((raiseAt w b v).run P) fun report s =>
      report = (Arrival.delivery w b).report c.page ∧
      Held K { c with page := c.page.arrive v (.delivery w b) } s := by
  apply (held_onPage_eq (PageM.raiseAt_arrive c.page w b v)).bind_of_eq
  apply (held_emitIf fun w => hK w b).bind
  intro _
  exact .pure fun _ hs => ⟨rfl, hs⟩

theorem Guest.held_unmask_at {v : Fin 32} (hvcpu : c.config.upcallVcpu = v) (port : Port) :
    Leads lost (Held K c) (unmask port) fun _ =>
      Held K { c with page := c.page.arrive v (.unmasking port) } := by
  apply (held_onPage (PageM.unmask_run _ port)).discard.bind
  intro _
  apply held_channels
  rw [SharedPage.arrive]
  split
  next hpending =>
    have halerts : (Arrival.unmasking port).alerts c.page = true := hpending
    apply held_config.bind_of_eq
    rw [if_pos halerts, hvcpu]
    exact held_onPage (PageM.alertWord_run _ port.pageWord v)
  next hpending =>
    have halerts : ¬(Arrival.unmasking port).alerts c.page = true := hpending
    rw [if_neg halerts]
    exact .pure fun _ => id

theorem Arrival.held_run {v : Fin 32} (hvcpu : c.config.upcallVcpu = v)
    (hK : ∀ w b c o, K o → K (P.observe (.raised w b) c o)) (a : Arrival) :
    Leads lost (Held K c) ((a.operation v).run P) fun result s =>
      result = .ok (a.report c.page) ∧ Held K { c with page := c.page.arrive v a } s := by
  cases a with
  | delivery word bit =>
    apply (PageOperation.held_raiseAt hK word bit v).bind_of_eq
    exact .pure fun _ hs => ⟨rfl, hs⟩
  | unmasking port =>
    apply (held_unmask_at hvcpu port).bind
    intro _
    exact .pure fun _ hs => ⟨rfl, hs⟩

/-- The first delivery at a bit that is not pending is new, and none after it. -/
theorem Arrival.count_cons {count : Nat} {arrivals : List Arrival} (s : SharedPage) (v : Fin 32)
    (a : Arrival) (w b : Fin 64)
    (h : count = if .delivery w b ∈ arrivals ∧ (s.arrive v a).pending.test w b = false then 1 else 0) :
    (count + if isNewAt w b (a, .ok (a.report s)) then 1 else 0) =
      if .delivery w b ∈ a :: arrivals ∧ s.pending.test w b = false then 1 else 0 := by
  rw [h, SharedPage.test_pending_arrive]
  by_cases ha : a = .delivery w b
  · subst ha
    have hnew : isNewAt w b (delivery w b, .ok ((delivery w b).report s)) = !s.pending.test w b := by
      rw [report, isNewAt, delivers_self, Bool.true_and]
    rw [delivers_self, hnew, Bool.true_or]
    cases s.pending.test w b <;>
      simp only [List.mem_cons, true_or, true_and, Bool.true_eq_false, and_false, if_true, if_false,
        Bool.not_true, Bool.not_false, Bool.false_eq_true]
  · have hdelivers : a.delivers w b = false := by
      cases a with
      | delivery w' b' => exact decide_eq_false fun he => ha (by rw [he.1, he.2])
      | unmasking port => rfl
    have hnew : isNewAt w b (a, .ok (a.report s)) = false := by
      cases a with
      | delivery w' b' => rw [report, isNewAt, hdelivers, Bool.false_and]
      | unmasking port => rfl
    have ha' : ¬.delivery w b = a := fun he => ha he.symm
    simp only [hdelivers, hnew, Bool.false_or, Bool.false_eq_true, if_false, Nat.add_zero,
      List.mem_cons, ha', false_or]

/-- A run of arrivals folds their effects over the page. -/
theorem Arrival.held_runs {v : Fin 32} (hvcpu : c.config.upcallVcpu = v)
    (hK : ∀ w b c o, K o → K (P.observe (.raised w b) c o)) (arrivals : List Arrival) :
    Leads lost (Held K c) (arrivals.mapM fun a => (a.operation v).run P) fun results s =>
      Held K { c with page := arrivals.foldl (SharedPage.arrive v) c.page } s ∧
      ∀ w b, (arrivals.zip results).countP (isNewAt w b) =
        if .delivery w b ∈ arrivals ∧ c.page.pending.test w b = false then 1 else 0 := by
  induction arrivals generalizing c with
  | nil =>
    rw [List.mapM_nil]
    apply Leads.pure
    intro s hs
    refine ⟨hs, fun w b => ?_⟩
    rw [if_neg fun h => List.not_mem_nil h.1]
    rfl
  | cons a arrivals ih =>
    rw [List.mapM_cons]
    apply (held_run hvcpu hK a).bind_of_eq
    have hrest := ih (c := { c with page := c.page.arrive v a }) hvcpu
    apply hrest.bind
    intro results
    apply Leads.pure
    intro s hs
    refine ⟨hs.1, fun w b => ?_⟩
    rw [List.zip_cons_cons, List.countP_cons]
    exact count_cons c.page v a w b (hs.2 w b)

end Runs

namespace SharedPage

/-- A port is pending and unmasked, and the virtual processor is going to look at it. -/
structure Noticed (v : Fin 32) (port : Port) (s : SharedPage) : Prop where
  pending : s.isPending port = true
  unmasked : s.isMasked port = false
  flagged : (s.vcpu v).selector.test port.pageWord = true

theorem Noticed.arrive {v : Fin 32} {port : Port} {s : SharedPage} (h : s.Noticed v port)
    (a : Arrival) : (s.arrive v a).Noticed v port := by
  have hpending : s.pending.test port.pageWord port.bit = true := h.pending
  have hmask : s.mask.test port.pageWord port.bit = false := h.unmasked
  refine ⟨?_, ?_, ?_⟩
  · rw [isPending, test_pending_arrive, hpending, Bool.or_true]
  · rw [isMasked, test_mask_arrive, hmask, Bool.and_false]
  · rw [vcpu_arrive, VcpuSlot.alertAmong]
    generalize (if a.alerts s then [v] else []) = alerted
    split
    · rw [VcpuSlot.selector_alert, Word.test_insert, h.flagged, Bool.or_true]
    · exact h.flagged

/-- An event on a port is noticed once the port has been unmasked. -/
theorem noticed_of_delivery (v : Fin 32) (s : SharedPage) (port : Port) :
    ((s.arrive v (.delivery port.pageWord port.bit)).arrive v (.unmasking port)).Noticed v port := by
  have halerts : (Arrival.unmasking port).alerts
      (s.arrive v (.delivery port.pageWord port.bit)) = true := (alerts_own ⟨rfl, rfl⟩).1
  refine ⟨?_, ?_, ?_⟩
  · rw [isPending, test_pending_arrive, test_pending_arrive, Arrival.delivers_self, Bool.true_or,
      Bool.or_true]
  · rw [isMasked, test_mask_arrive, Arrival.uncovers_self, Bool.not_true, Bool.false_and]
  · rw [vcpu_arrive, halerts, if_pos rfl, VcpuSlot.alertAmong, if_pos List.mem_cons_self,
      VcpuSlot.selector_alert, Word.test_insert]
    exact (congrArg (· || _) (decide_eq_true rfl)).trans (Bool.true_or _)

theorem foldl_arrive_perm {arrivals order : List Arrival} (h : order.Perm arrivals) (v : Fin 32)
    (s : SharedPage) : order.foldl (arrive v) s = arrivals.foldl (arrive v) s :=
  h.foldl_eq' (fun a _ a' _ s => arrive_comm v s a a') s

theorem noticed_foldl_arrive {arrivals : List Arrival} {port : Port}
    (hdelivery : .delivery port.pageWord port.bit ∈ arrivals)
    (hunmasking : .unmasking port ∈ arrivals) (v : Fin 32) (s : SharedPage) :
    (arrivals.foldl (arrive v) s).Noticed v port := by
  have hkept (rest : List Arrival) {s : SharedPage} (h : s.Noticed v port) :
      (rest.foldl (arrive v) s).Noticed v port := by
    induction rest generalizing s with
    | nil => exact h
    | cons a rest ih => exact ih (h.arrive a)
  -- The order does not matter, so the two come first.
  have hfirst := List.perm_cons_erase hdelivery
  have hsecond : .unmasking port ∈ arrivals.erase (.delivery port.pageWord port.bit) :=
    (List.mem_erase_of_ne fun he => by cases he).2 hunmasking
  rw [foldl_arrive_perm (hfirst.trans ((List.perm_cons_erase hsecond).cons _)), List.foldl_cons,
    List.foldl_cons]
  exact hkept _ (noticed_of_delivery v s port)

end SharedPage

/-- Deliveries to a virtual processor and unmaskings of ports come to the same page in whatever
order, and each bit is new for one of its deliveries exactly if it is delivered at all and was not
pending before. A port that both has an event and is unmasked is noticed. -/
theorem arrivals_commute {σ : Type} (P : Platform σ) (arrivals : List Arrival) {s : System σ}
    {v : Fin 32} (hvcpu : s.channels.config.upcallVcpu = v) :
    ∃ page : SharedPage,
      (∀ order : List Arrival, order.Perm arrivals → ∃ results s',
        (order.mapM fun a => (a.operation v).run P : Guest σ _) s = .ok results s' ∧
        s'.channels = { s.channels with page } ∧
        ∀ w b, (order.zip results).countP (Arrival.isNewAt w b) =
          if .delivery w b ∈ arrivals ∧ s.channels.page.pending.test w b = false then 1 else 0) ∧
      ∀ port : Port, .delivery port.pageWord port.bit ∈ arrivals → .unmasking port ∈ arrivals →
        page.Noticed v port := by
  refine ⟨arrivals.foldl (SharedPage.arrive v) s.channels.page, fun order horder => ?_,
    fun port hdelivery hunmasking => SharedPage.noticed_foldl_arrive hdelivery hunmasking v _⟩
  have hstart : Held (fun _ => True) s.channels s := ⟨rfl, trivial⟩
  obtain ⟨results, s', hrun, hs', hcount⟩ :=
    (Arrival.held_runs (P := P) hvcpu (fun _ _ _ _ => id) order).exists_ok hstart
  refine ⟨results, s', hrun, ?_, fun w b => ?_⟩
  · rw [hs'.channels, SharedPage.foldl_arrive_perm horder]
  · rw [hcount]
    simp only [horder.mem_iff]

/-- Port 5 is masked as its first event arrives. Whether it is unmasked before its second event or
after it, one of the two is new. -/
theorem arrivals_commute_coalesced :
    let start : Channels :=
      ⟨SharedPage.zero.setMask 0 5, .powerOn, { callbackIrq := 5 }, false, false, none⟩
    let arrivals : List Arrival :=
      [.delivery 0 5, .unmasking ⟨5⟩, .delivery 0 5, .delivery 20 3]
    let order : List Arrival := [.delivery 20 3, .delivery 0 5, .delivery 0 5, .unmasking ⟨5⟩]
    let run (order : List Arrival) : Guest History (List (Except ChannelError Report)) :=
      order.mapM fun a => (a.operation 0).run (Client.reraising.platform 0)
    start.config.upcallVcpu = (0 : Fin 32) ∧ order.Perm arrivals ∧
    ∃ page results s₁ results' s₂, run arrivals ⟨start, []⟩ = .ok results s₁ ∧
      run order ⟨start, []⟩ = .ok results' s₂ ∧ s₁.channels = { start with page } ∧
      s₂.channels = { start with page } ∧
      (arrivals.zip results).countP (Arrival.isNewAt 0 5) = 1 ∧
      (order.zip results').countP (Arrival.isNewAt 0 5) = 1 ∧ page.Noticed 0 ⟨5⟩ := by
  intro start arrivals order run
  have hperm : order.Perm arrivals := by decide
  have hnew : .delivery 0 5 ∈ arrivals ∧ start.page.pending.test 0 5 = false := by
    decide +kernel
  obtain ⟨page, hpage, hnoticed⟩ :=
    arrivals_commute (Client.reraising.platform 0) arrivals (s := ⟨start, []⟩) (v := 0) rfl
  obtain ⟨results, s₁, hrun₁, hs₁, hcount₁⟩ := hpage arrivals (.refl _)
  obtain ⟨results', s₂, hrun₂, hs₂, hcount₂⟩ := hpage order hperm
  exact ⟨rfl, hperm, page, results, s₁, results', s₂, hrun₁, hrun₂, hs₁, hs₂,
    (hcount₁ 0 5).trans (if_pos hnew), (hcount₂ 0 5).trans (if_pos hnew),
    hnoticed ⟨5⟩ (by decide) (by decide)⟩

end EventChannel
