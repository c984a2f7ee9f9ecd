import EventChannel.Proofs.Conservation.Events

namespace EventChannel

open Guest

/-- Whether an operation sets or clears a single pending bit. -/
def PageOperation.writesBit : PageOperation → Bool
  | clear _ | clearAt _ _ | raise _ _ | raiseAt _ _ _ => true
  | _ => false

namespace Conserved

variable {initial : Bitmap 64} {c : Client} {depth : Nat}

/-- What a delivery does to the pending bitmap, by its report. -/
def Raising (word : Nat) (bit : Fin 64) (report : Report) (old new : Bitmap 64) : Prop :=
  ∃ hword : word < 64, report = .truth (!old.test ⟨word, hword⟩ bit) ∧
    ∀ w b, new.test w b = (old.insert ⟨word, hword⟩ bit).test w b

/-- What clearing a bit does to the pending bitmap, by its report. -/
def Clearing (word : Nat) (bit : Fin 64) (report : Report) (old new : Bitmap 64) : Prop :=
  ∃ hword : word < 64, report = .truth (old.test ⟨word, hword⟩ bit) ∧
    new = old.erase ⟨word, hword⟩ bit

theorem keeps_emitIf {next : Bitmap 64 → Bitmap 64 → Prop} {happened : Bool} {word : Nat}
    {event : Fin 64 → Event}
    (hneutral : ∀ w state, (Entry.saw depth (event w) state).IsNeutral)
    (hunsettled : ∀ w state, (Entry.saw depth (event w) state).isSettled = false) :
    Keeps (BalancedUntil initial) (Written initial next)
      (PageOperation.emitIf (c.platform depth) happened word event) := by
  apply PageOperation.keeps_emitIf
  intro w
  apply Client.leads_emit
  intro state o hs
  obtain ⟨halways, old, hold, hnext⟩ := hs
  refine ⟨.cons (fun hsettled => ?_) halways, old, hold.neutral (hneutral w state), hnext⟩
  rw [hunsettled] at hsettled
  cases hsettled

theorem leads_raise (word : Nat) (bit : Fin 64) (vcpu : Nat) :
    Leads (BalancedUntil initial) (Conserved initial)
      ((PageOperation.raiseAt word bit vcpu).run (c.platform depth)) fun report =>
        Written initial (Raising word bit report) := by
  have hraise : Leads (BalancedUntil initial) (Conserved initial)
      (onPage (PageM.raiseAt word bit vcpu)) fun raised =>
      Written initial (Raising word bit (.truth raised)) := by
    apply leads_onPage
    intro page raised after hrun
    obtain ⟨hword, hraised, hpending⟩ := PageM.pending_of_raiseAt page hrun
    exact ⟨hword, by rw [hraised], hpending⟩
  apply hraise.bind
  intro raised
  apply Leads.bind (keeps_emitIf (fun _ _ _ _ => ⟨rfl, rfl, rfl⟩) fun _ _ => rfl)
  intro _
  exact .pure fun _ => id

theorem leads_clear (word : Nat) (bit : Fin 64) :
    Leads (BalancedUntil initial) (Conserved initial)
      ((PageOperation.clearAt word bit).run (c.platform depth)) fun report =>
        Written initial (Clearing word bit report) := by
  have hclear : Leads (BalancedUntil initial) (Conserved initial)
      (onPage (PageM.clearAt word bit)) fun found =>
      Written initial (Clearing word bit (.truth found)) := by
    apply leads_onPage
    intro page found after hrun
    obtain ⟨hword, hfound, hpending⟩ := PageM.pending_of_clearAt page hrun
    exact ⟨hword, by rw [hfound], hpending⟩
  apply hclear.bind
  intro found
  apply Leads.bind (keeps_emitIf (fun _ _ _ _ => ⟨rfl, rfl, rfl⟩) fun _ _ => rfl)
  intro _
  exact .pure fun _ => id

/-- The end of a page operation enters its result, which has to match what it wrote. -/
theorem keeps_logged_page {op : PageOperation} {next : Report → Bitmap 64 → Bitmap 64 → Prop}
    (hrun : Leads (BalancedUntil initial) (Conserved initial) (op.run (c.platform depth))
      fun report => Written initial (next report))
    (hended : ∀ report state old history, Balanced initial old history →
      next report old state.page.pending → Balanced initial state.page.pending
        (.ended depth (.page op) (.ok report) state :: history)) :
    Keeps (BalancedUntil initial) (Conserved initial)
      ((Operation.page op).logged (c.platform depth) depth) := by
  have hbegan : Keeps (BalancedUntil initial) (Conserved initial)
      (record (.began depth (.page op))) :=
    keeps_record (fun _ => rfl) fun _ _ _ => ⟨rfl, rfl, rfl⟩
  have hresult : Leads (BalancedUntil initial) (Conserved initial)
      ((Operation.page op).run (c.platform depth)) fun result s =>
      ∃ report, result = .ok report ∧ Written initial (next report) s :=
    hrun.bind fun report => .pure fun s hs => ⟨report, rfl, hs⟩
  apply Operation.keeps_logged hbegan hresult
  intro result
  apply Leads.record
  intro state o hs
  obtain ⟨report, rfl, halways, old, hold, hnext⟩ := hs
  have hbalanced := hended report state old o hold hnext
  exact ⟨hbalanced, .cons (fun _ => hbalanced) halways⟩

theorem balanced_of_raising {word : Nat} {bit : Fin 64} {report : Report} {old new : Bitmap 64}
    {history : History} {entry : Entry} (hold : Balanced initial old history)
    (hnext : Raising word bit report old new)
    (hraises : ∀ w b, entry.raises w b =
      (Entry.confirmed (.ok report) && decide (word = w.val ∧ bit = b)))
    (hother : ∀ w b, entry.consumes w b = false ∧ entry.removes w b = false) :
    Balanced initial new (entry :: history) := by
  obtain ⟨hword, rfl, hnew⟩ := hnext
  cases htest : old.test ⟨word, hword⟩ bit with
  | false =>
    apply hold.insert htest _ hother hnew
    intro w b
    rw [hraises, htest]
    simp only [Entry.confirmed, Bool.not_false, Bool.true_and, Fin.ext_iff]
  | true =>
    apply hold.cons
    intro w b
    obtain ⟨hconsumes, hremoves⟩ := hother w b
    rw [hraises, hconsumes, hremoves, htest, hnew, Bitmap.test_insert]
    by_cases he : ⟨word, hword⟩ = w ∧ bit = b
    · obtain ⟨rfl, rfl⟩ := he
      simp [Entry.confirmed, htest]
    · simp [Entry.confirmed, he]

theorem balanced_of_clearing {word : Nat} {bit : Fin 64} {report : Report} {old new : Bitmap 64}
    {history : History} {entry : Entry} (hold : Balanced initial old history)
    (hnext : Clearing word bit report old new)
    (hremoves : ∀ w b, entry.removes w b =
      (Entry.confirmed (.ok report) && decide (word = w.val ∧ bit = b)))
    (hother : ∀ w b, entry.raises w b = false ∧ entry.consumes w b = false) :
    Balanced initial new (entry :: history) := by
  obtain ⟨hword, rfl, rfl⟩ := hnext
  cases htest : old.test ⟨word, hword⟩ bit with
  | true =>
    apply hold.erase htest fun w b => (hother w b).1
    intro w b
    rw [hremoves, (hother w b).2, htest]
    simp only [Entry.confirmed, Bool.true_and, Fin.ext_iff, Bool.toNat_false, Nat.zero_add]
  | false =>
    apply hold.cons
    intro w b
    obtain ⟨hraises, hconsumes⟩ := hother w b
    rw [hraises, hconsumes, hremoves, htest, Bitmap.test_erase]
    by_cases he : ⟨word, hword⟩ = w ∧ bit = b
    · obtain ⟨rfl, rfl⟩ := he
      simp [Entry.confirmed, htest]
    · simp [Entry.confirmed, he]

/-- The operations that do not set or clear a single pending bit keep the balance by themselves. -/
theorem keeps_run_page {op : PageOperation} (hop : op.writesBit = false) :
    Keeps (BalancedUntil initial) (Conserved initial) (op.run (c.platform depth)) := by
  cases op with
  | mask => exact (keeps_onPage (PageM.retains_mask (fun _ _ _ => rfl) _)).bind fun _ => .pure _
  | unmask | unmaskAt =>
    exact (keeps_onPage (PageM.retains_unmaskAt (fun _ _ _ => rfl) _ _)).bind fun _ => .pure _
  | isMasked | isPending => exact Keeps.channels.bind fun _ => .pure _
  | ready => exact (keeps_onPage (PageM.retains_ready _)).bind fun _ => .pure _
  | maskAll =>
    have hmask : Keeps (BalancedUntil initial) (Conserved initial)
        (modifyPage fun page => page.maskAll) := keeps_modifyPage fun _ => rfl
    exact hmask.bind fun _ => .pure _
  | alert => exact (keeps_onPage (PageM.retains_alertWord (fun _ _ => rfl) _)).bind fun _ => .pure _
  | clearAll =>
    have hsplit : PageOperation.clearAll.run (c.platform depth) = (do
        let pending := (← channels).page.pending
        modifyPage fun page => page.clearPendingAll
        emit (c.platform depth) (.pendingDropped pending)) >>= fun _ => pure .done := by
      simp only [PageOperation.run, bind_assoc]
    rw [hsplit]
    exact keeps_drop.bind fun _ => .pure _
  | clear | clearAt | raise | raiseAt => cases hop

theorem keeps_page (op : PageOperation) : Keeps (BalancedUntil initial) (Conserved initial)
    ((Operation.page op).logged (c.platform depth) depth) := by
  cases hop : op.writesBit with
  | false =>
    have hwritten : Leads (BalancedUntil initial) (Conserved initial) (op.run (c.platform depth))
        fun _ => Written initial fun old new => new = old :=
      Leads.of_post (keeps_run_page hop) fun _ s hs => ⟨hs.always, _, hs.balanced, rfl⟩
    apply keeps_logged_page hwritten
    intro report state old history hold hnext
    rw [hnext]
    apply hold.neutral
    intro w b
    cases op with
    | clear | clearAt | raise | raiseAt => cases hop
    | _ => exact ⟨rfl, rfl, rfl⟩
  | true =>
    cases op with
    | raise port vcpu =>
      have hrun : Leads (BalancedUntil initial) (Conserved initial)
          ((PageOperation.raise port vcpu).run (c.platform depth)) fun report =>
            Written initial (Raising port.word port.bit report) :=
        leads_raise port.word port.bit vcpu
      apply keeps_logged_page hrun
      intro report state old history hold hnext
      exact balanced_of_raising hold hnext
        (fun w b => by simp [Entry.raises, Port.pageWord, Fin.ext_iff]) fun _ _ => ⟨rfl, rfl⟩
    | raiseAt word bit vcpu =>
      apply keeps_logged_page (leads_raise word bit vcpu)
      intro report state old history hold hnext
      exact balanced_of_raising hold hnext (fun w b => by simp [Entry.raises]) fun _ _ => ⟨rfl, rfl⟩
    | clear port =>
      have hrun : Leads (BalancedUntil initial) (Conserved initial)
          ((PageOperation.clear port).run (c.platform depth)) fun report =>
            Written initial (Clearing port.word port.bit report) :=
        leads_clear port.word port.bit
      apply keeps_logged_page hrun
      intro report state old history hold hnext
      exact balanced_of_clearing hold hnext
        (fun w b => by simp [Entry.removes, Port.pageWord, Fin.ext_iff]) fun _ _ => ⟨rfl, rfl⟩
    | clearAt word bit =>
      apply keeps_logged_page (leads_clear word bit)
      intro report state old history hold hnext
      exact balanced_of_clearing hold hnext (fun w b => by simp [Entry.removes]) fun _ _ => ⟨rfl, rfl⟩
    | _ => cases hop

theorem keeps_logged
    (hcall : ∀ r, Keeps (BalancedUntil initial) (Conserved initial) (call (c.platform depth) r))
    (op : Operation) :
    Keeps (BalancedUntil initial) (Conserved initial) (op.logged (c.platform depth) depth) := by
  have hbegan : Keeps (BalancedUntil initial) (Conserved initial) (record (.began depth op)) :=
    keeps_record (fun _ => rfl) fun _ _ _ => ⟨rfl, rfl, rfl⟩
  cases op with
  | page op => exact keeps_page op
  | vcpu vcpu op =>
    have hrun : Keeps (BalancedUntil initial) (Conserved initial)
        ((Operation.vcpu vcpu op).run (c.platform depth)) :=
      (keeps_vcpu vcpu op).bind fun _ => .pure _
    exact Operation.keeps_logged hbegan hrun fun _ =>
      keeps_record (fun _ => rfl) fun _ _ _ => ⟨rfl, rfl, rfl⟩
  | table op =>
    exact Operation.keeps_logged hbegan (keeps_table hcall op) fun _ =>
      keeps_record (fun _ => rfl) fun _ _ _ => ⟨rfl, rfl, rfl⟩
  | channels op =>
    exact Operation.keeps_logged hbegan (keeps_channels hcall op) fun _ =>
      keeps_record (fun _ => rfl) fun _ _ _ => ⟨rfl, rfl, rfl⟩

end Conserved

/-- The account of every bit is balanced throughout, whatever is run. -/
theorem Client.always_balances (c : Client) (depth : Nat) {α : Type} (program : Program α)
    (start : Channels) :
    (c.history depth program start).Always (Entry.Balances start.page.pending) := by
  have hmaintains : c.Maintains (depth + 1) (BalancedUntil start.page.pending)
      (fun _ : Unit => Conserved start.page.pending) (fun _ _ => Conserved start.page.pending)
      fun _ _ => True := by
    refine ⟨fun _ _ _ _ => Program.within_of_forall fun _ => trivial, fun _ _ _ => ?_,
      fun _ _ _ _ => ?_, fun depth _ hcall _ op _ => Conserved.keeps_logged (hcall ()) op⟩
    · exact Conserved.keeps_record (fun _ => rfl) fun _ _ _ => ⟨rfl, rfl, rfl⟩
    · exact Conserved.keeps_record (fun _ => rfl) fun _ _ _ => ⟨rfl, rfl, rfl⟩
  have hstart : Conserved start.page.pending ⟨start, []⟩ :=
    ⟨fun _ _ => by simp only [List.countP_nil, Nat.zero_add, Nat.add_zero], .nil⟩
  exact hmaintains.holds () (Program.within_of_forall fun _ => trivial) hstart
    fun _ hs => hs.always

end EventChannel
