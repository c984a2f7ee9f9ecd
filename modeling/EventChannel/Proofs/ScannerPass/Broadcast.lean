import EventChannel.Guest.Queue
import EventChannel.Proofs.Assertion
import EventChannel.Proofs.ScannerPass.Reaction

namespace EventChannel

namespace ActionTable

variable (t : ActionTable) {p : Port}

/-- How many legacy interrupt ports there are among some ports, and how many of them have no queued
work. -/
def irqCounts (ports : List Port) : Nat × Nat :=
  (ports.countP t.isIrq, ports.countP fun p => t.isIrq p && !t.isQueued p)

theorem irqCounts_cons_of_isIrq (h : t.isIrq p = true) (ports : List Port) :
    t.irqCounts (p :: ports) =
      ((t.irqCounts ports).1 + 1, (t.irqCounts ports).2 + (!t.isQueued p).toNat) := by
  rw [irqCounts, List.countP_cons, List.countP_cons, h, if_pos rfl, Bool.true_and]
  cases t.isQueued p <;> rfl

theorem irqCounts_cons_of_not_isIrq (h : t.isIrq p = false) (ports : List Port) :
    t.irqCounts (p :: ports) = t.irqCounts ports := by
  rw [irqCounts, List.countP_cons, List.countP_cons, h, Bool.false_and]
  rfl

theorem irqCounts_pos (ports : List Port) : decide (0 < (t.irqCounts ports).2) =
    ports.any fun p => t.isIrq p && !t.isQueued p := by
  rw [Bool.eq_iff_iff, decide_eq_true_iff, List.any_eq_true]
  exact List.countP_pos_iff

theorem setOutstanding_of_isOutstanding (h : t.isOutstanding p = true) :
    (t.setOutstanding p).2 = t := by
  apply ext_ports
  · exact fun _ => rfl
  · intro q
    rw [isOutstanding_setOutstanding]
    split
    next hq => rw [← hq, h]
    next => rfl
  · exact fun _ => rfl

theorem enqueue_of_isQueued (h : t.isQueued p = true) : (t.enqueue p).2 = t := by
  apply ext_ports
  · intro q
    rw [slot_enqueue, setWork, slot_modifySlot]
    split
    next hq =>
      have hwork : (t.slot q).work = ⟨true⟩ := congrArg WorkItem.mk (hq ▸ h)
      rw [← hwork]
    next => rfl
  · exact t.isOutstanding_enqueue p
  · exact fun q => t.isFlagged_enqueue_of_queued p q h

variable {t} {u : ActionTable}

/-- The rest of a list is counted as before when a port that is not in it has been renewed. -/
theorem irqCounts_renew {ports : List Port} (hp : p ∉ ports)
    (h : t.Gains nowhere (fun q => decide (p = q)) (fun q => decide (p = q)) u) :
    u.irqCounts ports = t.irqCounts ports := by
  have hqueued (q : Port) (hq : q ∈ ports) :
      (u.isIrq q && !u.isQueued q) = (t.isIrq q && !t.isQueued q) := by
    have hne : ¬p = q := fun he => hp (he ▸ hq)
    rw [h.isIrq_eq, h.isQueued, decide_eq_false hne, Bool.or_false]
  refine Prod.ext (List.countP_congr fun q _ => ?_) (List.countP_congr fun q hq => ?_)
  · rw [h.isIrq_eq]
  · rw [hqueued q hq]

end ActionTable

namespace Guest

variable {σ : Type} {P : Platform σ} {lost : System σ → Prop}

section Observed

variable {K : σ → Prop} {channels : Channels} {port : Port}
variable (hseen : ∀ port kind state o, K o → K (P.observe (.workQueued port kind) state o))

include hseen

theorem held_enqueue : Leads lost (Held K channels) (enqueue P port) fun fresh s =>
    Held K { channels with table := (channels.table.enqueue port).2 } s ∧
      fresh = !channels.table.isQueued port := by
  apply held_onTable_eq.bind_of_eq
  rw [channels.table.enqueue_fst port]
  cases hqueued : channels.table.isQueued port with
  | true => exact .pure fun _ hs => ⟨hs, rfl⟩
  | false =>
    apply held_table
    have htold (kind : Kind) :
        Keeps lost (Held K { channels with table := (channels.table.enqueue port).2 })
          (emit P (.workQueued port kind)) :=
      Leads.emit fun _ _ hs => ⟨hs.channels, hseen _ _ _ _ hs.outside⟩
    exact Leads.bind (htold _) fun _ => .pure fun _ hs => ⟨hs, rfl⟩

theorem held_renew : Leads lost (Held K channels) (renew P port) fun fresh s =>
    Held K { channels with table := ((channels.table.setOutstanding port).2.enqueue port).2 } s ∧
      fresh = !channels.table.isQueued port := by
  apply held_onTable.discard.bind
  intro _
  exact held_enqueue hseen

/-- A broadcast renews the legacy interrupt ports of a list and counts them. -/
theorem held_broadcastTo {ports : List Port} (hports : ports.Nodup) :
    Leads lost (Held K channels) (broadcastTo P ports) fun counts s =>
      (∃ u, Held K { channels with table := u } s ∧
        channels.table.Gains ActionTable.nowhere
          (fun q => channels.table.isIrq q && ports.contains q)
          (fun q => channels.table.isIrq q && ports.contains q) u) ∧
        counts = channels.table.irqCounts ports := by
  induction ports generalizing channels with
  | nil =>
    apply Leads.pure
    intro s hs
    refine ⟨⟨channels.table, hs, ?_⟩, rfl⟩
    exact (ActionTable.Gains.refl _).congr (fun _ => rfl) (fun _ => (Bool.and_false _).symm)
      fun _ => (Bool.and_false _).symm
  | cons port ports ih =>
    obtain ⟨hport, hports⟩ := List.nodup_cons.1 hports
    apply held_table
    split
    next hkind =>
      have hirq : channels.table.isIrq port = true := decide_eq_true hkind
      have hrenew := ActionTable.Gains.renew channels.table port
      apply (held_renew hseen).bind
      intro fresh
      apply Leads.assume
      intro hfresh
      apply (ih hports).bind
      intro counts
      apply Leads.pure
      intro s hs
      obtain ⟨⟨u, hs, hgains⟩, hcounts⟩ := hs
      simp only [hrenew.isIrq_eq] at hgains
      rw [ActionTable.irqCounts_renew hport hrenew] at hcounts
      refine ⟨⟨u, hs, hgains.renew_cons hirq⟩, ?_⟩
      rw [ActionTable.irqCounts_cons_of_isIrq _ hirq, hcounts, hfresh]
      cases channels.table.isQueued port <;> rfl
    next hkind =>
      have hirq : channels.table.isIrq port = false := decide_eq_false hkind
      have hcontains := ActionTable.isIrq_and_contains_cons hirq ports
      apply (ih hports).of_post
      intro counts s hs
      obtain ⟨⟨u, hs, hgains⟩, hcounts⟩ := hs
      rw [ActionTable.irqCounts_cons_of_not_isIrq _ hirq]
      exact ⟨⟨u, hs, hgains.congr (fun _ => rfl) hcontains hcontains⟩, hcounts⟩

theorem held_broadcast : Leads lost (Held K channels) (broadcast P) fun counts s =>
    (∃ u, Held K { channels with table := u } s ∧
      channels.table.Gains ActionTable.nowhere channels.table.isIrq channels.table.isIrq u) ∧
      counts = channels.table.irqCounts Port.all := by
  have hall (q : Port) : (channels.table.isIrq q && Port.all.contains q) = channels.table.isIrq q := by
    rw [List.contains_iff_mem.2 q.mem_all, Bool.and_true]
  have hlist : Leads lost (Held K channels) (broadcast P) _ :=
    held_broadcastTo hseen Port.nodup_all
  simp only [hall] at hlist
  exact hlist

end Observed

/-- A broadcast to ports whose legacy interrupts are all outstanding and queued does nothing. -/
theorem leads_broadcastTo_of_renewed {s : System σ} (ports : List Port)
    (houtstanding : ∀ p, s.channels.table.isIrq p = true → s.channels.table.isOutstanding p = true)
    (hqueued : ∀ p, s.channels.table.isIrq p = true → s.channels.table.isQueued p = true) :
    Leads lost (fun s' => s' = s) (broadcastTo P ports) fun counts s' =>
      counts = (ports.countP s.channels.table.isIrq, 0) ∧ s' = s := by
  have hrenew (port : Port) (hirq : s.channels.table.isIrq port = true) :
      Leads lost (fun s' => s' = s) (renew P port) fun fresh s' => fresh = false ∧ s' = s := by
    have hmark : Leads lost (fun s' => s' = s) (onTable fun t => t.setOutstanding port)
        fun _ s' => s' = s := by
      apply Leads.onTable
      rintro c o rfl
      rw [ActionTable.setOutstanding_of_isOutstanding _ (houtstanding port hirq)]
    have hput : Leads lost (fun s' => s' = s) (onTable fun t => t.enqueue port)
        fun fresh s' => fresh = false ∧ s' = s := by
      apply Leads.onTable
      rintro c o rfl
      have hfresh := hqueued port hirq
      rw [ActionTable.enqueue_fst, ActionTable.enqueue_of_isQueued _ hfresh, hfresh]
      exact ⟨rfl, rfl⟩
    apply hmark.discard.bind
    intro _
    exact hput.bind_of_eq (.pure fun _ hs => ⟨rfl, hs⟩)
  induction ports with
  | nil => exact .pure fun _ hs => ⟨rfl, hs⟩
  | cons port ports ih =>
    have hread : Leads lost (fun s' => s' = s) table fun t s' => t = s.channels.table ∧ s' = s := by
      constructor
      rintro _ rfl
      exact ⟨rfl, rfl⟩
    apply hread.bind_of_eq
    rw [List.countP_cons]
    split
    next hkind =>
      have hirq : s.channels.table.isIrq port = true := decide_eq_true hkind
      apply (hrenew port hirq).bind_of_eq
      apply ih.bind_of_eq
      rw [hirq]
      exact .pure fun _ hs => ⟨rfl, hs⟩
    next hkind =>
      have hirq : s.channels.table.isIrq port = false := decide_eq_false hkind
      rw [hirq]
      exact ih

end Guest

end EventChannel
