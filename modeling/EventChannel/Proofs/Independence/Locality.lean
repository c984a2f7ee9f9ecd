import EventChannel.Proofs.ActionTable
import EventChannel.Proofs.Assertion
import EventChannel.Proofs.SharedPage

namespace EventChannel

namespace VcpuSlot

theorem alert_of_flagged {v : VcpuSlot} {w : Fin 64} (h : v.selector.test w = true) :
    v.alert w = v := if_pos h

theorem alert_of_not_flagged {v : VcpuSlot} {w : Fin 64} (h : ¬v.selector.test w = true) :
    v.alert w = (v.flagWord w).raiseUpcall := if_neg h

theorem alert_alert (v : VcpuSlot) (w : Fin 64) : (v.alert w).alert w = v.alert w := by
  apply alert_of_flagged
  rw [selector_alert, Word.test_insert, decide_eq_true rfl, Bool.true_or]

theorem alert_comm (v : VcpuSlot) (w u : Fin 64) : (v.alert w).alert u = (v.alert u).alert w := by
  by_cases hne : w = u
  · rw [hne]
  -- An alert leaves the flags of the other words as they are, so it is new in both orders or neither.
  have hflag {w u : Fin 64} (hne : w ≠ u) : (v.alert w).selector.test u = v.selector.test u := by
    rw [selector_alert, Word.test_insert, decide_eq_false hne, Bool.false_or]
  by_cases hw : v.selector.test w = true
  · have hw' : (v.alert u).selector.test w = true := (hflag (Ne.symm hne)).trans hw
    rw [alert_of_flagged hw, alert_of_flagged hw']
  by_cases hu : v.selector.test u = true
  · have hu' : (v.alert w).selector.test u = true := (hflag hne).trans hu
    rw [alert_of_flagged hu, alert_of_flagged hu']
  have hcomm : (v.selector.insert w).insert u = (v.selector.insert u).insert w := by
    apply Word.ext_test
    intro b
    simp only [Word.test_insert, ← Bool.or_assoc, Bool.or_comm (decide (u = b))]
  have hw' : ¬(v.alert u).selector.test w = true := by rwa [hflag (Ne.symm hne)]
  have hu' : ¬(v.alert w).selector.test u = true := by rwa [hflag hne]
  rw [alert_of_not_flagged hu', alert_of_not_flagged hw', alert_of_not_flagged hw,
    alert_of_not_flagged hu]
  simp only [flagWord, raiseUpcall, hcomm]

/-- Alerts a virtual processor if it is among those to be alerted. -/
def alertAmong (alerted : List (Fin 32)) (i : Fin 32) (w : Fin 64) (v : VcpuSlot) : VcpuSlot :=
  if i ∈ alerted then v.alert w else v

theorem alertAmong_append (earlier later : List (Fin 32)) (i : Fin 32) (w : Fin 64)
    (v : VcpuSlot) : (v.alertAmong earlier i w).alertAmong later i w =
      v.alertAmong (earlier ++ later) i w := by
  unfold alertAmong
  by_cases hearlier : i ∈ earlier <;> by_cases hlater : i ∈ later <;>
    simp only [hearlier, hlater, if_true, if_false, List.mem_append, or_true, or_false, or_self,
      alert_alert]

theorem alertAmong_comm (first second : List (Fin 32)) (i : Fin 32) (w u : Fin 64)
    (v : VcpuSlot) : (v.alertAmong first i w).alertAmong second i u =
      (v.alertAmong second i u).alertAmong first i w := by
  unfold alertAmong
  by_cases hfirst : i ∈ first <;> by_cases hsecond : i ∈ second <;>
    simp only [hfirst, hsecond, if_true, if_false]
  exact alert_comm v w u

end VcpuSlot

namespace SharedPage

/-- Two pages have the same bits at one place. -/
structure AgreeAt (w b : Fin 64) (s t : SharedPage) : Prop where
  mask : s.mask.test w b = t.mask.test w b
  pending : s.pending.test w b = t.pending.test w b

/-- A page comes from another by changes to the bits of one port and by alerts of its word. -/
structure ChangedAt (p : Port) (alerted : List (Fin 32)) (s t : SharedPage) : Prop where
  others : ∀ w b, ¬(p.pageWord = w ∧ p.bit = b) → AgreeAt w b s t
  vcpu : ∀ i, t.vcpu i = (s.vcpu i).alertAmong alerted i p.pageWord
  reserved : t.reserved = s.reserved

theorem ext_parts {s t : SharedPage} (hbits : ∀ w b, AgreeAt w b s t)
    (hvcpu : ∀ i, s.vcpu i = t.vcpu i) (hreserved : s.reserved = t.reserved) : s = t := by
  obtain ⟨vcpus, pending, mask, reserved⟩ := s
  obtain ⟨vcpus', pending', mask', reserved'⟩ := t
  obtain rfl : pending = pending' := Bitmap.ext_test fun w b => (hbits w b).pending
  obtain rfl : mask = mask' := Bitmap.ext_test fun w b => (hbits w b).mask
  obtain rfl : vcpus = vcpus' := Vector.ext fun i hi => hvcpu ⟨i, hi⟩
  obtain rfl : reserved = reserved' := hreserved
  rfl

namespace AgreeAt

variable {w b : Fin 64} {s t u : SharedPage}

theorem refl (s : SharedPage) : AgreeAt w b s s := ⟨rfl, rfl⟩

theorem symm (h : AgreeAt w b s t) : AgreeAt w b t s := ⟨h.mask.symm, h.pending.symm⟩

theorem trans (h : AgreeAt w b s t) (h' : AgreeAt w b t u) : AgreeAt w b s u :=
  ⟨h.mask.trans h'.mask, h.pending.trans h'.pending⟩

theorem isMasked {p : Port} (h : AgreeAt p.pageWord p.bit s t) : s.isMasked p = t.isMasked p :=
  h.mask

theorem isPending {p : Port} (h : AgreeAt p.pageWord p.bit s t) : s.isPending p = t.isPending p :=
  h.pending

end AgreeAt

namespace ChangedAt

variable {p : Port} {earlier later : List (Fin 32)} {s t u : SharedPage}

theorem refl (p : Port) (s : SharedPage) : ChangedAt p [] s s :=
  ⟨fun _ _ _ => .refl s, fun _ => (if_neg List.not_mem_nil).symm, rfl⟩

theorem trans (h : ChangedAt p earlier s t) (h' : ChangedAt p later t u) :
    ChangedAt p (earlier ++ later) s u where
  others w b hne := (h.others w b hne).trans (h'.others w b hne)
  vcpu i := by rw [h'.vcpu, h.vcpu, VcpuSlot.alertAmong_append]
  reserved := h'.reserved.trans h.reserved

theorem setMask (p : Port) (s : SharedPage) : ChangedAt p [] s (s.setMask p.pageWord p.bit) where
  others w b hne := ⟨by simp only [SharedPage.setMask, Bitmap.test_insert, hne, decide_false,
    Bool.false_or], rfl⟩
  vcpu := (refl p s).vcpu
  reserved := rfl

theorem clearMask (p : Port) (s : SharedPage) :
    ChangedAt p [] s (s.clearMask p.pageWord p.bit) where
  others w b hne := ⟨by simp only [SharedPage.clearMask, Bitmap.test_erase, hne, decide_false,
    Bool.not_false, Bool.true_and], rfl⟩
  vcpu := (refl p s).vcpu
  reserved := rfl

theorem setPending (p : Port) (s : SharedPage) :
    ChangedAt p [] s (s.setPending p.pageWord p.bit) where
  others w b hne := ⟨rfl, by simp only [SharedPage.setPending, Bitmap.test_insert, hne,
    decide_false, Bool.false_or]⟩
  vcpu := (refl p s).vcpu
  reserved := rfl

theorem clearPending (p : Port) (s : SharedPage) :
    ChangedAt p [] s (s.clearPending p.pageWord p.bit) where
  others w b hne := ⟨rfl, by simp only [SharedPage.clearPending, Bitmap.test_erase, hne,
    decide_false, Bool.not_false, Bool.true_and]⟩
  vcpu := (refl p s).vcpu
  reserved := rfl

theorem alert (p : Port) (v : Fin 32) (s : SharedPage) :
    ChangedAt p [v] s (s.modifyVcpu v fun slot => slot.alert p.pageWord) where
  others _ _ _ := ⟨rfl, rfl⟩
  vcpu i := by
    unfold VcpuSlot.alertAmong
    split
    next he => rw [List.mem_singleton.1 he, vcpu_modifyVcpu_self]
    next hne => rw [vcpu_modifyVcpu_of_ne _ _ fun he => hne (List.mem_singleton.2 he.symm)]
  reserved := rfl

end ChangedAt

end SharedPage

namespace ActionTable

/-- Two tables have the same entry and the same private bits for a port. -/
structure AgreeAt (p : Port) (t u : ActionTable) : Prop where
  slot : t.slot p = u.slot p
  outstanding : t.isOutstanding p = u.isOutstanding p
  flagged : t.isFlagged p = u.isFlagged p

/-- A change to a table that is about one port reads and writes what it has for that port only. -/
structure IsLocal {α : Type} (p : Port) (f : ActionTable → α × ActionTable) : Prop where
  others : ∀ t q, p ≠ q → AgreeAt q t (f t).2
  own : ∀ t u, AgreeAt p t u → (f t).1 = (f u).1 ∧ AgreeAt p (f t).2 (f u).2

theorem ext_agree {t u : ActionTable} (h : ∀ p, AgreeAt p t u) : t = u :=
  ext_ports (fun p => (h p).slot) (fun p => (h p).outstanding) fun p => (h p).flagged

namespace AgreeAt

variable {p : Port} {t u v : ActionTable}

theorem refl (t : ActionTable) : AgreeAt p t t := ⟨rfl, rfl, rfl⟩

theorem symm (h : AgreeAt p t u) : AgreeAt p u t :=
  ⟨h.slot.symm, h.outstanding.symm, h.flagged.symm⟩

theorem trans (h : AgreeAt p t u) (h' : AgreeAt p u v) : AgreeAt p t v :=
  ⟨h.slot.trans h'.slot, h.outstanding.trans h'.outstanding, h.flagged.trans h'.flagged⟩

theorem kind (h : AgreeAt p t u) : t.kind p = u.kind p := congrArg Slot.kind h.slot

theorem modifySlot (h : AgreeAt p t u) (f : Slot → Slot) :
    AgreeAt p (t.modifySlot p f) (u.modifySlot p f) := by
  refine ⟨?_, h.outstanding, h.flagged⟩
  rw [slot_modifySlot_self, slot_modifySlot_self, h.slot]

theorem modifySlot_of_ne {q : Port} (hne : p ≠ q) (t : ActionTable) (f : Slot → Slot) :
    AgreeAt q t (t.modifySlot p f) := ⟨(slot_modifySlot_of_ne t hne f).symm, rfl, rfl⟩

end AgreeAt

variable (p : Port)

theorem isLocal_modifySlot (f : Slot → Slot) :
    IsLocal p fun t => ((), t.modifySlot p f) :=
  ⟨fun t _ hne => .modifySlot_of_ne hne t f, fun _ _ h => ⟨rfl, h.modifySlot f⟩⟩

theorem isLocal_enqueue : IsLocal p fun t => t.enqueue p where
  others t q hne := by
    refine ⟨?_, (t.isOutstanding_enqueue p q).symm, ?_⟩
    · rw [slot_enqueue, setWork, slot_modifySlot_of_ne t hne]
    · cases hqueued : t.isQueued p with
      | true => exact (t.isFlagged_enqueue_of_queued p q hqueued).symm
      | false => rw [t.isFlagged_enqueue p q hqueued, if_neg hne]
  own t u h := by
    have hqueued : t.isQueued p = u.isQueued p := by rw [isQueued, isQueued, h.slot]
    refine ⟨?_, ?_, ?_, ?_⟩
    · rw [enqueue_fst, enqueue_fst, hqueued]
    · rw [slot_enqueue, slot_enqueue]
      exact (h.modifySlot _).slot
    · rw [isOutstanding_enqueue, isOutstanding_enqueue, h.outstanding]
    · cases hq : t.isQueued p with
      | true =>
        rw [t.isFlagged_enqueue_of_queued p p hq,
          u.isFlagged_enqueue_of_queued p p (hqueued.symm.trans hq), h.flagged]
      | false =>
        rw [t.isFlagged_enqueue p p hq, u.isFlagged_enqueue p p (hqueued.symm.trans hq), if_pos rfl,
          if_pos rfl]

theorem isLocal_cancel : IsLocal p fun t => t.cancel p where
  others t q hne := by
    refine ⟨?_, rfl, ?_⟩
    · rw [slot_cancel, setWork, slot_modifySlot_of_ne t hne]
    · rw [isFlagged_cancel, if_neg hne]
  own t u h := by
    refine ⟨congrArg (fun s => s.work.queued) h.slot, ?_, h.outstanding, ?_⟩
    · rw [slot_cancel, slot_cancel]
      exact (h.modifySlot _).slot
    · rw [isFlagged_cancel, isFlagged_cancel, if_pos rfl, if_pos rfl]

theorem isLocal_setOutstanding : IsLocal p fun t => t.setOutstanding p where
  others t q hne := ⟨rfl, by rw [isOutstanding_setOutstanding, if_neg hne], rfl⟩
  own t u h := ⟨h.outstanding, h.slot,
    by rw [isOutstanding_setOutstanding, isOutstanding_setOutstanding, if_pos rfl, if_pos rfl],
    h.flagged⟩

theorem isLocal_acknowledge : IsLocal p fun t => t.acknowledge p where
  others t q hne := ⟨rfl, by rw [isOutstanding_acknowledge, if_neg hne], rfl⟩
  own t u h := ⟨h.outstanding, h.slot,
    by rw [isOutstanding_acknowledge, isOutstanding_acknowledge, if_pos rfl, if_pos rfl],
    h.flagged⟩

theorem isLocal_countDelivery : IsLocal p fun t => t.countDelivery p where
  others t q hne := by
    change AgreeAt q t (t.setDeliveries p _)
    exact .modifySlot_of_ne hne t _
  own t u h := by
    have hcount : (t.slot p).deliveries + 1 = (u.slot p).deliveries + 1 := by rw [h.slot]
    refine ⟨hcount, ?_⟩
    change AgreeAt p (t.setDeliveries p _) (u.setDeliveries p _)
    rw [hcount]
    exact h.modifySlot _

end ActionTable

/-- Two states have the same of a port, and the same configuration. -/
structure Channels.AgreeAt (p : Port) (c d : Channels) : Prop where
  page : SharedPage.AgreeAt p.pageWord p.bit c.page d.page
  table : ActionTable.AgreeAt p c.table d.table
  config : c.config = d.config

/-- A state comes from another by changes to what it has of one port and by alerts of its word. -/
structure Channels.ChangedAt (p : Port) (alerted : List (Fin 32)) (c d : Channels) : Prop where
  page : SharedPage.ChangedAt p alerted c.page d.page
  table : ∀ q, p ≠ q → ActionTable.AgreeAt q c.table d.table
  rest : d = { c with page := d.page, table := d.table }

theorem Port.place_ne {p q : Port} (h : p ≠ q) : ¬(p.pageWord = q.pageWord ∧ p.bit = q.bit) :=
  fun hplace => h ((place_eq_iff words_le_pageWords).1 hplace)

namespace Channels

variable {p q : Port} {earlier later alerted : List (Fin 32)} {c d e : Channels}

theorem AgreeAt.refl (c : Channels) : AgreeAt p c c := ⟨.refl _, .refl _, rfl⟩

namespace ChangedAt

theorem refl (p : Port) (c : Channels) : ChangedAt p [] c c :=
  ⟨.refl p _, fun _ _ => .refl _, rfl⟩

theorem trans (h : ChangedAt p earlier c d) (h' : ChangedAt p later d e) :
    ChangedAt p (earlier ++ later) c e where
  page := h.page.trans h'.page
  table q hne := (h.table q hne).trans (h'.table q hne)
  rest := by
    rw [h'.rest, h.rest]

theorem config (h : ChangedAt p alerted c d) : d.config = c.config := by rw [h.rest]

/-- What is changed at one port agrees at the others. -/
theorem agreeAt (h : ChangedAt p alerted c d) (hne : p ≠ q) : AgreeAt q c d :=
  ⟨h.page.others _ _ (Port.place_ne hne), h.table q hne, h.config.symm⟩

end ChangedAt

/-- Changes at two ports come to the same in both orders, if either does the same to its port before
and after the other. -/
theorem ChangedAt.square {first second : List (Fin 32)} {cp cq cpq cqp : Channels} (hne : p ≠ q)
    (hp : ChangedAt p first c cp) (hq : ChangedAt q second c cq) (hpq : ChangedAt q second cp cpq)
    (hqp : ChangedAt p first cq cqp) (hownp : AgreeAt p cp cqp) (hownq : AgreeAt q cq cpq) :
    cpq = cqp := by
  have hpage : cpq.page = cqp.page := by
    apply SharedPage.ext_parts
    · intro w b
      by_cases hw : p.pageWord = w ∧ p.bit = b
      · obtain ⟨rfl, rfl⟩ := hw
        exact (hpq.page.others _ _ (Port.place_ne hne.symm)).symm.trans hownp.page
      · by_cases hw' : q.pageWord = w ∧ q.bit = b
        · obtain ⟨rfl, rfl⟩ := hw'
          exact hownq.page.symm.trans (hqp.page.others _ _ hw)
        · exact (((hp.page.others w b hw).trans (hpq.page.others w b hw')).symm.trans
            (hq.page.others w b hw')).trans (hqp.page.others w b hw)
    · intro i
      rw [hpq.page.vcpu, hp.page.vcpu, hqp.page.vcpu, hq.page.vcpu, VcpuSlot.alertAmong_comm]
    · rw [hpq.page.reserved, hp.page.reserved, hqp.page.reserved, hq.page.reserved]
  have htable : cpq.table = cqp.table := by
    apply ActionTable.ext_agree
    intro r
    by_cases hr : p = r
    · subst hr
      exact (hpq.table p hne.symm).symm.trans hownp.table
    · by_cases hr' : q = r
      · subst hr'
        exact hownq.table.symm.trans (hqp.table q hne)
      · exact (((hp.table r hr).trans (hpq.table r hr')).symm.trans
          (hq.table r hr')).trans (hqp.table r hr)
  rw [hpq.rest, hqp.rest, hp.rest, hq.rest, hpage, htable]

end Channels

end EventChannel
