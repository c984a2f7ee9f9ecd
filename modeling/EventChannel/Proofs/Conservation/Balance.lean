import EventChannel.Proofs.History
import EventChannel.Proofs.Keeping.Operation
import EventChannel.Proofs.SharedPage

namespace EventChannel

open Guest

namespace Entry

/-- Whether an operation returned true. -/
def confirmed : Except ChannelError Report → Bool
  | .ok (.truth value) => value
  | _ => false

/-- Whether a delivery of a new event on a bit ends at an entry. -/
def raises (w b : Fin 64) : Entry → Bool
  | ended _ (.page (.raise port _)) result _ =>
    confirmed result && decide (port.pageWord = w ∧ port.bit = b)
  | ended _ (.page (.raiseAt word bit _)) result _ =>
    confirmed result && decide (word = w.val ∧ bit = b)
  | _ => false

/-- Whether a scanner pass consumes a bit at an entry. -/
def consumes (w b : Fin 64) : Entry → Bool
  | saw _ (.consumed word bit) _ => word = w ∧ bit = b
  | _ => false

/-- Whether a pending bit is removed at an entry without being serviced: by clearing it, or with the
whole bitmap. -/
def removes (w b : Fin 64) : Entry → Bool
  | ended _ (.page (.clear port)) result _ =>
    confirmed result && decide (port.pageWord = w ∧ port.bit = b)
  | ended _ (.page (.clearAt word bit)) result _ =>
    confirmed result && decide (word = w.val ∧ bit = b)
  | saw _ (.pendingDropped pending) _ => pending.test w b
  | _ => false

/-- Whether an entry is about no pending bit. -/
def IsNeutral (entry : Entry) : Prop :=
  ∀ w b, entry.raises w b = false ∧ entry.consumes w b = false ∧ entry.removes w b = false

/-- Whether the results of all writes to the pending bitmap are in the history by an entry. -/
def isSettled : Entry → Bool
  | saw _ (.raised _ _) _ | saw _ (.discarded _ _) _ => false
  | _ => true

end Entry

/-- Every event, from the initial ones on, has been consumed or removed or is pending. -/
def Balanced (initial pending : Bitmap 64) (history : History) : Prop :=
  ∀ w b, (initial.test w b).toNat + history.countP (Entry.raises w b) =
    history.countP (Entry.consumes w b) + history.countP (Entry.removes w b) +
      (pending.test w b).toNat

/-- The balance at an entry, if it is settled. -/
def Entry.Balances (initial : Bitmap 64) (entry : Entry) (before : History) : Prop :=
  entry.isSettled = true → Balanced initial entry.state.page.pending (entry :: before)

namespace Balanced

variable {initial old pending : Bitmap 64} {history : History} {entry : Entry}

theorem cons (h : Balanced initial old history)
    (hentry : ∀ w b, (old.test w b).toNat + (entry.raises w b).toNat =
      (entry.consumes w b).toNat + (entry.removes w b).toNat + (pending.test w b).toNat) :
    Balanced initial pending (entry :: history) := by
  intro w b
  have hold := h w b
  have hnew := hentry w b
  rw [History.countP_cons, History.countP_cons, History.countP_cons]
  omega

theorem neutral (h : Balanced initial pending history) (hentry : entry.IsNeutral) :
    Balanced initial pending (entry :: history) := by
  apply h.cons
  intro w b
  obtain ⟨hraises, hconsumes, hremoves⟩ := hentry w b
  rw [hraises, hconsumes, hremoves]
  simp only [Bool.toNat_false, Nat.add_zero, Nat.zero_add]

theorem insert {word bit : Fin 64} (h : Balanced initial old history)
    (hold : old.test word bit = false)
    (hraises : ∀ w b, entry.raises w b = decide (word = w ∧ bit = b))
    (hother : ∀ w b, entry.consumes w b = false ∧ entry.removes w b = false)
    (hpending : ∀ w b, pending.test w b = (old.insert word bit).test w b) :
    Balanced initial pending (entry :: history) := by
  apply h.cons
  intro w b
  obtain ⟨hconsumes, hremoves⟩ := hother w b
  rw [hraises, hconsumes, hremoves, hpending, Bitmap.test_insert]
  by_cases he : word = w ∧ bit = b
  · obtain ⟨rfl, rfl⟩ := he
    simp [hold]
  · simp [he]

theorem erase {word bit : Fin 64} (h : Balanced initial old history)
    (hold : old.test word bit = true) (hraises : ∀ w b, entry.raises w b = false)
    (hother : ∀ w b, (entry.consumes w b).toNat + (entry.removes w b).toNat =
      (decide (word = w ∧ bit = b)).toNat) :
    Balanced initial (old.erase word bit) (entry :: history) := by
  apply h.cons
  intro w b
  rw [hraises, hother, Bitmap.test_erase]
  by_cases he : word = w ∧ bit = b
  · obtain ⟨rfl, rfl⟩ := he
    simp [hold]
  · simp [he]

theorem dropped {depth : Nat} {state : Channels} (h : Balanced initial old history) :
    Balanced initial (.replicate 64 .empty) (.saw depth (.pendingDropped old) state :: history) := by
  apply h.cons
  intro w b
  simp [Entry.raises, Entry.consumes, Entry.removes]

end Balanced

end EventChannel
