import EventChannel.Proofs.ActionTable
import EventChannel.Proofs.History

namespace EventChannel

namespace History

/-- The actions that the readers of a port found as they started, the latest first. The latest
reader is the first to end. -/
def readings (port : Port) : History → List Action
  | [] => []
  | .saw _ (.readerTaken p) state :: before =>
    if p = port then (state.table.slot port).action :: readings port before
    else readings port before
  | .saw _ (.readerReleased p) _ :: before =>
    if p = port then (readings port before).tail else readings port before
  | _ :: before => readings port before

/-- A reader of a port has just started. -/
inductive Taken (port : Port) : History → Prop where
  | intro {depth state before} : Taken port (.saw depth (.readerTaken port) state :: before)

/-- The latest reader of a port has just ended, and this is what it found as it started. -/
inductive Released (port : Port) (reading : Action) : History → Prop where
  | intro {depth state others before} (h : readings port before = reading :: others) :
    Released port reading (.saw depth (.readerReleased port) state :: before)

end History

/-- The action of a port is what each of its readers found, whatever kind of action that is. Meanwhile
its handler is found under its own kind, and its details are found. -/
structure ActionTable.Retains (t : ActionTable) (port : Port) (readings : List Action) : Prop where
  counted : (t.slot port).readers = readings.length
  unchanged : ∀ reading ∈ readings, (t.slot port).action = reading
  handler : ∀ reading ∈ readings, t.handler? port reading.kind = reading.handler?
  details : ∀ reading ∈ readings, t.irqDetails? port = reading.irqDetails?

/-- What comes of writing the action of a port that has the given readers. -/
def Port.written (port : Port) (readings : List Action) : Except ChannelError Unit :=
  if readings = [] then .ok () else .error (.slotBusy port)

/-- The result of an operation is what the readers that there are call for. -/
def Operation.Heeds (op : Operation) (result : Except ChannelError Report) (before : History) :
    Prop :=
  match op with
  | .table (.publish port _) | .table (.dropAction port) | .table (.resetSlot port)
  | .channels (.bindInline port _) | .channels (.bindDeferred port _)
  | .channels (.bindIrq port _ _ _) | .channels (.unbind port) =>
    result = Report.ofUnit (port.written (before.readings port))
  | .table .reset =>
    result = Report.ofUnit (forM Port.all fun port => port.written (before.readings port))
  | .table (.callHandler port kind) =>
    ∀ reading ∈ before.readings port, reading.kind = kind → reading.handler?.isSome = true →
      result = .ok (.truth true)
  | .table (.irqDetails port) =>
    ∀ reading ∈ before.readings port, result = .ok (.irqDetails reading.irqDetails?)
  | .table (.takeReader port) => before.Taken port ∧ result = .ok .done
  | .table (.releaseReader port) =>
    (result = .ok .noReader ∧ before.readings port = []) ∨
    ∃ reading, before.Released port reading ∧ result = .ok (.irqDetails reading.irqDetails?)
  | _ => True

/-- An operation that ends has heeded the readers that there are. -/
def Entry.Heeds : Entry → History → Prop
  | ended _ op result _, before => op.Heeds result before
  | _, _ => True

/-- At an entry every port retains what its readers found. -/
def Entry.Isolates (entry : Entry) (before : History) : Prop :=
  (∀ port, entry.state.table.Retains port (History.readings port (entry :: before))) ∧
  entry.Heeds before

/-- Whether an entry tells of a reader that starts or ends. -/
def Entry.movesReader : Entry → Bool
  | saw _ (.readerTaken _) _ | saw _ (.readerReleased _) _ => true
  | _ => false

theorem History.readings_cons {entry : Entry} (h : entry.movesReader = false) (port : Port)
    (before : History) : readings port (entry :: before) = before.readings port := by
  unfold Entry.movesReader at h
  split at h
  · cases h
  · cases h
  next htaken hreleased =>
    rw [readings]
    · exact htaken
    · exact hreleased

namespace ActionTable.Retains

variable {t t' : ActionTable} {port : Port} {readings : List Action}

theorem of_unchanged (hcounted : (t.slot port).readers = readings.length)
    (hunchanged : ∀ reading ∈ readings, (t.slot port).action = reading) : t.Retains port readings := by
  refine ⟨hcounted, hunchanged, fun reading hreading => ?_, fun reading hreading => ?_⟩
  · rw [handler?, Slot.handler?, hunchanged reading hreading, if_pos rfl]
  · rw [irqDetails?, hunchanged reading hreading]

theorem of_slot (h : t.Retains port readings)
    (hreaders : (t'.slot port).readers = (t.slot port).readers)
    (haction : (t'.slot port).action = (t.slot port).action) : t'.Retains port readings :=
  of_unchanged (hreaders.trans h.counted) fun reading hreading =>
    haction.trans (h.unchanged reading hreading)

theorem of_no_readers (h : (t.slot port).readers = 0) : t.Retains port [] :=
  of_unchanged h fun _ hreading => absurd hreading List.not_mem_nil

theorem eq_nil_iff (h : t.Retains port readings) : readings = [] ↔ (t.slot port).readers = 0 := by
  rw [h.counted, List.length_eq_zero_iff]

/-- The readings of other ports are no matter of a port's readers. -/
theorem setReaders_of_ne (h : t.Retains port readings) {p : Port} (hne : p ≠ port) (n : Nat) :
    (t.setReaders p n).Retains port readings := by
  apply h.of_slot
  · rw [readers_setReaders, if_neg hne]
  · exact t.action_setReaders p port n

/-- A reader that starts finds the action that is there. -/
theorem taken (h : t.Retains port readings) :
    (t.takeReader port).Retains port ((t.slot port).action :: readings) := by
  apply of_unchanged
  · rw [takeReader, readers_setReaders, if_pos rfl, h.counted, List.length_cons]
  · intro reading hreading
    rw [takeReader, action_setReaders]
    rcases List.mem_cons.1 hreading with rfl | hreading
    · rfl
    · exact h.unchanged reading hreading

/-- The reader that ends is the latest, and the others remain. -/
theorem released {reading : Action} {others : List Action} {n : Nat}
    (h : t.Retains port (reading :: others)) (hn : (t.slot port).readers = n + 1) :
    (t.setReaders port n).Retains port others := by
  apply of_unchanged
  · rw [readers_setReaders, if_pos rfl]
    exact (Nat.succ.inj (h.counted.symm.trans hn)).symm
  · intro r hr
    rw [action_setReaders]
    exact h.unchanged r (List.mem_cons_of_mem reading hr)

end ActionTable.Retains

end EventChannel
