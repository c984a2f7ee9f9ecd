import EventChannel.Bitmap
import EventChannel.Port
import EventChannel.Slot

namespace EventChannel

/-- The action table, together with the private bitmaps that have one bit per port. -/
structure ActionTable where
  slots : Vector Slot 1024
  /-- The legacy interrupt ports whose last event has not been acknowledged. -/
  outstanding : Bitmap 16
  /-- The ports whose work item is queued, so that a deferred pass visits no others. -/
  queued : Bitmap 16
deriving DecidableEq

namespace ActionTable

def powerOn : ActionTable :=
  ⟨Vector.replicate 1024 Slot.powerOn, .replicate 16 .empty, .replicate 16 .empty⟩

instance : Inhabited ActionTable := ⟨powerOn⟩

def slot (t : ActionTable) (p : Port) : Slot := t.slots[p.index]

def modifySlot (t : ActionTable) (p : Port) (f : Slot → Slot) : ActionTable :=
  { t with slots := t.slots.set p.index (f t.slots[p.index]) }

def kind (t : ActionTable) (p : Port) : Kind := (t.slot p).kind

def setKind (t : ActionTable) (p : Port) (k : Kind) : ActionTable :=
  t.modifySlot p fun s => { s with kind := k }

def setAction (t : ActionTable) (p : Port) (a : Action) : ActionTable :=
  t.modifySlot p fun s => { s with action := a }

def setWork (t : ActionTable) (p : Port) (w : WorkItem) : ActionTable :=
  t.modifySlot p fun s => { s with work := w }

def setDeliveries (t : ActionTable) (p : Port) (n : UInt64) : ActionTable :=
  t.modifySlot p fun s => { s with deliveries := n }

def setReaders (t : ActionTable) (p : Port) (n : Nat) : ActionTable :=
  t.modifySlot p fun s => { s with readers := n }

def handler? (t : ActionTable) (p : Port) (expected : Kind) : Option HandlerName :=
  (t.slot p).handler? expected

/-- The vector and the description of a legacy interrupt binding. -/
def irqDetails? (t : ActionTable) (p : Port) : Option (UInt32 × String) :=
  (t.slot p).action.irqDetails?

def isQueued (t : ActionTable) (p : Port) : Bool := (t.slot p).work.queued

/-- Whether the port's bit is set in the bitmap of queued ports. -/
def isFlagged (t : ActionTable) (p : Port) : Bool := t.queued.test p.word p.bit

def isOutstanding (t : ActionTable) (p : Port) : Bool := t.outstanding.test p.word p.bit

/-- Whether the port is unbound, has had no events and is not outstanding. -/
def isUnused (t : ActionTable) (p : Port) : Bool :=
  t.kind p = .empty && (t.slot p).deliveries = 0 && !t.isOutstanding p

/-- Queues the port's work item; says whether it was not queued before. -/
def enqueue (t : ActionTable) (p : Port) : Bool × ActionTable :=
  let (fresh, work) := (t.slot p).work.put
  let t := t.setWork p work
  (fresh, if fresh then { t with queued := t.queued.insert p.word p.bit } else t)

/-- Takes the port's work item off the queue; says whether it was queued. -/
def cancel (t : ActionTable) (p : Port) : Bool × ActionTable :=
  let t := { t with queued := t.queued.erase p.word p.bit }
  let (found, work) := (t.slot p).work.take
  (found, t.setWork p work)

/-- Claims the port's work item for running; says whether it was queued. -/
def claim (t : ActionTable) (p : Port) : Bool × ActionTable :=
  let (found, work) := (t.slot p).work.take
  (found, t.setWork p work)

/-- Takes one word of the bitmap of queued ports, leaving it empty. -/
def takeWord (t : ActionTable) (w : Fin 16) : Word × ActionTable :=
  (t.queued.word w, { t with queued := t.queued.setWord w .empty })

/-- Marks the port outstanding; says whether it was marked before. -/
def setOutstanding (t : ActionTable) (p : Port) : Bool × ActionTable :=
  (t.isOutstanding p, { t with outstanding := t.outstanding.insert p.word p.bit })

/-- Removes the port's outstanding mark; says whether it was there. -/
def acknowledge (t : ActionTable) (p : Port) : Bool × ActionTable :=
  (t.isOutstanding p, { t with outstanding := t.outstanding.erase p.word p.bit })

/-- Counts a delivery and returns the new count. -/
def countDelivery (t : ActionTable) (p : Port) : UInt64 × ActionTable :=
  let n := (t.slot p).deliveries + 1
  (n, t.setDeliveries p n)

/-- Takes a reader of the port's action, whatever the action is. -/
def takeReader (t : ActionTable) (p : Port) : ActionTable :=
  t.setReaders p ((t.slot p).readers + 1)

/-- Releases the latest reader of the port's action and returns what it read. -/
def releaseReader? (t : ActionTable) (p : Port) : Option (Option (UInt32 × String) × ActionTable) :=
  match (t.slot p).readers with
  | 0 => none
  | n + 1 => some (t.irqDetails? p, t.setReaders p n)

@[simp] theorem slot_modifySlot_self (t : ActionTable) (p : Port) (f : Slot → Slot) :
    (t.modifySlot p f).slot p = f (t.slot p) := by
  simp only [modifySlot, slot, Fin.getElem_fin, Vector.getElem_set_self]

theorem slot_modifySlot_of_ne (t : ActionTable) {p q : Port} (h : p ≠ q) (f : Slot → Slot) :
    (t.modifySlot p f).slot q = t.slot q := by
  have hne : p.index.val ≠ q.index.val := fun e => h (Port.ext (Fin.ext e))
  simp only [modifySlot, slot, Fin.getElem_fin]
  exact Vector.getElem_set_ne _ _ hne

theorem slot_modifySlot (t : ActionTable) (p q : Port) (f : Slot → Slot) :
    (t.modifySlot p f).slot q = if p = q then f (t.slot q) else t.slot q := by
  by_cases h : p = q
  · subst h
    simp only [slot_modifySlot_self, if_true]
  · simp only [slot_modifySlot_of_ne t h, h, if_false]

@[simp] theorem outstanding_modifySlot (t : ActionTable) (p : Port) (f : Slot → Slot) :
    (t.modifySlot p f).outstanding = t.outstanding := rfl

@[simp] theorem queued_modifySlot (t : ActionTable) (p : Port) (f : Slot → Slot) :
    (t.modifySlot p f).queued = t.queued := rfl

end ActionTable

end EventChannel
