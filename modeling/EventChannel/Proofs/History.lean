import EventChannel.Client
import EventChannel.Proofs.Assertion

namespace EventChannel

open Guest

/-- The state of the event channels at the moment of an entry. -/
def Entry.state : Entry → Channels
  | began _ _ state | ended _ _ _ state | saw _ _ state | called _ _ state
  | answered _ _ _ state => state

namespace History

/-- A relation holds of every entry and the history before it. -/
inductive Always (R : Entry → History → Prop) : History → Prop where
  | nil : Always R []
  | cons {entry before} (latest : R entry before) (earlier : Always R before) :
    Always R (entry :: before)

/-- How many operations of a class have begun and not ended. -/
def openCount (class? : Operation → Bool) : History → Nat
  | [] => 0
  | .began _ op _ :: before =>
    if class? op then openCount class? before + 1 else openCount class? before
  | .ended _ op _ _ :: before =>
    if class? op then openCount class? before - 1 else openCount class? before
  | .saw .. :: before | .called .. :: before | .answered .. :: before => openCount class? before

theorem openCount_began (class? : Operation → Bool) (depth : Nat) (op : Operation)
    (state : Channels) (before : History) :
    openCount class? (.began depth op state :: before) =
      openCount class? before + (class? op).toNat := by
  rw [openCount]
  cases class? op <;> rfl

theorem openCount_ended (class? : Operation → Bool) (depth : Nat) (op : Operation)
    (result : Except ChannelError Report) (state : Channels) (before : History) :
    openCount class? (.ended depth op result state :: before) =
      openCount class? before - (class? op).toNat := by
  rw [openCount]
  cases class? op <;> rfl

theorem countP_cons (p : Entry → Bool) (entry : Entry) (before : History) :
    List.countP p (entry :: before) = List.countP p before + (p entry).toNat := by
  rw [List.countP_cons]
  cases p entry <;> rfl

theorem Always.mono {R S : Entry → History → Prop} {history : History} (hR : history.Always R)
    (h : ∀ entry before, R entry before → S entry before) : history.Always S := by
  induction hR with
  | nil => exact .nil
  | cons latest _ ih => exact .cons (h _ _ latest) ih

theorem Always.and {R S : Entry → History → Prop} {history : History} (hR : history.Always R)
    (hS : history.Always S) : history.Always fun entry before => R entry before ∧ S entry before := by
  induction hR with
  | nil => exact .nil
  | cons latest _ ih =>
    cases hS with
    | cons latest' earlier' => exact .cons ⟨latest, latest'⟩ (ih earlier')

/-- What follows at an entry from what holds there and at all entries before. -/
theorem Always.derive {R S : Entry → History → Prop} {history : History} (hR : history.Always R)
    (h : ∀ entry before, R entry before → before.Always R → S entry before) : history.Always S := by
  induction hR with
  | nil => exact .nil
  | cons latest earlier ih => exact .cons (h _ _ latest earlier) ih

/-- What holds always holds at any entry. -/
theorem Always.of_append {R : Entry → History → Prop} {later : History} {entry : Entry}
    {before : History} (h : Always R (later ++ entry :: before)) : R entry before := by
  induction later with
  | nil =>
    cases h with
    | cons latest _ => exact latest
  | cons _ later ih =>
    cases h with
    | cons _ earlier => exact ih earlier

end History

/-- Runs an operation and enters its beginning and its end in the history. -/
def Operation.logged (P : Platform History) (depth : Nat) (op : Operation) :
    Guest History (Except ChannelError Report) := do
  record (.began depth op)
  let result ← op.run P
  record (.ended depth op result)
  return result

variable {α : Type} {lost pre J : System History → Prop}

theorem Guest.Leads.record {entry : Channels → Entry} {post : Unit → System History → Prop}
    (h : ∀ c o, pre ⟨c, o⟩ → post () ⟨c, entry c :: o⟩) :
    Leads lost pre (EventChannel.record entry) post :=
  ⟨fun s hs => h s.channels s.outside hs⟩

theorem Client.leads_emit {c : Client} {depth : Nat} {e : Event}
    {post : Unit → System History → Prop}
    (h : ∀ state o, pre ⟨state, o⟩ → post () ⟨state, .saw depth e state :: o⟩) :
    Leads lost pre (emit (c.platform depth) e) post := by
  apply Leads.emit
  intro state o hs
  cases depth with
  | zero => exact h state o hs
  | succ depth => exact h state o hs

theorem Operation.keeps_logged {P : Platform History} {depth : Nat} {op : Operation}
    {inside : System History → Prop} {after : Except ChannelError Report → System History → Prop}
    (hbegan : Leads lost J (record (.began depth op)) fun _ => inside)
    (hrun : Leads lost inside (op.run P) after)
    (hended : ∀ result, Leads lost (after result) (record (.ended depth op result)) fun _ => J) :
    Keeps lost J (op.logged P depth) := by
  apply Leads.bind hbegan
  intro _
  apply Leads.bind hrun
  intro result
  exact (hended result).bind fun _ => .pure fun _ => id

theorem Program.keeps_run {P : Platform History} {depth : Nat} {allowed : Operation → Prop}
    (hop : ∀ op, allowed op → Keeps lost J (op.logged P depth)) {program : Program α}
    (h : program.Within allowed) : Keeps lost J (program.run P depth) := by
  induction program with
  | done result => exact .pure result
  | step op next ih =>
    have he : (Program.step op next).run P depth =
        op.logged P depth >>= fun result => (next result).run P depth := by
      simp only [Program.run, Operation.logged, bind_assoc, pure_bind]
    rw [he]
    exact (hop op h.1).bind fun result => ih result (h.2 result)

/-- The answer to a call with which nothing is wrong; allocations are granted a number. -/
def Request.granted (number : UInt32) : (r : Request) → r.Reply
  | .hypercall _ => .ok number
  | .setParam _ _ | .connect _ => .ok ()
  | .disconnect _ | .queueDeferred | .flushDeferred | .handle _ _ _ => ()

/-- Runs operations in turn, whatever their results. -/
def Program.sequence (result : α) : List Operation → Program α
  | [] => .done result
  | op :: ops => .step op fun _ => sequence result ops

theorem Program.within_sequence {allowed : Operation → Prop} {result : α} {ops : List Operation} :
    (sequence result ops).Within allowed ↔ ∀ op ∈ ops, allowed op := by
  induction ops with
  | nil => simp only [sequence, Within, List.not_mem_nil, false_implies, implies_true]
  | cons op ops ih =>
    simp only [sequence, Within, ih, List.forall_mem_cons]
    exact and_congr_right fun _ => ⟨fun h => h (.ok .done), fun h _ => h⟩

theorem Program.Within.mono {allowed wider : Operation → Prop} {program : Program α}
    (h : program.Within allowed) (hallowed : ∀ op, allowed op → wider op) :
    program.Within wider := by
  induction program with
  | done result => trivial
  | step op next ih => exact ⟨hallowed op h.1, fun result => ih result (h.2 result)⟩

theorem Program.Within.and {allowed also : Operation → Prop} {program : Program α}
    (h : program.Within allowed) (h' : program.Within also) :
    program.Within fun op => allowed op ∧ also op := by
  induction program with
  | done result => trivial
  | step op next ih => exact ⟨⟨h.1, h'.1⟩, fun result => ih result (h.2 result) (h'.2 result)⟩

theorem Program.within_of_forall {allowed : Operation → Prop} (h : ∀ op, allowed op)
    {program : Program α} : program.Within allowed := by
  induction program with
  | done result => trivial
  | step op next ih => exact ⟨h op, ih⟩

namespace Client

/-- A client that grants what it is asked for, after it ran some operations. -/
def granting (number : UInt32) (ops : Request → List Operation) : Client :=
  ⟨fun r _ => .sequence (r.granted number) (ops r), fun r _ => r.granted number⟩

/-- A client whose handlers raise their event again and start a scanner pass of their own. -/
def reraising : Client :=
  granting 3 fun
    | .handle _ _ port => [.page (.raise port 0), .channels .scannerPass]
    | _ => []

theorem within_reraising {allowed : Operation → Prop}
    (hraise : ∀ port, allowed (.page (.raise port 0))) (hscan : allowed (.channels .scannerPass))
    (r : Request) (history : History) : (reraising.respond r history).Within allowed := by
  apply Program.within_sequence.2
  cases r with
  | handle context handler port =>
    intro op hop
    rcases List.mem_cons.1 hop with rfl | hop
    · exact hraise port
    · rw [List.mem_singleton.1 hop]
      exact hscan
  | _ => exact fun _ hop => absurd hop List.not_mem_nil

/-- What makes indexed assertions hold in turn throughout the runs of a client: a call moves the index
as it is made and again as it is answered, and every operation that may run meanwhile keeps the
assertion if all calls do. -/
structure Sustains (c : Client) (limit : Nat) {ι : Type} (lost : System History → Prop)
    (J : ι → System History → Prop) (ready : ι → Request → System History → Prop)
    (during : ι → Request → ι) (after : ι → (r : Request) → r.Reply → ι)
    (allowed : ι → Operation → Prop) : Prop where
  respond : ∀ i r s, ready i r s → (c.respond r s.outside).Within (allowed (during i r))
  called : ∀ i depth r, Leads lost (ready i r) (record (.called depth r)) fun _ => J (during i r)
  answered : ∀ i depth r reply, (∃ s, ready i r s) →
    Leads lost (J (during i r)) (record (.answered depth r reply)) fun _ => J (after i r reply)
  logged : ∀ depth < limit,
    (∀ i r, Leads lost (ready i r) (call (c.platform depth) r) fun reply => J (after i r reply)) →
    ∀ i op, allowed i op → Keeps lost (J i) (op.logged (c.platform depth) depth)

/-- What makes assertions hold throughout the runs of a client: they survive the entries that its
calls make, and every operation that it may run keeps them if all calls do. The assertion at a
call, which is `ready`, may differ from the assertion at rest. -/
structure Maintains (c : Client) (limit : Nat) {ι : Type} (lost : System History → Prop)
    (J : ι → System History → Prop) (ready : ι → Request → System History → Prop)
    (allowed : ι → Operation → Prop) : Prop where
  respond : ∀ i r s, ready i r s → (c.respond r s.outside).Within (allowed i)
  called : ∀ i depth r, Leads lost (ready i r) (record (.called depth r)) fun _ => J i
  answered : ∀ i depth r reply, Keeps lost (J i) (record (.answered depth r reply))
  logged : ∀ depth < limit,
    (∀ i r, Leads lost (ready i r) (call (c.platform depth) r) fun _ => J i) →
    ∀ i op, allowed i op → Keeps lost (J i) (op.logged (c.platform depth) depth)

variable {c : Client} {limit : Nat} {ι : Type} {J : ι → System History → Prop}
  {ready : ι → Request → System History → Prop} {allowed : ι → Operation → Prop}

/-- A call is told, runs operations a level down, and its answer is told. -/
theorem leads_call {depth : Nat} {r : Request} {during : System History → Prop}
    {post : r.Reply → System History → Prop}
    (hcalled : Leads lost pre (record (.called depth r)) fun _ => during)
    (hrespond : ∀ n, depth = n + 1 → ∀ s, pre s →
      Keeps lost during ((c.respond r s.outside).run (c.platform n) n))
    (hanswered : ∀ reply, Leads lost during (record (.answered depth r reply)) fun _ => post reply) :
    Leads lost pre (call (c.platform depth) r) post := by
  constructor
  intro s hs
  cases depth with
  | zero =>
    have hrun : Leads lost pre (do
        record (.called 0 r)
        record (.answered 0 r (c.answer r s.outside))
        return c.answer r s.outside) post :=
      hcalled.bind fun _ => (hanswered _).bind fun _ => .pure fun _ => id
    exact hrun.run s hs
  | succ depth =>
    have hrun : Leads lost pre (do
        record (.called (depth + 1) r)
        let reply ← (c.respond r s.outside).run (c.platform depth) depth
        record (.answered (depth + 1) r reply)
        return reply) post :=
      hcalled.bind fun _ => Leads.bind (hrespond depth rfl s hs) fun reply =>
        (hanswered reply).bind fun _ => .pure fun _ => id
    exact hrun.run s hs

/-- A call in which no operation is run leaves the event channels as they are. -/
theorem held_call {r : Request} {state : Channels} {K : History → Prop}
    {K' : r.Reply → History → Prop}
    (h : ∀ before, K before → K' (c.answer r before)
      (.answered 0 r (c.answer r before) state :: .called 0 r state :: before)) :
    Leads lost (Held K state) (call (c.platform 0) r) fun reply => Held (K' reply) state := by
  constructor
  rintro ⟨_, before⟩ ⟨rfl, hs⟩
  exact ⟨rfl, h before hs⟩

theorem Sustains.call {during : ι → Request → ι} {after : ι → (r : Request) → r.Reply → ι}
    (h : c.Sustains limit lost J ready during after allowed) {depth : Nat} (hdepth : depth ≤ limit)
    (i : ι) (r : Request) :
    Leads lost (ready i r) (call (c.platform depth) r) fun reply => J (after i r reply) := by
  -- A call of depth zero runs no operation; those that a deeper one runs are a level down.
  induction depth using Nat.strongRecOn generalizing i r with
  | _ depth ih =>
    constructor
    intro s hs
    have hcall : Leads lost (ready i r) (Guest.call (c.platform depth) r) fun reply =>
        J (after i r reply) := by
      apply leads_call (h.called i depth r) _ fun reply => h.answered i depth r reply ⟨s, hs⟩
      rintro n rfl s hs
      have hop := h.logged n hdepth fun i r => ih n (Nat.lt_succ_self n) (Nat.le_of_succ_le hdepth) i r
      exact Program.keeps_run (hop (during i r)) (h.respond i r s hs)
    exact hcall.run s hs

theorem Maintains.sustains (h : c.Maintains limit lost J ready allowed) :
    c.Sustains limit lost J ready (fun i _ => i) (fun i _ _ => i) allowed :=
  ⟨h.respond, h.called, fun i depth r reply _ => h.answered i depth r reply, h.logged⟩

theorem Maintains.call (h : c.Maintains limit lost J ready allowed) {depth : Nat}
    (hdepth : depth ≤ limit) (i : ι) (r : Request) :
    Leads lost (ready i r) (call (c.platform depth) r) fun _ => J i :=
  h.sustains.call hdepth i r

/-- The system at the end of a run that starts with no history, whether it ends by a fault or not. -/
def finish (c : Client) (depth : Nat) (program : Program α) (start : Channels) : System History :=
  match program.run (c.platform depth) depth ⟨start, []⟩ with
  | .ok _ s | .error _ s => s

/-- The history of a run that starts with no history. -/
def history (c : Client) (depth : Nat) (program : Program α) (start : Channels) : History :=
  (c.finish depth program start).outside

theorem Sustains.keeps_run {during : ι → Request → ι} {after : ι → (r : Request) → r.Reply → ι}
    {depth : Nat} {program : Program α}
    (h : c.Sustains (depth + 1) lost J ready during after allowed) (i : ι)
    (hprogram : program.Within (allowed i)) :
    Keeps lost (J i) (program.run (c.platform depth) depth) :=
  Program.keeps_run (h.logged depth (Nat.lt_succ_self depth) (h.call (Nat.le_succ depth)) i) hprogram

/-- What a run leads to holds at the end, if a fault leads to it as well. -/
theorem finish_of_leads {depth : Nat} {program : Program α} {start : Channels}
    {post : System History → Prop}
    (h : Leads post pre (program.run (c.platform depth) depth) fun _ => post)
    (hstart : pre ⟨start, []⟩) : post (c.finish depth program start) := by
  have hrun := h.run ⟨start, []⟩ hstart
  unfold finish
  cases he : program.run (c.platform depth) depth ⟨start, []⟩ with
  | ok a s =>
    rw [he] at hrun
    exact hrun
  | error e s =>
    rw [he] at hrun
    exact hrun

/-- What is kept throughout holds at the end, even if that comes by a fault. -/
theorem Sustains.holds {during : ι → Request → ι} {after : ι → (r : Request) → r.Reply → ι}
    {depth : Nat} {program : Program α} {start : Channels}
    (h : c.Sustains (depth + 1) lost J ready during after allowed) (i : ι)
    (hprogram : program.Within (allowed i)) (hstart : J i ⟨start, []⟩)
    (hJ : ∀ s, J i s → lost s) : lost (c.finish depth program start) :=
  finish_of_leads (Leads.of_post (h.keeps_run i hprogram) fun _ => hJ) hstart

theorem Maintains.holds {depth : Nat} {program : Program α} {start : Channels}
    (h : c.Maintains (depth + 1) lost J ready allowed) (i : ι)
    (hprogram : program.Within (allowed i)) (hstart : J i ⟨start, []⟩)
    (hJ : ∀ s, J i s → lost s) : lost (c.finish depth program start) :=
  h.sustains.holds i hprogram hstart hJ

end Client

end EventChannel
