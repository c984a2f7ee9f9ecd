import EventChannel.Proofs.Invocation
import EventChannel.Proofs.PortCustody.Allotment

namespace EventChannel

open Guest

namespace Request

/-- The number of the port that the hypervisor grants with an answer. -/
def granted? : (r : Request) → r.Reply → Option UInt32
  | .hypercall (.allocUnbound _ _), .ok number | .hypercall (.bindIpi _), .ok number => some number
  | _, _ => none

/-- The number of the port that the hypervisor is to take back. -/
def closed? : Request → Option UInt32
  | .hypercall (.close number) => some number
  | _ => none

theorem granted?_eq_none {r : Request} (h : r.movesPort = false) (reply : r.Reply) :
    r.granted? reply = none := by
  unfold granted?
  split
  · cases h
  · cases h
  · rfl

theorem closed?_eq_none {r : Request} (h : r.movesPort = false) : r.closed? = none := by
  unfold closed?
  split
  · cases h
  · rfl

end Request

namespace Entry

def granted? : Entry → Option UInt32
  | answered _ r reply _ => r.granted? reply
  | began .. | ended .. | saw .. | called .. => none

def closed? : Entry → Option UInt32
  | called _ r _ => r.closed?
  | began .. | ended .. | saw .. | answered .. => none

end Entry

namespace History

/-- The numbers of the ports that the hypervisor has granted, the latest first. -/
def granted (history : History) : List UInt32 := history.filterMap Entry.granted?

/-- The numbers of the ports that the hypervisor has been asked to take back, the latest first. -/
def closed (history : History) : List UInt32 := history.filterMap Entry.closed?

/-- Since the history was `base`, ports of certain numbers have been granted and taken back. -/
def Moved (base : History) (granted closed : List UInt32) (history : History) : Prop :=
  ∃ during : History, history = during ++ base ∧ during.granted = granted ∧ during.closed = closed

namespace Moved

variable {base history : History} {granted closed : List UInt32}

theorem nil : Moved base [] [] base := ⟨[], rfl, rfl, rfl⟩

theorem cons (h : Moved base granted closed history) (entry : Entry) :
    Moved base (entry.granted?.toList ++ granted) (entry.closed?.toList ++ closed)
      (entry :: history) := by
  obtain ⟨during, rfl, rfl, rfl⟩ := h
  refine ⟨entry :: during, rfl, ?_, ?_⟩
  · rw [History.granted, List.filterMap_cons]
    cases entry.granted? <;> rfl
  · rw [History.closed, List.filterMap_cons]
    cases entry.closed? <;> rfl

end Moved

end History

/-- Since the history was `base`, ports of certain numbers have been granted and taken back. -/
abbrev Moved (base : History) (granted closed : List UInt32) : System History → Prop :=
  Surrounded (History.Moved base granted closed)

/-- The operations that a client runs before it answers have no port allotted or taken back. -/
def Client.LeavesPorts (c : Client) : Prop :=
  ∀ r history, (c.respond r history).Within fun op => op.movesPort = false

variable {c : Client} {base : History} {granted closed : List UInt32}

namespace Moved

theorem keeps_emit {depth : Nat} {e : Event} :
    Keeps (fun _ => True) (Moved base granted closed) (emit (c.platform depth) e) :=
  Client.leads_emit fun _ _ hs => hs.cons _

/-- What a call moves is what it is for, if the operations that run inside it move nothing. -/
theorem leads_call_of_inner {depth : Nat} {r : Request} (hc : c.LeavesPorts)
    (hinner : ∀ n, depth = n + 1 → ∀ op : Operation, op.movesPort = false → ∀ granted closed,
      Keeps (fun _ => True) (Moved base granted closed) (op.logged (c.platform n) n)) :
    Leads (fun _ => True) (Moved base granted closed) (call (c.platform depth) r) fun reply =>
      Moved base ((r.granted? reply).toList ++ granted) (r.closed?.toList ++ closed) := by
  have hcalled : Leads (fun _ => True) (Moved base granted closed) (record (.called depth r))
      fun _ => Moved base granted (r.closed?.toList ++ closed) :=
    Leads.record fun _ _ hs => hs.cons _
  apply Client.leads_call hcalled
  · rintro n rfl s -
    exact Program.keeps_run (fun op hop => hinner n rfl op hop _ _) (hc r s.outside)
  · exact fun reply => Leads.record fun _ _ hs => hs.cons _

/-- Operations that have no port allotted or taken back move nothing, and neither do those that run
inside them. -/
theorem keeps_logged (hc : c.LeavesPorts) {depth : Nat} {op : Operation} (hop : op.movesPort = false) :
    Keeps (fun _ => True) (Moved base granted closed) (op.logged (c.platform depth) depth) := by
  induction depth using Nat.strongRecOn generalizing op granted closed with
  | _ depth ih =>
    -- The operation makes no request for a port, so that how one is answered does not matter.
    let refusing := (c.platform depth).allotting fun _ => return .error ⟨0⟩
    have hcall (r : Request) : Keeps (fun _ => True) (Moved base granted closed) (call refusing r) := by
      cases hr : r.movesPort with
      | true =>
        cases r with
        | hypercall op =>
          cases op with
          | send port => cases hr
          | _ => exact .pure _
        | _ => cases hr
      | false =>
        have hsame : call refusing r = call (c.platform depth) r := Platform.perform_allotting hr
        have hinner : Leads (fun _ => True) (Moved base granted closed) (call (c.platform depth) r) _ :=
          leads_call_of_inner hc fun n hn op hop granted closed => ih n (hn ▸ Nat.lt_succ_self n) hop
        rw [hsame]
        apply hinner.of_post
        intro reply s hs
        rw [Request.granted?_eq_none hr, Request.closed?_eq_none hr] at hs
        exact hs
    have hemit (e : Event) : Keeps (fun _ => True) (Moved base granted closed) (emit refusing e) := by
      change Keeps _ _ (emit (c.platform depth) e)
      exact keeps_emit
    have hrun : Keeps (fun _ => True) (Moved base granted closed) (op.run refusing) :=
      Operation.keeps_surrounded hemit hcall (fun _ _ => trivial) op
    rw [Operation.run_allotting hop] at hrun
    exact Operation.keeps_logged (Leads.record fun _ _ hs => hs.cons _) hrun
      fun _ => Leads.record fun _ _ hs => hs.cons _

theorem leads_call (hc : c.LeavesPorts) {depth : Nat} (r : Request) :
    Leads (fun _ => True) (Moved base granted closed) (call (c.platform depth) r) fun reply =>
      Moved base ((r.granted? reply).toList ++ granted) (r.closed?.toList ++ closed) :=
  leads_call_of_inner hc fun _ _ _ hop _ _ => keeps_logged hc hop

end Moved

end EventChannel
