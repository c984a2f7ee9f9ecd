import EventChannel.Proofs.Description.Table
import EventChannel.Proofs.Description.Truncation

namespace EventChannel

open Guest

/-- The result of an operation shows what stands, and the bindings that it tells of are in force. -/
def Operation.Tells (op : Operation) (result : Except ChannelError Report) (s : System History) :
    Prop :=
  op.Shows result s.outside ∧ ∀ p irq, op.boundIrq? p result = some irq →
    (s.channels.table.slot p).action = .deferredHardwareIrq irq

namespace Upheld

variable {c : Client} {depth : Nat} {port : Port}

theorem keeps_countDelivery (port : Port) :
    Keeps Upheld Upheld (onTable fun t => t.countDelivery port) :=
  keeps_onTable fun t q => t.field_modifySlot port q fun _ => rfl

section Calls

variable (hcall : ∀ r, Keeps Upheld Upheld (call (c.platform depth) r))

include hcall

theorem stable : Stable (c.platform depth) Upheld Upheld :=
  ⟨fun r _ _ _ => hcall r, keepsRemarks⟩

theorem keeps_deliver (port : Port) :
    Keeps Upheld Upheld (deliver (c.platform depth) port) :=
  keeps_deliver_of_starts (stable hcall) (hcall _) (fun _ => hcall _) (keeps_countDelivery port)
    (fun _ _ => keeps_note _) (fun _ => keeps_onTable fun _ _ => rfl) keeps_enqueue

theorem keeps_runItem (port : Port) :
    Keeps Upheld Upheld (runItem (c.platform depth) port) := by
  have hclaim : Keeps Upheld Upheld (onTable fun t => t.claim port) :=
    keeps_onTable fun t q => t.field_modifySlot port q fun _ => rfl
  exact leads_runItem (stable hcall) hclaim keeps_emit fun _ => hcall _

theorem parts : Operation.Parts (c.platform depth) Upheld Upheld where
  stable := stable hcall
  line r _ := hcall r
  page := pageIndifferent
  setInterruptsMasked _ := ⟨fun _ hs => ⟨hs.now, hs.always⟩⟩
  setConnected _ := ⟨fun _ hs => ⟨hs.now, hs.always⟩⟩
  setSuspendPort _ := ⟨fun _ hs => ⟨hs.now, hs.always⟩⟩
  publish := keeps_publish
  dropAction := keeps_dropAction
  resetSlot := keeps_resetSlot
  enqueue := keeps_enqueue
  cancel := keeps_cancel
  takeWord _ := keeps_onTable fun _ _ => rfl
  setOutstanding _ := keeps_onTable fun _ _ => rfl
  acknowledge _ := keeps_onTable fun _ _ => rfl
  reader _ hop := TableOperation.keeps_moveReader (fun _ _ => keeps_modifySlot fun _ _ => rfl)
    (fun _ => keeps_emit) (fun _ => keeps_emit) hop
  consume _ _ := keeps_consume (stable hcall) (keeps_onPage _) keeps_emit (keeps_deliver hcall)
  runItem := keeps_runItem hcall

theorem leads_run_of_silent {op : Operation} (hshows : ∀ result before, op.Shows result before)
    (hbound : ∀ p result, op.boundIrq? p result = none) :
    Leads Upheld Upheld (op.run (c.platform depth)) fun result s =>
      Upheld s ∧ op.Tells result s := by
  have hrun : Keeps Upheld Upheld (op.run (c.platform depth)) :=
    (parts hcall).run (fun _ => id) fun port _ => keeps_countDelivery port
  apply hrun.of_post
  intro result s hs
  refine ⟨hs, hshows result _, fun p irq he => ?_⟩
  rw [hbound] at he
  cases he

theorem leads_run (op : Operation) : Leads Upheld Upheld (op.run (c.platform depth))
    fun result s => Upheld s ∧ op.Tells result s := by
  cases op with
  | page op => exact leads_run_of_silent hcall (fun _ _ => trivial) fun _ _ => rfl
  | vcpu v op => exact leads_run_of_silent hcall (fun _ _ => trivial) fun _ _ => rfl
  | table op =>
    cases op with
    | irqDetails port =>
      apply Leads.table.bind
      intro t
      apply Leads.pure
      intro s hs
      obtain ⟨hs, rfl⟩ := hs
      refine ⟨hs, fun irq hirq => ?_, nofun⟩
      rw [ActionTable.irqDetails?, hs.now port irq nofun hirq]
      rfl
    | _ => exact leads_run_of_silent hcall (fun _ _ => trivial) fun _ _ => rfl
  | channels op =>
    cases op with
    | bindIrq port vector description handler =>
      apply leads_attach.bind
      intro result
      apply Leads.pure
      intro s hs
      refine ⟨hs.1, trivial, fun p irq he => ?_⟩
      cases result with
      | error e => cases he
      | ok _ =>
        change (if port = p then _ else none) = some irq at he
        split at he
        next hp =>
          cases he
          rw [← hp]
          exact (hs.2 rfl).2
        next => cases he
    | portSnapshot port =>
      have hread : Leads Upheld Upheld (portSnapshot port) fun snapshot s =>
          Upheld s ∧ snapshot.vector = (s.channels.table.irqDetails? port).map Prod.fst ∧
            snapshot.description = (s.channels.table.irqDetails? port).map Prod.snd := by
        apply Leads.channels.bind
        intro state
        apply Leads.pure
        intro s hs
        obtain ⟨hs, rfl⟩ := hs
        exact ⟨hs, rfl, rfl⟩
      apply hread.bind
      intro snapshot
      apply Leads.pure
      intro s hs
      obtain ⟨hs, hvector, hdescription⟩ := hs
      refine ⟨hs, fun irq hirq => ⟨snapshot, rfl, ?_⟩, nofun⟩
      rw [hvector, hdescription, ActionTable.irqDetails?, hs.now port irq nofun hirq]
      exact ⟨rfl, rfl⟩
    | _ => exact leads_run_of_silent hcall (fun _ _ => trivial) fun _ _ => rfl

theorem keeps_logged (op : Operation) :
    Keeps Upheld Upheld (op.logged (c.platform depth) depth) := by
  apply Operation.keeps_logged _ (leads_run hcall op)
  · intro result
    apply Leads.record
    intro state o hs
    obtain ⟨hs, hshows, hbound⟩ := hs
    have hnow : state.table.Upholds none (.ended depth op result state :: o) :=
      hs.now.cons_bound hbound
    exact ⟨hnow, .cons ⟨hnow, hshows⟩ hs.always⟩
  · exact keeps_record (fun _ => rfl) (fun _ _ => rfl) fun _ _ => trivial

end Calls

theorem maintains (c : Client) (limit : Nat) :
    c.Maintains limit Upheld (fun _ : Unit => Upheld) (fun _ _ => Upheld)
      fun _ _ => True where
  respond _ _ _ _ := Program.within_of_forall fun _ => trivial
  called _ _ _ := keeps_record (fun _ => rfl) (fun _ _ => rfl) fun _ _ => trivial
  answered _ _ _ _ := keeps_record (fun _ => rfl) (fun _ _ => rfl) fun _ _ => trivial
  logged _ _ hcall _ op _ := keeps_logged (hcall ()) op

end Upheld

/-- The description that a binding keeps is the longest beginning of the given text that has at most
128 bytes: at most three bytes of the permitted length are lost, and the search for the last boundary
ends there. Whatever operations are run and however they are nested, a binding as a legacy interrupt
stays in force until the port is published, dropped or reset, and is what every lookup shows. -/
theorem description_is_longest_beginning (c : Client) (depth : Nat) {α : Type} (program : Program α)
    (start : Channels) :
    (∀ (handler : HandlerName) (vector : UInt32) (d : String),
      let kept := (IrqBinding.ofDescription handler vector d).description
      Text.IsTruncation descriptionLimit d kept ∧
      (descriptionLimit < d.utf8ByteSize →
        kept.utf8ByteSize = Text.floorBoundary d.toList descriptionLimit ∧ 125 ≤ kept.utf8ByteSize ∧
        ∀ n, kept.utf8ByteSize < n → n ≤ descriptionLimit → ¬String.Pos.Raw.IsValid d ⟨n⟩) ∧
      (IrqBinding.ofDescription handler vector kept).description = kept) ∧
    (c.finish depth program start).channels.table.Upholds none (c.history depth program start) ∧
    (c.history depth program start).Always Entry.Upholds := by
  refine ⟨fun handler vector d => ⟨Text.isTruncation_truncate _ d, fun hlong => ?_,
    Text.truncate_truncate _ d⟩, ?_⟩
  · obtain ⟨hfew, -, hlast⟩ := Text.floorBoundary_of_long hlong
    have hsize : (Text.truncate descriptionLimit d).utf8ByteSize =
        Text.floorBoundary d.toList descriptionLimit := Text.utf8ByteSize_truncate _ d
    refine ⟨hsize, ?_, fun n hlater hle => hlast n (hsize ▸ hlater) hle⟩
    have hfew' : 125 + 3 ≤ (Text.truncate descriptionLimit d).utf8ByteSize + 3 := hsize ▸ hfew
    exact Nat.le_of_add_le_add_right hfew'
  · have hwithin : program.Within fun _ => True := Program.within_of_forall fun _ => trivial
    have hs : Upheld (c.finish depth program start) :=
      (Upheld.maintains c (depth + 1)).holds () hwithin ⟨fun _ _ _ => nofun, .nil⟩ fun _ => id
    exact ⟨hs.now, hs.always⟩

/-- A character of four bytes begins at byte 126 of the description, and is left out with all that
follows. An attempt to bind the port anew while the description is read changes nothing. -/
theorem description_is_longest_beginning_straddled :
    let text := String.ofList (.replicate 126 'a')
    let program := Program.sequence () [.channels (.bindIrq ⟨7⟩ 9 (text ++ "😀b") "first"),
      .table (.takeReader ⟨7⟩), .channels (.bindInline ⟨7⟩ "second"), .table (.irqDetails ⟨7⟩)]
    let start : Channels := ⟨.zero, .powerOn, { callbackIrq := 5 }, true, false, none⟩
    let history := Client.reraising.history 0 program start
    Text.IsTruncation descriptionLimit (text ++ "😀b") text ∧
    history.standing ⟨7⟩ = some ⟨"first", 9, text⟩ ∧ history.Always Entry.Upholds ∧
    ((Client.reraising.finish 0 program start).channels.table.slot ⟨7⟩).action =
      .deferredHardwareIrq ⟨"first", 9, text⟩ := by
  intro text program start history
  obtain ⟨htext, hnow, halways⟩ := description_is_longest_beginning Client.reraising 0 program start
  have hkept : Text.truncate descriptionLimit (text ++ "😀b") = text := by decide +kernel
  have hstanding : history.standing ⟨7⟩ = some ⟨"first", 9, text⟩ := by decide +kernel
  have htruncation := (htext "first" 9 (text ++ "😀b")).1
  rw [IrqBinding.ofDescription, hkept] at htruncation
  exact ⟨htruncation, hstanding, halways, hnow ⟨7⟩ _ nofun hstanding⟩

end EventChannel
