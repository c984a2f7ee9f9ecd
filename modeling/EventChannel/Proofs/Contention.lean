import EventChannel.Proofs.Erasure.Steps

namespace EventChannel

open Guest

namespace ActionTable

variable (t : ActionTable) (p q : Port)

/-- A write to a slot of what it has already changes nothing. -/
theorem modifySlot_eq_self {f : Slot → Slot} (h : f (t.slot p) = t.slot p) : t.modifySlot p f = t := by
  apply ext_ports
  · intro q
    rw [slot_modifySlot]
    split
    next hq =>
      subst hq
      exact h
    next => rfl
  · exact fun _ => rfl
  · exact fun _ => rfl

theorem modifySlot_modifySlot (f g : Slot → Slot) :
    (t.modifySlot p f).modifySlot p g = t.modifySlot p fun s => g (f s) := by
  apply ext_ports
  · intro q
    rw [slot_modifySlot, slot_modifySlot, slot_modifySlot]
    split <;> rfl
  · exact fun _ => rfl
  · exact fun _ => rfl

/-- The previous kind, put back, leaves the table as it was. -/
theorem setKind_kind (k : Kind) : (t.setKind p k).setKind p (t.kind p) = t :=
  (t.modifySlot_modifySlot p _ _).trans (t.modifySlot_eq_self p rfl)

theorem setReaders_setReaders (m n : Nat) :
    (t.setReaders p m).setReaders p n = t.setReaders p n := t.modifySlot_modifySlot p _ _

theorem setReaders_readers : t.setReaders p (t.slot p).readers = t := t.modifySlot_eq_self p rfl

theorem readers_foldl_setReaders (ports : List Port) :
    ((ports.foldl (fun t p => t.setReaders p 0) t).slot q).readers =
      if q ∈ ports then 0 else (t.slot q).readers :=
  t.view_foldl q (fun t q => (t.slot q).readers) (fun _ => 0)
    (fun t p q => t.readers_setReaders p q 0) (fun _ => rfl) ports

end ActionTable

namespace Operation

/-- Runs operations one after another. -/
def runAll {σ : Type} (P : Platform σ) (ops : List Operation) :
    Guest σ (List (Except ChannelError Report)) := ops.mapM fun op => op.run P

end Operation

namespace Channels

/-- The operations by which the readers of a port's action end. -/
def releases (c : Channels) (port : Port) : List Operation :=
  .replicate (c.table.slot port).readers (.table (.releaseReader port))

/-- The operations by which the readers of all actions end. -/
def releasesOf (c : Channels) (ports : List Port) : List Operation := ports.flatMap c.releases

end Channels

namespace Guest

variable {σ : Type} {P : Platform σ} {lost : System σ → Prop} {K : σ → Prop} {c : Channels}
variable {port : Port}

section Runs

variable {pre : System σ → Prop} {mid : List (Except ChannelError Report) → System σ → Prop}
variable {post : List (Except ChannelError Report) → System σ → Prop} {ops : List Operation}

theorem leads_runAll_append {more : List Operation} (hops : Leads lost pre (Operation.runAll P ops) mid)
    (hmore : ∀ results, Leads lost (mid results) (Operation.runAll P more) fun later =>
      post (results ++ later)) : Leads lost pre (Operation.runAll P (ops ++ more)) post := by
  rw [Operation.runAll, List.mapM_append]
  apply hops.bind
  intro results
  apply (hmore results).bind
  intro later
  exact .pure fun _ => id

theorem leads_runAll_cons {op : Operation} {result : Except ChannelError Report}
    {late : System σ → Prop} (hop : Leads lost pre (op.run P) fun r s => r = result ∧ late s)
    (hops : Leads lost late (Operation.runAll P ops) fun results => post (result :: results)) :
    Leads lost pre (Operation.runAll P (op :: ops)) post := by
  rw [Operation.runAll, List.mapM_cons]
  apply hop.bind_of_eq
  apply hops.bind
  intro results
  exact .pure fun _ => id

theorem leads_runAll_nil (h : ∀ s, pre s → post [] s) : Leads lost pre (Operation.runAll P []) post :=
  .pure h

end Runs

section Observed

variable (hseen : ∀ e c o, K o → K (P.observe e c o))

include hseen

/-- An action that has readers is not replaced. -/
theorem held_replaceAction_busy {action : Action} (hbusy : (c.table.slot port).readers ≠ 0) :
    Leads lost (Held K c) (replaceAction P port action) fun result s =>
      result = .error (.slotBusy port) ∧ Held K c s := by
  apply held_table
  dsimp only
  rw [if_neg hbusy]
  exact Leads.bind (held_emit hseen _) fun _ => .pure fun _ hs => ⟨rfl, hs⟩

theorem held_publish_busy (hbusy : (c.table.slot port).readers ≠ 0) (action : Action) :
    Leads lost (Held K c) (publish P port action) fun result s =>
      result = .error (.slotBusy port) ∧ Held K c s := by
  have hbusy' : ((c.table.setKind port .empty).slot port).readers ≠ 0 := by
    rw [ActionTable.setKind, ActionTable.slot_modifySlot_self]
    exact hbusy
  have hrestored : Leads lost (Held K { c with table := c.table.setKind port .empty }) (do
      restoreKind port (c.table.kind port)
      return .error (.slotBusy port) : Guest σ (Except ChannelError Unit)) fun result s =>
      result = .error (.slotBusy port) ∧ Held K c s := by
    apply held_modifyTable.bind
    intro _
    have hempty : (c.table.setKind port .empty).kind port = .empty := by
      rw [ActionTable.kind_setKind, if_pos rfl]
    rw [if_pos hempty, ActionTable.setKind_kind]
    exact .pure fun _ hs => ⟨rfl, hs⟩
  apply held_table
  apply held_modifyTable.bind
  intro _
  apply Leads.guarded (fun _ => held_emit hseen _) (fun _ _ => id)
  intro _
  exact (held_replaceAction_busy hseen hbusy').bind_of_eq hrestored

theorem held_attach_busy (hbusy : (c.table.slot port).readers ≠ 0) (action : Action) :
    Leads lost (Held K c) (attach P port action) fun result s =>
      result = .error (.slotBusy port) ∧ Held K c s :=
  (held_publish_busy hseen hbusy action).bind_of_eq (.pure fun _ hs => ⟨rfl, hs⟩)

/-- A port whose action has readers is reset up to the action. -/
theorem held_resetSlot_busy (hbusy : (c.table.slot port).readers ≠ 0) :
    Leads lost (Held K c) (resetSlot P port) fun result s =>
      result = .error (.slotBusy port) ∧ Held K { c with table := c.table.clearAt port } s := by
  have hbusy' : ((c.table.clearAt port).slot port).readers ≠ 0 := by
    rw [ActionTable.slot_clearAt, if_pos rfl]
    exact hbusy
  exact held_resetSlot_of_replaceAction hseen (held_replaceAction_busy hseen hbusy')

theorem held_releaseReader {n : Nat} (hreaders : (c.table.slot port).readers = n + 1) :
    Leads lost (Held K c) (Operation.run P (.table (.releaseReader port))) fun result s =>
      result = .ok (.irqDetails (c.table.irqDetails? port)) ∧
        Held K { c with table := c.table.setReaders port n } s := by
  have hrelease : c.table.releaseReader? port =
      some (c.table.irqDetails? port, c.table.setReaders port n) := by
    unfold ActionTable.releaseReader?
    rw [hreaders]
  apply held_table
  rw [hrelease]
  apply held_modifyTable.bind
  intro _
  exact Leads.bind (held_emit hseen _) fun _ => .pure fun _ hs => ⟨rfl, hs⟩

/-- The readers of a port's action end one after another, each with what it read, and nothing else
changes. -/
theorem held_releases :
    Leads lost (Held K c) (Operation.runAll P (c.releases port)) fun results s =>
      results = .replicate (c.table.slot port).readers (.ok (.irqDetails (c.table.irqDetails? port))) ∧
        Held K { c with table := c.table.setReaders port 0 } s := by
  rw [Channels.releases]
  generalize hreaders : (c.table.slot port).readers = n
  induction n generalizing c with
  | zero =>
    have hsame := c.table.setReaders_readers port
    rw [hreaders] at hsame
    rw [hsame]
    exact leads_runAll_nil fun _ hs => ⟨rfl, hs⟩
  | succ n ih =>
    apply leads_runAll_cons (held_releaseReader hseen hreaders)
    have hrest := ih (c := { c with table := c.table.setReaders port n })
      (by rw [ActionTable.readers_setReaders, if_pos rfl])
    rw [ActionTable.setReaders_setReaders, ActionTable.irqDetails?, ActionTable.action_setReaders] at hrest
    apply hrest.of_post
    rintro _ s ⟨rfl, hs⟩
    exact ⟨rfl, hs⟩

theorem held_releasesOf {ports : List Port} (hports : ports.Nodup) :
    Leads lost (Held K c) (Operation.runAll P (c.releasesOf ports)) fun _ =>
      Held K { c with table := ports.foldl (fun t p => t.setReaders p 0) c.table } := by
  induction ports generalizing c with
  | nil => exact leads_runAll_nil fun _ => id
  | cons port ports ih =>
    obtain ⟨hport, hports⟩ := List.nodup_cons.1 hports
    rw [Channels.releasesOf, List.flatMap_cons]
    apply leads_runAll_append (held_releases hseen)
    intro _
    -- The readers of the other ports are still those that there were.
    have hlater : ports.flatMap c.releases =
        ports.flatMap { c with table := c.table.setReaders port 0 }.releases := by
      rw [List.flatMap_def, List.flatMap_def]
      apply congrArg List.flatten
      apply List.map_congr_left
      intro q hq
      have hne : port ≠ q := fun he => hport (he ▸ hq)
      rw [Channels.releases, Channels.releases, ActionTable.readers_setReaders, if_neg hne]
    rw [hlater]
    exact Leads.of_pre (ih hports) fun _ hs => hs.2

end Observed

end Guest

end EventChannel
