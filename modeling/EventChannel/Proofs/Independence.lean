import EventChannel.Operation.Run
import EventChannel.Proofs.History
import EventChannel.Proofs.Independence.Locality

namespace EventChannel

namespace Guest

variable {σ α β : Type}

theorem run_bind {m : Guest σ α} {f : α → Guest σ β} {s s' : System σ} {a : α}
    (h : m s = .ok a s') : (m >>= f) s = f a s' := by
  change EStateM.bind m f s = _
  rw [EStateM.bind, h]

/-- A computation is about one port: from two states that agree at the port it goes the same way,
without a fault, and changes either at that port only. -/
structure Local (p : Port) (m : Guest σ α) : Prop where
  run : ∀ s t : System σ, Channels.AgreeAt p s.channels t.channels →
    s.channels.config.upcallVcpu < 32 → ∃ a alerted s' t', m s = .ok a s' ∧ m t = .ok a t' ∧
      Channels.ChangedAt p alerted s.channels s'.channels ∧
      Channels.ChangedAt p alerted t.channels t'.channels ∧
      Channels.AgreeAt p s'.channels t'.channels

namespace Local

variable {P : Platform σ} {p q : Port} {m : Guest σ α} {f : α → Guest σ β}

theorem pure (a : α) : Local p (Pure.pure a : Guest σ α) :=
  ⟨fun s t h _ => ⟨a, [], s, t, rfl, rfl, .refl p _, .refl p _, h⟩⟩

theorem bind (hm : Local p m) (hf : ∀ a, Local p (f a)) : Local p (m >>= f) := by
  constructor
  intro s t h hvcpu
  obtain ⟨a, earlier, s₁, t₁, hs, ht, hs₁, ht₁, h₁⟩ := hm.run s t h hvcpu
  obtain ⟨b, later, s₂, t₂, hs', ht', hs₂, ht₂, h₂⟩ := (hf a).run s₁ t₁ h₁ (hs₁.config ▸ hvcpu)
  exact ⟨b, earlier ++ later, s₂, t₂, (run_bind hs).trans hs', (run_bind ht).trans ht',
    hs₁.trans hs₂, ht₁.trans ht₂, h₂⟩

theorem discard (hm : Local p m) : Local p (Functor.discard m) := by
  have he : Functor.discard m = m >>= fun _ => Pure.pure () := by
    simp only [Functor.discard, map_const, Function.comp_apply, bind_pure_comp]
  rw [he]
  exact hm.bind fun _ => pure ()

theorem table {f : ActionTable → Guest σ β}
    (hsame : ∀ t u, ActionTable.AgreeAt p t u → f t = f u) (hf : ∀ t, Local p (f t)) :
    Local p (Guest.table >>= f) := by
  constructor
  intro s t h hvcpu
  have hs : (Guest.table >>= f) s = f s.channels.table s := run_bind rfl
  have ht : (Guest.table >>= f) t = f s.channels.table t := by
    rw [hsame _ _ h.table]
    exact run_bind rfl
  rw [hs, ht]
  exact (hf _).run s t h hvcpu

theorem channels {f : Channels → Guest σ β}
    (hsame : ∀ c d, Channels.AgreeAt p c d → f c = f d) (hf : ∀ c, Local p (f c)) :
    Local p (Guest.channels >>= f) := by
  constructor
  intro s t h hvcpu
  have hs : (Guest.channels >>= f) s = f s.channels s := run_bind rfl
  have ht : (Guest.channels >>= f) t = f s.channels t := by
    rw [hsame _ _ h]
    exact run_bind rfl
  rw [hs, ht]
  exact (hf _).run s t h hvcpu

theorem config {f : Config → Guest σ β} (hf : ∀ config, config.upcallVcpu < 32 →
    Local p (f config)) : Local p (Guest.config >>= f) := by
  constructor
  intro s t h hvcpu
  have hs : (Guest.config >>= f) s = f s.channels.config s := run_bind rfl
  have ht : (Guest.config >>= f) t = f s.channels.config t := by
    rw [h.config]
    exact run_bind rfl
  rw [hs, ht]
  exact (hf _ hvcpu).run s t h hvcpu

theorem emit (e : Event) : Local p (Guest.emit P e) :=
  ⟨fun s t h _ => ⟨(), [], ⟨s.channels, P.observe e s.channels s.outside⟩,
    ⟨t.channels, P.observe e t.channels t.outside⟩, rfl, rfl, .refl p _, .refl p _, h⟩⟩

theorem onTable {f : ActionTable → α × ActionTable} (h : ActionTable.IsLocal p f) :
    Local p (Guest.onTable f : Guest σ α) := by
  constructor
  intro s t hst _
  obtain ⟨hsame, hown⟩ := h.own _ _ hst.table
  have hchanged (c : Channels) : Channels.ChangedAt p [] c { c with table := (f c.table).2 } :=
    ⟨.refl p _, h.others c.table, rfl⟩
  refine ⟨(f s.channels.table).1, [], ⟨{ s.channels with table := (f s.channels.table).2 }, s.outside⟩,
    ⟨{ t.channels with table := (f t.channels.table).2 }, t.outside⟩, rfl, ?_, hchanged _,
    hchanged _, ⟨hst.page, hown, hst.config⟩⟩
  rw [hsame]
  rfl

theorem modifyTable {f : ActionTable → ActionTable}
    (h : ActionTable.IsLocal p fun t => ((), f t)) :
    Local p (Guest.modifyTable f : Guest σ Unit) := onTable h

theorem onPage {m : PageM α} (h : ∀ s t, SharedPage.AgreeAt p.pageWord p.bit s t →
    ∃ a alerted s' t', m s = .ok a s' ∧ m t = .ok a t' ∧ SharedPage.ChangedAt p alerted s s' ∧
      SharedPage.ChangedAt p alerted t t' ∧ SharedPage.AgreeAt p.pageWord p.bit s' t') :
    Local p (Guest.onPage m : Guest σ α) := by
  have hrun {c : Channels} {o : σ} {a : α} {page : SharedPage} (h : m c.page = .ok a page) :
      Guest.onPage m ⟨c, o⟩ = .ok a ⟨{ c with page }, o⟩ := by
    obtain ⟨page', table, config, masked, connected, suspendPort⟩ := c
    simp only [Guest.onPage]
    rw [h]
  constructor
  intro s t hst _
  obtain ⟨a, alerted, page, page', hs, ht, hs', ht', hst'⟩ := h _ _ hst.page
  have hchanged {c : Channels} {page : SharedPage} (h : SharedPage.ChangedAt p alerted c.page page) :
      Channels.ChangedAt p alerted c { c with page } := ⟨h, fun _ _ => .refl _, rfl⟩
  exact ⟨a, alerted, _, _, hrun hs, hrun ht, hchanged hs', hchanged ht', ⟨hst', hst.table, hst.config⟩⟩

/-- Two computations that are about different ports do the same in both orders. -/
theorem commute {n : Guest σ β} (hne : p ≠ q) (hm : Local p m) (hn : Local q n) {s : System σ}
    (hvcpu : s.channels.config.upcallVcpu < 32) : ∃ a b alerted s₁ s₂ s₁₂ s₂₁,
      m s = .ok a s₁ ∧ n s₁ = .ok b s₁₂ ∧ n s = .ok b s₂ ∧ m s₂ = .ok a s₂₁ ∧
      s₁₂.channels = s₂₁.channels ∧ Channels.ChangedAt p alerted s.channels s₁.channels := by
  obtain ⟨a, first, s₁, _, hm₁, -, hp, -, -⟩ := hm.run s s (.refl _) hvcpu
  obtain ⟨b, second, s₂, s₁₂, hn₂, hn₁₂, hq, hpq, hownq⟩ := hn.run s s₁ (hp.agreeAt hne) hvcpu
  obtain ⟨a', first', s₁', s₂₁, hm₁', hm₂₁, hp', hqp, hownp⟩ :=
    hm.run s s₂ (hq.agreeAt hne.symm) hvcpu
  rw [hm₁] at hm₁'
  injection hm₁' with ha hs
  subst ha hs
  exact ⟨a, b, first, s₁, s₂, s₁₂, s₂₁, hm₁, hn₁₂, hn₂, hm₂₁,
    Channels.ChangedAt.square hne hp' hq hpq hqp hownp hownq, hp⟩

end Local

section Functions

variable {P : Platform σ} (p : Port)

theorem local_modifySlot (f : Slot → Slot) :
    Local p (modifyTable fun t => t.modifySlot p f : Guest σ Unit) :=
  .modifyTable (ActionTable.isLocal_modifySlot p f)

theorem local_enqueue : Local p (enqueue P p) := by
  apply Local.bind (.onTable (ActionTable.isLocal_enqueue p))
  intro fresh
  cases fresh with
  | false => exact .pure _
  | true =>
    apply Local.table
    · intro t u h
      simp only [h.kind]
    · exact fun t => (Local.emit _).bind fun _ => .pure _

theorem local_cancel : Local p (cancel P p) :=
  Local.bind (.onTable (ActionTable.isLocal_cancel p)) fun _ => (Local.emit _).bind fun _ => .pure _

theorem local_replaceAction (action : Action) : Local p (replaceAction P p action) := by
  apply Local.table
  · intro t u h
    simp only [h.slot]
  · intro t
    dsimp only
    split
    · exact (local_modifySlot p _).bind fun _ => .pure _
    · exact (Local.emit _).bind fun _ => .pure _

theorem local_restoreKind (kind : Kind) : Local p (restoreKind p kind : Guest σ Unit) := by
  apply Local.modifyTable
  constructor
  · intro t q hne
    dsimp only
    split
    · exact .modifySlot_of_ne hne t _
    · exact .refl t
  · intro t u h
    refine ⟨rfl, ?_⟩
    dsimp only
    rw [h.kind]
    split
    · exact h.modifySlot _
    · exact h

theorem local_publish (action : Action) : Local p (publish P p action) := by
  have hfail (previous : Kind) (e : ChannelError) :
      Local p (do restoreKind p previous; return .error e : Guest σ (Except ChannelError Unit)) :=
    (local_restoreKind p previous).bind fun _ => .pure _
  have hdone : Local p (do
      modifyTable fun t => t.setKind p action.kind
      emit P (.published p action)
      return .ok () : Guest σ (Except ChannelError Unit)) :=
    (local_modifySlot p _).bind fun _ => (Local.emit _).bind fun _ => .pure _
  apply Local.table
  · intro t u h
    dsimp only
    rw [h.kind]
  · intro t
    apply (local_modifySlot p _).bind
    intro _
    dsimp only
    split
    · apply (Local.emit _).bind
      intro _
      apply (local_replaceAction p action).bind
      rintro (e | _)
      · exact hfail _ e
      · exact hdone
    · apply (local_replaceAction p action).bind
      rintro (e | _)
      · exact hfail _ e
      · exact hdone

theorem local_dropAction : Local p (dropAction P p) := by
  apply Local.table
  · intro t u h
    simp only [h.kind]
  · intro t
    apply (local_replaceAction p .empty).bind
    intro replaced
    cases replaced with
    | error e => exact .pure _
    | ok old => exact (Local.emit _).bind fun _ => .pure _

theorem local_resetSlot : Local p (resetSlot P p) := by
  apply (local_modifySlot p _).bind
  intro _
  apply (local_cancel p).discard.bind
  intro _
  apply (local_modifySlot p _).bind
  intro _
  apply (Local.onTable (ActionTable.isLocal_acknowledge p)).discard.bind
  intro _
  apply (Local.emit _).bind
  intro _
  apply (local_replaceAction p .empty).bind
  intro replaced
  cases replaced with
  | error e => exact .pure _
  | ok old => exact .pure _

theorem local_countDelivery :
    Local p (onTable fun t => t.countDelivery p : Guest σ UInt64) :=
  .onTable (ActionTable.isLocal_countDelivery p)

theorem local_pageMask : Local p (onPage (PageM.mask p) : Guest σ Bool) := by
  apply Local.onPage
  intro s t h
  refine ⟨_, [], _, _, PageM.mask_run s p, ?_, .setMask p s, .setMask p t, ?_, h.pending⟩
  · rw [h.isMasked]
    exact PageM.mask_run t p
  · simp only [SharedPage.setMask, Bitmap.test_insert, and_self, decide_true, Bool.true_or]

theorem local_pageUnmask : Local p (onPage (PageM.unmask p) : Guest σ Bool) := by
  apply Local.onPage
  intro s t h
  refine ⟨_, [], _, _, PageM.unmask_run s p, ?_, .clearMask p s, .clearMask p t, ?_, h.pending⟩
  · rw [h.isMasked]
    exact PageM.unmask_run t p
  · simp only [SharedPage.clearMask, Bitmap.test_erase, and_self, decide_true, Bool.not_true,
      Bool.false_and]

theorem local_pageClear : Local p (onPage (PageM.clear p) : Guest σ Bool) := by
  apply Local.onPage
  intro s t h
  refine ⟨_, [], _, _, PageM.clear_run s p, ?_, .clearPending p s, .clearPending p t, h.mask, ?_⟩
  · rw [h.isPending]
    exact PageM.clear_run t p
  · simp only [SharedPage.clearPending, Bitmap.test_erase, and_self, decide_true, Bool.not_true,
      Bool.false_and]

theorem local_pageAlert {vcpu : Nat} (hvcpu : vcpu < 32) :
    Local p (onPage (PageM.alert p vcpu) : Guest σ Unit) :=
  .onPage fun s t h => ⟨(), [⟨vcpu, hvcpu⟩], _, _, PageM.alertWord_run s p.pageWord ⟨vcpu, hvcpu⟩,
    PageM.alertWord_run t p.pageWord ⟨vcpu, hvcpu⟩, .alert p _ s, .alert p _ t, h.mask, h.pending⟩

/-- Whether a delivery is new, and whether it alerts, depends on the bits of its port only. -/
theorem local_pageRaise {vcpu : Nat} (hvcpu : vcpu < 32) :
    Local p (onPage (PageM.raise p vcpu) : Guest σ Bool) := by
  have hrun (s : SharedPage) := PageM.raiseAt_run s p.pageWord p.bit vcpu
  have hset (s t : SharedPage) (h : SharedPage.AgreeAt p.pageWord p.bit s t) :
      SharedPage.AgreeAt p.pageWord p.bit (s.setPending p.pageWord p.bit)
        (t.setPending p.pageWord p.bit) := by
    refine ⟨h.mask, ?_⟩
    simp only [SharedPage.setPending, Bitmap.test_insert, and_self, decide_true, Bool.true_or]
  apply Local.onPage
  intro s t h
  cases hp : s.pending.test p.pageWord p.bit with
  | true =>
    refine ⟨false, [], s, t, ?_, ?_, .refl p s, .refl p t, h⟩
    · exact (hrun s).trans (if_pos hp)
    · exact (hrun t).trans (if_pos (h.pending.symm.trans hp))
  | false =>
    have hp' := h.pending.symm.trans hp
    cases hm : s.mask.test p.pageWord p.bit with
    | true =>
      refine ⟨true, [], _, _, ?_, ?_, .setPending p s, .setPending p t, hset s t h⟩
      · exact (hrun s).trans (by rw [hp, hm, if_neg Bool.false_ne_true, if_pos rfl])
      · exact (hrun t).trans (by rw [hp', ← h.mask, hm, if_neg Bool.false_ne_true, if_pos rfl])
    | false =>
      have hm' := h.mask.symm.trans hm
      have hst := hset s t h
      exact ⟨true, [] ++ [⟨vcpu, hvcpu⟩], _, _, PageM.raiseAt_run_alerted s _ _ ⟨vcpu, hvcpu⟩ hp hm,
        PageM.raiseAt_run_alerted t _ _ ⟨vcpu, hvcpu⟩ hp' hm',
        (SharedPage.ChangedAt.setPending p s).trans (.alert p _ _),
        (SharedPage.ChangedAt.setPending p t).trans (.alert p _ _), hst.mask, hst.pending⟩

theorem local_unmask : Local p (unmask p : Guest σ Unit) := by
  apply (local_pageUnmask p).discard.bind
  intro _
  apply Local.channels
  · intro c d h
    rw [h.page.isPending]
  · intro c
    split
    · exact .config fun config hvcpu => local_pageAlert p hvcpu
    · exact .pure _

theorem local_attach (action : Action) : Local p (attach P p action) := by
  apply (local_publish p action).bind
  intro published
  cases published with
  | error e => exact .pure _
  | ok _ => exact (local_unmask p).bind fun _ => (Local.emit _).bind fun _ => .pure _

theorem local_unbind : Local p (unbind P p) := by
  apply (local_pageMask p).discard.bind
  intro _
  apply (local_dropAction p).bind
  intro cleared
  apply (local_cancel p).bind
  intro found
  cases found with
  | false => exact .pure _
  | true => exact (Local.emit _).bind fun _ => .pure _

end Functions

end Guest

open Guest

/-- The port that an operation is about, if it is about one port and makes no call. -/
def PageOperation.subject? : PageOperation → Option Port
  | mask port | unmask port | clear port => some port
  | raise port vcpu => if vcpu < 32 then some port else none
  | _ => none

def TableOperation.subject? : TableOperation → Option Port
  | publish port _ | dropAction port | resetSlot port | enqueue port | cancel port
  | setOutstanding port | acknowledge port | countDelivery port => some port
  | _ => none

def ChannelOperation.subject? : ChannelOperation → Option Port
  | bindInline port _ | bindDeferred port _ | bindIrq port _ _ _ | unbind port | mask port
  | unmask port | acknowledge port => some port
  | _ => none

def Operation.subject? : Operation → Option Port
  | page op => op.subject?
  | table op => op.subject?
  | channels op => op.subject?
  | vcpu _ _ => none

variable {σ : Type} {P : Platform σ} {p : Port}

theorem PageOperation.local_run {op : PageOperation} (h : op.subject? = some p) :
    Local p (op.run P) := by
  have hemit (happened : Bool) (word : Nat) (event : Fin 64 → Event) :
      Local p (emitIf P happened word event) := by
    rw [emitIf]
    split
    · exact .emit _
    · exact .pure _
  cases op with
  | mask port =>
    cases h
    exact (local_pageMask p).bind fun _ => .pure _
  | unmask port =>
    cases h
    exact (local_pageUnmask p).bind fun _ => .pure _
  | clear port =>
    cases h
    exact (local_pageClear p).bind fun _ => (hemit _ _ _).bind fun _ => .pure _
  | raise port vcpu =>
    rw [subject?] at h
    split at h
    next hvcpu =>
      cases h
      exact (local_pageRaise p hvcpu).bind fun _ => (hemit _ _ _).bind fun _ => .pure _
    · cases h
  | _ => cases h

theorem TableOperation.local_run {op : TableOperation} (h : op.subject? = some p) :
    Local p (op.run P) := by
  cases op with
  | publish => cases h; exact (local_publish p _).bind fun _ => .pure _
  | dropAction => cases h; exact (local_dropAction p).bind fun _ => .pure _
  | resetSlot => cases h; exact (local_resetSlot p).bind fun _ => .pure _
  | enqueue => cases h; exact (local_enqueue p).bind fun _ => .pure _
  | cancel => cases h; exact (local_cancel p).bind fun _ => .pure _
  | setOutstanding =>
    cases h
    exact (Local.onTable (ActionTable.isLocal_setOutstanding p)).bind fun _ => .pure _
  | acknowledge =>
    cases h
    exact (Local.onTable (ActionTable.isLocal_acknowledge p)).bind fun _ => .pure _
  | countDelivery => cases h; exact (local_countDelivery p).bind fun _ => .pure _
  | _ => cases h

theorem ChannelOperation.local_run {op : ChannelOperation} (h : op.subject? = some p) :
    Local p (op.run P) := by
  cases op with
  | bindInline | bindDeferred | bindIrq => cases h; exact (local_attach p _).bind fun _ => .pure _
  | unbind => cases h; exact (local_unbind p).bind fun _ => .pure _
  | mask => cases h; exact (local_pageMask p).discard.bind fun _ => .pure _
  | unmask => cases h; exact (local_unmask p).bind fun _ => .pure _
  | acknowledge =>
    cases h
    exact (Local.onTable (ActionTable.isLocal_acknowledge p)).bind fun _ => .pure _
  | _ => cases h

theorem Operation.local_run {op : Operation} (h : op.subject? = some p) : Local p (op.run P) := by
  cases op with
  | page op => exact (PageOperation.local_run h).bind fun _ => .pure _
  | table op => exact TableOperation.local_run h
  | channels op => exact ChannelOperation.local_run h
  | vcpu => cases h

/-- What can be observed of a port. -/
structure PortView where
  masked : Bool
  pending : Bool
  kind : Kind
  action : Action
  readers : Nat
  /-- The handler that a lookup under each kind finds. -/
  handler? : Kind → Option HandlerName
  irqDetails? : Option (UInt32 × String)
  deliveries : UInt64
  outstanding : Bool
  queued : Bool
  flagged : Bool

namespace Channels

def portView (c : Channels) (p : Port) : PortView where
  masked := c.page.isMasked p
  pending := c.page.isPending p
  kind := c.table.kind p
  action := (c.table.slot p).action
  readers := (c.table.slot p).readers
  handler? := c.table.handler? p
  irqDetails? := c.table.irqDetails? p
  deliveries := (c.table.slot p).deliveries
  outstanding := c.table.isOutstanding p
  queued := c.table.isQueued p
  flagged := c.table.isFlagged p

theorem AgreeAt.portView {c d : Channels} (h : AgreeAt p c d) : c.portView p = d.portView p := by
  have hhandler : c.table.handler? p = d.table.handler? p := by
    funext expected
    rw [ActionTable.handler?, ActionTable.handler?, h.table.slot]
  simp only [Channels.portView, h.page.isMasked, h.page.isPending, h.table.kind, hhandler,
    ActionTable.irqDetails?, ActionTable.isQueued, h.table.slot, h.table.outstanding, h.table.flagged]

end Channels

/-- Operations about different ports do not disturb each other although their bits share words: one
leaves whatever can be observed of other ports alone, and two of them give the same results and the
same state in both orders, the selectors and upcalls of the virtual processors included. -/
theorem ports_are_independent (P : Platform σ) {p q : Port} (hne : p ≠ q) {first second : Operation}
    (hfirst : first.subject? = some p) (hsecond : second.subject? = some q) {s : System σ}
    (hvcpu : s.channels.config.upcallVcpu < 32) : ∃ a b s₁ s₂ s₁₂ s₂₁,
      first.run P s = .ok a s₁ ∧ second.run P s₁ = .ok b s₁₂ ∧
      second.run P s = .ok b s₂ ∧ first.run P s₂ = .ok a s₂₁ ∧
      s₁₂.channels = s₂₁.channels ∧
      ∀ r, p ≠ r → s₁.channels.portView r = s.channels.portView r := by
  obtain ⟨a, b, alerted, s₁, s₂, s₁₂, s₂₁, h₁, h₁₂, h₂, h₂₁, hsame, hchanged⟩ :=
    Local.commute hne (Operation.local_run hfirst) (Operation.local_run hsecond) hvcpu
  exact ⟨a, b, s₁, s₂, s₁₂, s₂₁, h₁, h₁₂, h₂, h₂₁, hsame,
    fun r hr => (hchanged.agreeAt hr).portView.symm⟩

theorem ports_are_independent_busy :
    (⟨7⟩ : Port) ≠ ⟨9⟩ ∧
    (Operation.channels (.bindDeferred ⟨7⟩ "service")).subject? = some ⟨7⟩ ∧
    (Operation.page (.raise ⟨9⟩ 3)).subject? = some ⟨9⟩ ∧
    ∃ a b s₁ s₂ s₁₂ s₂₁,
      (Operation.channels (.bindDeferred ⟨7⟩ "service")).run (Client.reraising.platform 0)
        ⟨⟨.zero, ActionTable.powerOn.setReaders ⟨7⟩ 1, { callbackIrq := 5 }, false, true, none⟩, []⟩ =
          .ok a s₁ ∧
      (Operation.page (.raise ⟨9⟩ 3)).run (Client.reraising.platform 0) s₁ = .ok b s₁₂ ∧
      (Operation.page (.raise ⟨9⟩ 3)).run (Client.reraising.platform 0)
        ⟨⟨.zero, ActionTable.powerOn.setReaders ⟨7⟩ 1, { callbackIrq := 5 }, false, true, none⟩, []⟩ =
          .ok b s₂ ∧
      (Operation.channels (.bindDeferred ⟨7⟩ "service")).run (Client.reraising.platform 0) s₂ =
        .ok a s₂₁ ∧
      s₁₂.channels = s₂₁.channels ∧
      ∀ r, ⟨7⟩ ≠ r → s₁.channels.portView r =
        Channels.portView ⟨.zero, ActionTable.powerOn.setReaders ⟨7⟩ 1, { callbackIrq := 5 }, false,
          true, none⟩ r := by
  have hne : (⟨7⟩ : Port) ≠ ⟨9⟩ := by decide
  have hvcpu : ({ callbackIrq := 5 } : Config).upcallVcpu < 32 := by decide
  exact ⟨hne, rfl, rfl, ports_are_independent (Client.reraising.platform 0) hne rfl rfl hvcpu⟩

end EventChannel
