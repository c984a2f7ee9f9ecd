import EventChannel.Platform

namespace EventChannel.Guest

variable {σ α β : Type}

/-- From a state in `pre` a computation ends in `post`, or by a fault in a state in `lost`. -/
structure Leads (lost pre : System σ → Prop) (m : Guest σ α) (post : α → System σ → Prop) :
    Prop where
  run : ∀ s, pre s → match m s with
    | .ok a s' => post a s'
    | .error _ s' => lost s'

/-- A computation ends in a state in `J` if it starts in one. -/
def Keeps (lost J : System σ → Prop) (m : Guest σ α) : Prop := Leads lost J m fun _ => J

section Rules

variable {lost pre J : System σ → Prop} {mid : α → System σ → Prop} {post : β → System σ → Prop}
variable {m : Guest σ α} {f : α → Guest σ β}

theorem Leads.of_ok (hm : Leads lost pre m mid) {s s' : System σ} {a : α} (hs : pre s)
    (hrun : m s = .ok a s') : mid a s' := by
  have h := hm.run s hs
  rw [hrun] at h
  exact h

/-- A computation that cannot end by a fault has a result. -/
theorem Leads.exists_ok (hm : Leads (fun _ => False) pre m mid) {s : System σ} (hs : pre s) :
    ∃ a s', m s = .ok a s' ∧ mid a s' := by
  have h := hm.run s hs
  cases he : m s with
  | ok a s' =>
    rw [he] at h
    exact ⟨a, s', rfl, h⟩
  | error e s' =>
    rw [he] at h
    exact h.elim

theorem Leads.bind (hm : Leads lost pre m mid) (hf : ∀ a, Leads lost (mid a) (f a) post) :
    Leads lost pre (m >>= f) post := by
  constructor
  intro s hs
  have h := hm.run s hs
  change match EStateM.bind m f s with
    | .ok a s' => post a s'
    | .error _ s' => lost s'
  unfold EStateM.bind
  cases he : m s with
  | ok a s' =>
    rw [he] at h
    exact (hf a).run s' h
  | error e s' =>
    rw [he] at h
    exact h

/-- A result that is known is what follows goes on with. -/
theorem Leads.bind_of_eq {a : α} {late : System σ → Prop}
    (hm : Leads lost pre m fun b s => b = a ∧ late s) (hf : Leads lost late (f a) post) :
    Leads lost pre (m >>= f) post := by
  apply hm.bind
  intro b
  constructor
  rintro s ⟨rfl, hs⟩
  exact hf.run s hs

theorem Leads.trivial : Leads (fun _ => True) pre m fun _ _ => True := by
  constructor
  intro s _
  cases m s <;> trivial

theorem Leads.pure {a : α} (h : ∀ s, pre s → mid a s) :
    Leads lost pre (Pure.pure a : Guest σ α) mid := ⟨h⟩

theorem Leads.weaken {weak strong : System σ → Prop} {late : α → System σ → Prop}
    (h : Leads lost weak m late) (hpre : ∀ s, strong s → weak s)
    (hpost : ∀ a s, late a s → mid a s) : Leads lost strong m mid := by
  constructor
  intro s hs
  have he := h.run s (hpre s hs)
  cases hm : m s with
  | ok a s' =>
    rw [hm] at he
    exact hpost a s' he
  | error e s' =>
    rw [hm] at he
    exact he

theorem Leads.of_pre {weak strong : System σ → Prop} (h : Leads lost weak m mid)
    (hpre : ∀ s, strong s → weak s) : Leads lost strong m mid :=
  h.weaken hpre fun _ _ => id

theorem Leads.of_post {late : α → System σ → Prop} (h : Leads lost pre m late)
    (hpost : ∀ a s, late a s → mid a s) : Leads lost pre m mid :=
  h.weaken (fun _ => id) hpost

/-- What is left by a fault need be known from one side only. -/
theorem Leads.and_of_any {lost' : System σ → Prop} {first second : α → System σ → Prop}
    (h₁ : Leads lost pre m first) (h₂ : Leads lost' pre m second) :
    Leads lost pre m fun a s => first a s ∧ second a s := by
  constructor
  intro s hs
  have he₁ := h₁.run s hs
  have he₂ := h₂.run s hs
  cases hm : m s with
  | ok a s' =>
    rw [hm] at he₁ he₂
    exact ⟨he₁, he₂⟩
  | error e s' =>
    rw [hm] at he₁
    exact he₁

theorem Leads.and {first second : α → System σ → Prop} (h₁ : Leads lost pre m first)
    (h₂ : Leads lost pre m second) : Leads lost pre m fun a s => first a s ∧ second a s :=
  h₁.and_of_any h₂

/-- A computation that runs on a condition, and then what follows in either case. -/
theorem Leads.guarded {c : Prop} [Decidable c] {m : Guest σ Unit} {k : Unit → Guest σ β}
    {late : Unit → System σ → Prop} (hm : c → Leads lost pre m late)
    (hskip : ¬c → ∀ s, pre s → late () s) (hk : ∀ u, Leads lost (late u) (k u) post) :
    Leads lost pre (if c then m >>= k else k ()) post := by
  split
  next hc => exact (hm hc).bind hk
  next hc => exact (hk ()).of_pre (hskip hc)

theorem Keeps.pure (a : α) : Keeps lost J (Pure.pure a : Guest σ α) := ⟨fun _ h => h⟩

theorem Keeps.bind (hm : Keeps lost J m) (hf : ∀ a, Keeps lost J (f a)) :
    Keeps lost J (m >>= f) := Leads.bind hm hf

theorem Keeps.guarded {c : Prop} [Decidable c] {m : Guest σ Unit} {k : Unit → Guest σ β}
    (hm : Keeps lost J m) (hk : ∀ u, Keeps lost J (k u)) :
    Keeps lost J (if c then m >>= k else k ()) :=
  Leads.guarded (fun _ => hm) (fun _ _ => id) hk

theorem Keeps.and {K : System σ → Prop} (hJ : Keeps lost J m) (hK : Keeps lost K m) :
    Keeps lost (fun s => J s ∧ K s) m :=
  (Leads.of_pre hJ fun _ hs => hs.1).and (Leads.of_pre hK fun _ hs => hs.2)

/-- A fact about no state in particular is at hand throughout. -/
theorem Leads.assume {fact : Prop} (h : fact → Leads lost pre m mid) :
    Leads lost (fun s => pre s ∧ fact) m mid :=
  ⟨fun s hs => (h hs.2).run s hs.1⟩

theorem Keeps.and_fact {fact : Prop} (h : Keeps lost J m) : Keeps lost (fun s => J s ∧ fact) m :=
  Leads.assume fun hfact => Leads.of_post h fun _ _ hs => ⟨hs, hfact⟩

theorem Leads.exists {ι : Type} {J : ι → System σ → Prop} {K : ι → α → System σ → Prop}
    (h : ∀ i, Leads lost (J i) m (K i)) :
    Leads lost (fun s => ∃ i, J i s) m fun a s => ∃ i, K i a s := by
  constructor
  rintro s ⟨i, hs⟩
  have he := (h i).run s hs
  cases hm : m s with
  | ok a s' =>
    rw [hm] at he
    exact ⟨i, he⟩
  | error e s' =>
    rw [hm] at he
    exact he

/-- What holds for some index may be used for that index. -/
theorem Leads.of_exists {ι : Type} {J : ι → System σ → Prop} (h : ∀ i, Leads lost (J i) m mid) :
    Leads lost (fun s => ∃ i, J i s) m mid := by
  apply (Leads.exists h).of_post
  intro a s hs
  obtain ⟨_, hs⟩ := hs
  exact hs

theorem Keeps.exists {ι : Type} {J : ι → System σ → Prop} (h : ∀ i, Keeps lost (J i) m) :
    Keeps lost (fun s => ∃ i, J i s) m := Leads.exists h

theorem Leads.discard {late : System σ → Prop} (hm : Leads lost pre m fun _ => late) :
    Leads lost pre (Functor.discard m) fun _ => late := by
  have he : Functor.discard m = m >>= fun _ => Pure.pure () := by
    simp only [Functor.discard, map_const, Function.comp_apply, bind_pure_comp]
  rw [he]
  exact hm.bind fun _ => .pure fun _ => id

theorem Keeps.discard (hm : Keeps lost J m) : Keeps lost J (Functor.discard m) :=
  Leads.discard hm

end Rules

section Reads

variable {lost pre J : System σ → Prop}

theorem Leads.channels : Leads lost pre Guest.channels fun c s => pre s ∧ s.channels = c :=
  ⟨fun _ h => ⟨h, rfl⟩⟩

theorem Leads.table : Leads lost pre Guest.table fun t s => pre s ∧ s.channels.table = t :=
  ⟨fun _ h => ⟨h, rfl⟩⟩

theorem Leads.config : Leads lost pre Guest.config fun c s => pre s ∧ s.channels.config = c :=
  ⟨fun _ h => ⟨h, rfl⟩⟩

theorem Leads.interruptsMasked :
    Leads lost pre Guest.interruptsMasked fun b s => pre s ∧ s.channels.interruptsMasked = b :=
  ⟨fun _ h => ⟨h, rfl⟩⟩

theorem Keeps.channels : Keeps lost J Guest.channels := ⟨fun _ h => h⟩

theorem Keeps.table : Keeps lost J Guest.table := ⟨fun _ h => h⟩

theorem Keeps.config : Keeps lost J Guest.config := ⟨fun _ h => h⟩

theorem Keeps.interruptsMasked : Keeps lost J Guest.interruptsMasked := ⟨fun _ h => h⟩

end Reads

section Writes

variable {lost pre : System σ → Prop}

theorem Leads.modifyTable {f : ActionTable → ActionTable} {post : Unit → System σ → Prop}
    (h : ∀ c o, pre ⟨c, o⟩ → post () ⟨{ c with table := f c.table }, o⟩) :
    Leads lost pre (Guest.modifyTable f) post :=
  ⟨fun s hs => h s.channels s.outside hs⟩

theorem Leads.onTable {f : ActionTable → α × ActionTable} {post : α → System σ → Prop}
    (h : ∀ c o, pre ⟨c, o⟩ → post (f c.table).1 ⟨{ c with table := (f c.table).2 }, o⟩) :
    Leads lost pre (Guest.onTable f) post :=
  ⟨fun s hs => h s.channels s.outside hs⟩

theorem Leads.modifyPage {f : SharedPage → SharedPage} {post : Unit → System σ → Prop}
    (h : ∀ c o, pre ⟨c, o⟩ → post () ⟨{ c with page := f c.page }, o⟩) :
    Leads lost pre (Guest.modifyPage f) post :=
  ⟨fun s hs => h s.channels s.outside hs⟩

theorem Leads.onPage {m : PageM α} {post : α → System σ → Prop}
    (h : ∀ (c : Channels) (o : σ), pre ⟨c, o⟩ → match m c.page with
      | .ok a page => post a ⟨{ c with page }, o⟩
      | .error _ page => lost ⟨{ c with page }, o⟩) :
    Leads lost pre (Guest.onPage m) post := by
  constructor
  rintro ⟨⟨page, table, config, masked, connected, suspendPort⟩, outside⟩ hs
  have he := h _ _ hs
  simp only [Guest.onPage]
  cases hm : m page with
  | ok a page =>
    rw [hm] at he
    exact he
  | error e page =>
    rw [hm] at he
    exact he

theorem Leads.emit {P : Platform σ} {e : Event} {post : Unit → System σ → Prop}
    (h : ∀ c o, pre ⟨c, o⟩ → post () ⟨c, P.observe e c o⟩) :
    Leads lost pre (Guest.emit P e) post :=
  ⟨fun s hs => h s.channels s.outside hs⟩

end Writes

section Held

/-- The event channels are in a certain state, and something holds of what surrounds them. -/
structure Held (K : σ → Prop) (c : Channels) (s : System σ) : Prop where
  channels : s.channels = c
  outside : K s.outside

variable {lost : System σ → Prop} {K : σ → Prop} {c : Channels}

/-- What a computation does may be settled for each state of the event channels by itself. -/
theorem Leads.of_held {α : Type} {pre : System σ → Prop} {m : Guest σ α} {post : α → System σ → Prop}
    (h : ∀ c, Leads lost (Held (fun o => pre ⟨c, o⟩) c) m post) : Leads lost pre m post :=
  ⟨fun s hs => (h s.channels).run s ⟨rfl, hs⟩⟩

theorem held_modifyChannels {f : Channels → Channels} :
    Leads lost (Held K c) (modifyChannels f) fun _ => Held K (f c) :=
  ⟨fun _ hs => ⟨congrArg f hs.channels, hs.outside⟩⟩

theorem held_modifyPage {f : SharedPage → SharedPage} :
    Leads lost (Held K c) (modifyPage f) fun _ => Held K { c with page := f c.page } := by
  apply Leads.modifyPage
  rintro _ o ⟨rfl, ho⟩
  exact ⟨rfl, ho⟩

theorem held_modifyTable {f : ActionTable → ActionTable} :
    Leads lost (Held K c) (modifyTable f) fun _ => Held K { c with table := f c.table } := by
  apply Leads.modifyTable
  rintro _ o ⟨rfl, ho⟩
  exact ⟨rfl, ho⟩

theorem held_onTable_eq {α : Type} {f : ActionTable → α × ActionTable} :
    Leads lost (Held K c) (onTable f) fun a s =>
      a = (f c.table).1 ∧ Held K { c with table := (f c.table).2 } s := by
  apply Leads.onTable
  rintro _ o ⟨rfl, ho⟩
  exact ⟨rfl, rfl, ho⟩

theorem held_onTable {α : Type} {f : ActionTable → α × ActionTable} :
    Leads lost (Held K c) (onTable f) fun _ => Held K { c with table := (f c.table).2 } :=
  held_onTable_eq.of_post fun _ _ hs => hs.2

theorem held_onPage_eq {α : Type} {m : PageM α} {a : α} {page : SharedPage}
    (h : m c.page = .ok a page) :
    Leads lost (Held K c) (onPage m) fun b s => b = a ∧ Held K { c with page } s := by
  apply Leads.onPage
  rintro _ o ⟨rfl, ho⟩
  rw [h]
  exact ⟨rfl, rfl, ho⟩

theorem held_onPage {α : Type} {m : PageM α} {a : α} {page : SharedPage}
    (h : m c.page = .ok a page) :
    Leads lost (Held K c) (onPage m) fun _ => Held K { c with page } :=
  (held_onPage_eq h).of_post fun _ _ hs => hs.2

theorem held_channels {β : Type} {f : Channels → Guest σ β} {post : β → System σ → Prop}
    (hf : Leads lost (Held K c) (f c) post) : Leads lost (Held K c) (channels >>= f) post := by
  apply Leads.channels.bind
  intro d
  constructor
  rintro s ⟨hs, rfl⟩
  obtain rfl := hs.channels
  exact hf.run s hs

theorem held_table {β : Type} {f : ActionTable → Guest σ β} {post : β → System σ → Prop}
    (hf : Leads lost (Held K c) (f c.table) post) : Leads lost (Held K c) (table >>= f) post := by
  apply Leads.table.bind
  intro t
  constructor
  rintro s ⟨hs, rfl⟩
  obtain rfl := hs.channels
  exact hf.run s hs

theorem held_interruptsMasked : Leads lost (Held K c) interruptsMasked fun masked s =>
    masked = c.interruptsMasked ∧ Held K c s :=
  ⟨fun _ hs => ⟨congrArg Channels.interruptsMasked hs.channels, hs⟩⟩

theorem held_unmasked (h : c.interruptsMasked = false) :
    Leads lost (Held K c) interruptsMasked fun masked s => masked = false ∧ Held K c s :=
  h ▸ held_interruptsMasked

theorem held_config : Leads lost (Held K c) config fun config s => config = c.config ∧ Held K c s :=
  ⟨fun _ hs => ⟨congrArg Channels.config hs.channels, hs⟩⟩

end Held

end EventChannel.Guest
