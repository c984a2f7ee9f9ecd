import EventChannel.Proofs.PortCustody.Account

namespace EventChannel

open Guest

/-- What a computation leads to, but for what surrounds the event channels. -/
def upshot {σ α : Type} : EStateM.Result Fault (System σ) α → Except Fault α × Channels
  | .ok a s => (.ok a, s.channels)
  | .error e s => (.error e, s.channels)

namespace Guest

variable {σ α β : Type}

/-- Computations lead from every state to the same, but for what surrounds the event channels. -/
def Alike (m m' : Guest σ α) : Prop := ∀ s, upshot (m s) = upshot (m' s)

/-- What surrounds the event channels is of no concern to a computation. -/
def Unconcerned (m : Guest σ α) : Prop :=
  ∀ s s', s.channels = s'.channels → upshot (m s) = upshot (m s')

/-- From the same upshot, what does not concern itself with the rest goes on to the same upshot. -/
theorem upshot_bind {m m' : Guest σ α} {f f' : α → Guest σ β} {s s' : System σ}
    (hm : upshot (m s) = upshot (m' s'))
    (hf : ∀ a t t', t.channels = t'.channels → upshot (f a t) = upshot (f' a t')) :
    upshot ((m >>= f) s) = upshot ((m' >>= f') s') := by
  change upshot (EStateM.bind m f s) = upshot (EStateM.bind m' f' s')
  unfold EStateM.bind
  cases hrun : m s with
  | ok a t =>
    rw [hrun] at hm
    cases hrun' : m' s' with
    | ok a' t' =>
      rw [hrun'] at hm
      obtain ⟨ha, hchannels⟩ := Prod.mk.inj hm
      obtain rfl := Except.ok.inj ha
      exact hf a t t' hchannels
    | error e' t' =>
      rw [hrun'] at hm
      cases hm
  | error e t =>
    rw [hrun] at hm
    cases hrun' : m' s' with
    | ok a' t' =>
      rw [hrun'] at hm
      cases hm
    | error e' t' =>
      rw [hrun'] at hm
      obtain ⟨he, hchannels⟩ := Prod.mk.inj hm
      exact Prod.ext (congrArg Except.error (Except.error.inj he)) hchannels

theorem Unconcerned.pure (a : α) : Unconcerned (Pure.pure a : Guest σ α) :=
  fun _ _ h => congrArg (Prod.mk (Except.ok a)) h

theorem Unconcerned.bind {m : Guest σ α} {f : α → Guest σ β} (hm : Unconcerned m)
    (hf : ∀ a, Unconcerned (f a)) : Unconcerned (m >>= f) :=
  fun s s' h => upshot_bind (hm s s' h) hf

theorem Unconcerned.modifyChannels (f : Channels → Channels) :
    Unconcerned (modifyChannels f : Guest σ Unit) :=
  fun _ _ h => congrArg (fun c => (Except.ok (), f c)) h

theorem Unconcerned.quiesce : Unconcerned (quiesce : Guest σ Unit) := by
  apply Unconcerned.bind (.modifyChannels _)
  intro _
  unfold maskUpcalls modifyPage
  exact .modifyChannels _

theorem Unconcerned.emit (P : Platform σ) (e : Event) : Unconcerned (emit P e) :=
  fun _ _ h => congrArg (Prod.mk (Except.ok ())) h

namespace Alike

theorem refl (m : Guest σ α) : Alike m m := fun _ => rfl

/-- Computations that begin alike in all respects may go on in different ways that are alike. -/
theorem bind_left {m : Guest σ α} {f f' : α → Guest σ β} (hf : ∀ a, Alike (f a) (f' a)) :
    Alike (m >>= f) (m >>= f') := by
  intro s
  change upshot (EStateM.bind m f s) = upshot (EStateM.bind m f' s)
  unfold EStateM.bind
  cases m s with
  | ok a t => exact hf a t
  | error e t => rfl

theorem bind {m m' : Guest σ α} {f f' : α → Guest σ β} (hm : Alike m m')
    (hf : ∀ a, Alike (f a) (f' a)) (hfree : ∀ a, Unconcerned (f a)) :
    Alike (m >>= f) (m' >>= f') := by
  intro s
  apply upshot_bind (hm s)
  intro a t t' h
  exact (hfree a t t' h).trans (hf a t')

end Alike

end Guest

/-- Platforms differ at most in what is answered when a port is taken back. -/
structure Platform.TakesBackAlike {σ : Type} (P Q : Platform σ) : Prop where
  observe : Q.observe = P.observe
  perform : ∀ r, r.closed? = none → Q.perform r = P.perform r
  close : ∀ number, Alike (call P (.hypercall (.close number)) >>= fun _ => pure ())
    (call Q (.hypercall (.close number)) >>= fun _ => pure ())

namespace Platform.TakesBackAlike

variable {σ α : Type} {P Q : Platform σ} (h : TakesBackAlike P Q)

include h

theorem exists_allotting : ∃ f, Q = P.allotting f :=
  ⟨_, eq_allotting (fun r hr => h.perform r (Request.closed?_eq_none hr)) h.observe⟩

theorem note_eq (n : Notice) : note Q n = note P n := by
  obtain ⟨f, rfl⟩ := h.exists_allotting
  rfl

theorem giveBack (number : UInt32) : Alike (giveBack P number) (giveBack Q number) := by
  have hreply (P : Platform σ) : Alike (Guest.giveBack P number)
      (call P (.hypercall (.close number)) >>= fun _ => pure ()) := by
    apply Alike.bind_left
    intro reply
    cases reply with
    | error errno => exact fun _ => rfl
    | ok _ => exact .refl _
  intro s
  exact (hreply P s).trans ((h.close number s).trans (hreply Q s).symm)

/-- An allocation that fails may have given its port back, and what follows may then not depend on
what surrounds the event channels. -/
theorem allocate_bind {op : Hypercall} (hop : (Request.hypercall op).closed? = none)
    {k k' : Except ChannelError Port → Guest σ α} (hk : ∀ result, Alike (k result) (k' result))
    (hfree : ∀ e, Unconcerned (k (.error e))) :
    Alike (allocate P op >>= k) (allocate Q op >>= k') := by
  have hcall : call Q (.hypercall op) = call P (.hypercall op) := h.perform _ hop
  unfold allocate
  rw [hcall, bind_assoc, bind_assoc]
  apply Alike.bind_left
  intro reply
  cases reply with
  | error errno => exact hk _
  | ok number =>
    change Alike (adopt P number >>= k) (adopt Q number >>= k')
    unfold adopt
    cases Port.ofNumber? number with
    | some port => exact hk _
    | none =>
      simp only [bind_assoc, pure_bind, h.note_eq]
      apply Alike.bind_left
      intro _
      exact (h.giveBack number).bind (fun _ => hk _) fun _ => hfree _

theorem allocate {op : Hypercall} (hop : (Request.hypercall op).closed? = none) :
    Alike (allocate P op) (allocate Q op) := by
  have hpure := h.allocate_bind hop (fun result => Alike.refl (pure result))
    fun e => Unconcerned.pure (Except.error e)
  simpa only [bind_pure] using hpure

theorem reserveSuspendPort : Alike (reserveSuspendPort P) (reserveSuspendPort Q) := by
  apply Alike.bind_left
  intro config
  apply h.allocate_bind rfl
  · intro result
    cases result with
    | error e => exact .refl _
    | ok port =>
      have hattach : attach Q port .suspend = attach P port .suspend := by
        obtain ⟨f, rfl⟩ := h.exists_allotting
        rfl
      dsimp only
      rw [hattach]
      apply Alike.bind_left
      intro attached
      cases attached with
      | error e =>
        exact (h.giveBack port.number).bind (fun _ => .refl _) fun _ => .pure _
      | ok _ => exact .refl _
  · exact fun e => .pure _

theorem init : Alike (init P) (init Q) := by
  have hreset : resetTable Q = resetTable P := by
    obtain ⟨f, rfl⟩ := h.exists_allotting
    exact resetTable_allotting P f
  have hdiscard : discardPending Q = discardPending P := by
    obtain ⟨f, rfl⟩ := h.exists_allotting
    rfl
  have hcall (value : UInt64) : call Q (.setParam .callbackIrq value) =
      call P (.setParam .callbackIrq value) := h.perform _ rfl
  unfold Guest.init
  simp only [hreset, hdiscard, hcall, h.note_eq]
  refine .bind_left fun _ => .bind_left fun _ => .bind_left fun _ => .bind_left fun reset => ?_
  cases reset with
  | error e => exact .refl _
  | ok _ =>
    refine .bind_left fun _ => .bind_left fun config => .bind_left fun reply => ?_
    cases reply with
    | error errno => exact .refl _
    | ok _ =>
      refine .bind_left fun _ => .bind_left fun _ => ?_
      apply h.reserveSuspendPort.bind
      · exact fun _ => .refl _
      · intro result
        cases result with
        | error e => exact .bind .quiesce fun _ => .pure _
        | ok port => exact .bind (.modifyChannels _) fun _ => .bind (.emit P _) fun _ => .pure _

end Platform.TakesBackAlike

/-- The same operations, and then another result. -/
def Program.answering {α β : Type} (answer : β) : Program α → Program β
  | done _ => done answer
  | step op next => step op fun result => (next result).answering answer

/-- The client with other answers when a port is taken back. -/
def Client.answeringClose (c : Client) (answer : UInt32 → History → Except Errno UInt32) : Client where
  respond
    | .hypercall (.close number), history =>
      (c.respond (.hypercall (.close number)) history).answering (answer number history)
    | r, history => c.respond r history
  answer
    | .hypercall (.close number), history => answer number history
    | r, history => c.answer r history

theorem Program.run_answering {α β : Type} {P : Platform History} {depth : Nat} (answer : β)
    (program : Program α) :
    (program.answering answer).run P depth = program.run P depth >>= fun _ => pure answer := by
  induction program with
  | done result => rfl
  | step op next ih => simp only [answering, run, ih, bind_assoc]

namespace Platform.TakesBackAlike

variable {P Q : Platform History}

theorem run_eq (h : TakesBackAlike P Q) {op : Operation} (hop : op.movesPort = false) :
    op.run Q = op.run P := by
  obtain ⟨f, rfl⟩ := h.exists_allotting
  exact Operation.run_allotting hop

theorem program_eq {α : Type} (h : TakesBackAlike P Q) {depth : Nat} {program : Program α}
    (hprogram : program.Within fun op => op.movesPort = false) :
    program.run Q depth = program.run P depth := by
  induction program with
  | done result => rfl
  | step op next ih =>
    simp only [Program.run, h.run_eq hprogram.1]
    simp only [fun result => ih result (hprogram.2 result)]

end Platform.TakesBackAlike

namespace Client

variable {c : Client} {answer : UInt32 → History → Except Errno UInt32}

theorem respond_answeringClose {r : Request} (hr : r.closed? = none) :
    (c.answeringClose answer).respond r = c.respond r := by
  cases r with
  | hypercall op =>
    cases op with
    | close number => cases hr
    | _ => rfl
  | _ => rfl

theorem answer_answeringClose {r : Request} (hr : r.closed? = none) :
    (c.answeringClose answer).answer r = c.answer r := by
  cases r with
  | hypercall op =>
    cases op with
    | close number => cases hr
    | _ => rfl
  | _ => rfl

theorem observe_platform (depth : Nat) : (c.platform depth).observe =
    fun event state history => .saw depth event state :: history := by
  cases depth <;> rfl

/-- The operations that run while a port is taken back do not see how that is answered. -/
theorem takesBackAlike (hc : c.LeavesPorts) (depth : Nat) :
    Platform.TakesBackAlike (c.platform depth) ((c.answeringClose answer).platform depth) := by
  have hobserve (depth : Nat) : ((c.answeringClose answer).platform depth).observe =
      (c.platform depth).observe := by
    rw [observe_platform, observe_platform]
  induction depth with
  | zero =>
    refine ⟨hobserve _, fun r hr => ?_, fun number => ?_⟩
    · simp only [platform, answer_answeringClose hr]
    · simp only [call, platform, bind_assoc, pure_bind]
      exact .bind_left fun s => .bind_left fun _ _ => rfl
  | succ depth ih =>
    refine ⟨hobserve _, fun r hr => ?_, fun number => ?_⟩
    · have hrespond (history : History) : ((c.answeringClose answer).respond r history).run
          ((c.answeringClose answer).platform depth) depth =
          (c.respond r history).run (c.platform depth) depth := by
        rw [respond_answeringClose hr]
        exact ih.program_eq (hc r history)
      simp only [platform, hrespond]
    · have hrespond (history : History) :
          ((c.answeringClose answer).respond (.hypercall (.close number)) history).run
            ((c.answeringClose answer).platform depth) depth =
          ((c.respond (.hypercall (.close number)) history).run (c.platform depth) depth >>=
            fun _ => pure (answer number history)) := by
        rw [← ih.program_eq (hc (.hypercall (.close number)) history)]
        exact Program.run_answering _ _
      simp only [call, platform, hrespond, bind_assoc, pure_bind]
      exact .bind_left fun s => .bind_left fun _ => .bind_left fun reply _ => rfl

end Client

end EventChannel
