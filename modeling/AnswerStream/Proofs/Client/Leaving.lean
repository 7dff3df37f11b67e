import AnswerStream.Proofs.Client.Outcome
import AnswerStream.Proofs.Client.Waiting
import AnswerStream.Proofs.Limiter.Moving

/-!
What a call leaves in its session when nothing is known of how it ends: it may have a result, fail,
be cancelled or wait for ever. Only what it adds to the trace counts here, and how it moves the
limiter.
-/

namespace AnswerStream

variable {σ α β : Type}

/-- A session goes on to another: these are the events in between, in the order of time, and the
limiter has moved with them. -/
structure Session.Adds (s : Session σ) (events : List Event) (s' : Session σ) : Prop where
  trace : s'.trace = events.reverse ++ s.trace
  moves : s.limiter.Moves s.now events s'.limiter s'.now

namespace Session.Adds

variable {s s' s'' : Session σ} {es es' : List Event}

theorem rests (htrace : s'.trace = es.reverse ++ s.trace) (hlimiter : s'.limiter = s.limiter)
    (hnow : s.now ≤ s'.now) (hevents : .admitted ∉ es) : s.Adds es s' :=
  ⟨htrace, hlimiter ▸ .rests hnow hevents⟩

theorem refl (s : Session σ) : s.Adds [] s := rests rfl rfl (Nat.le_refl _) List.not_mem_nil

theorem trans (h : s.Adds es s') (h' : s'.Adds es' s'') : s.Adds (es ++ es') s'' where
  trace := by rw [h'.trace, h.trace, List.reverse_append, List.append_assoc]
  moves := h.moves.trans h'.moves

end Session.Adds

namespace Call

/-- The session in which a call ends, one way or the other. -/
def last (call : Call σ α) (s : Session σ) : Session σ :=
  match call.run s with
  | .ok _ s' => s'
  | .error _ s' => s'

/-- The events that a call adds have a property, however it ends. -/
def Leaves (call : Call σ α) (P : List Event → Prop) : Prop :=
  ∀ s : Session σ, ∃ events, P events ∧ s.Adds events (call.last s)

namespace Leaves

variable {P Q R : List Event → Prop} {x : Call σ α} {f : α → Call σ β}

theorem mono (hx : Leaves x P) (h : ∀ es, P es → Q es) : Leaves x Q := by
  intro s
  obtain ⟨es, hes, hadds⟩ := hx s
  exact ⟨es, h es hes, hadds⟩

/-- What comes second may not come at all. -/
theorem bind (hx : Leaves x P) (hf : ∀ a, Leaves (f a) Q) (hstop : ∀ es, P es → R es)
    (hjoin : ∀ es es', P es → Q es' → R (es ++ es')) : Leaves (x >>= f) R := by
  intro s
  obtain ⟨es, hes, hadds⟩ := hx s
  have hlast : (x >>= f).last s =
      match x.run s with
      | .ok a s' => (f a).last s'
      | .error _ s' => s' := by
    rw [last, run_bind]
    cases x.run s <;> rfl
  rw [last] at hadds
  cases hrun : x.run s with
  | ok a s' =>
    rw [hrun] at hadds hlast
    obtain ⟨es', hes', hadds'⟩ := hf a s'
    exact ⟨es ++ es', hjoin es es' hes hes', hlast ▸ hadds.trans hadds'⟩
  | error e s' =>
    rw [hrun] at hadds hlast
    exact ⟨es, hstop es hes, hlast ▸ hadds⟩

theorem tryCatch {handler : Stop → Call σ α} (hx : Leaves x P)
    (hhandler : ∀ e, Leaves (handler e) P)
    (hjoin : ∀ es es', P es → P es' → P (es ++ es')) : Leaves (tryCatch x handler) P := by
  intro s
  obtain ⟨es, hes, hadds⟩ := hx s
  have hlast : (MonadExcept.tryCatch x handler).last s =
      match x.run s with
      | .ok _ s' => s'
      | .error e s' => (handler e).last s' := by
    rw [last, run_tryCatch]
    cases x.run s <;> rfl
  rw [last] at hadds
  cases hrun : x.run s with
  | ok a s' =>
    rw [hrun] at hadds hlast
    exact ⟨es, hes, hlast ▸ hadds⟩
  | error e s' =>
    rw [hrun] at hadds hlast
    obtain ⟨es', hes', hadds'⟩ := hhandler e s'
    exact ⟨es ++ es', hjoin es es' hes hes', hlast ▸ hadds.trans hadds'⟩

theorem get_bind {f : Session σ → Call σ α} (h : ∀ s, Leaves (f s) P) :
    Leaves (do let s ← get; f s) P := fun s => h s s

theorem modify {f : Session σ → Session σ} {es : List Event}
    (h : ∀ s : Session σ, s.Adds es (f s)) : Leaves (modify f : Call σ Unit) (· = es) :=
  fun s => ⟨es, rfl, h s⟩

end Leaves

/-- A call that sends no request. -/
def Quiet (call : Call σ α) : Prop := Leaves call fun es => requests es = []

namespace Quiet

variable {x : Call σ α} {f : α → Call σ β}

theorem pure (a : α) : Quiet (pure a : Call σ α) := fun s => ⟨[], rfl, .refl s⟩

theorem throw (e : Stop) : Quiet (throw e : Call σ α) := fun s => ⟨[], rfl, .refl s⟩

theorem ofExcept (result : Except Failure α) : Quiet (ofExcept result : Call σ α) := by
  cases result with
  | ok a => exact pure a
  | error e => exact throw (.failed e)

theorem bind (hx : Quiet x) (hf : ∀ a, Quiet (f a)) : Quiet (x >>= f) :=
  Leaves.bind hx hf (fun _ h => h) fun es es' h h' => by
    rw [requests_append, h, h', List.nil_append]

theorem modify {f : Session σ → Session σ} (h : ∀ s : Session σ, s.Adds [] (f s)) :
    Quiet (modify f : Call σ Unit) :=
  (Leaves.modify h).mono fun es hes => by rw [hes]; rfl

theorem poll : Quiet (poll : Call σ Unit) := by
  refine Leaves.get_bind fun s => ?_
  split
  · exact throw _
  · exact pure ()

theorem cancel (instant : Duration) : Quiet (cancel instant : Call σ α) := by
  have hcut (s : Session σ) : s.Adds [] { s with now := max s.now instant, cancelled := true } :=
    .rests rfl rfl (Nat.le_max_left _ _) List.not_mem_nil
  exact (modify hcut).bind fun _ => throw _

end Quiet
end Call

namespace Surroundings
open Call (Leaves Quiet run_bind run_get_bind)

variable {w : Surroundings σ}

theorem leaves_emit (e : Event) (hadmitted : e ≠ .admitted) : Leaves (w.emit e) (· = [e]) :=
  Leaves.modify fun _ => .rests rfl rfl (Nat.le_refl _) (by simpa using hadmitted.symm)

theorem quiet_emit (e : Event) (hadmitted : e ≠ .admitted) (hsent : e.sent? = none) :
    Quiet (w.emit e) := by
  refine (leaves_emit e hadmitted).mono fun es hes => ?_
  rw [hes, requests, List.filterMap_cons_none hsent]
  rfl

theorem quiet_enter (stage : Stage) : Quiet (w.enter stage) := by
  unfold Surroundings.enter
  split
  · exact quiet_emit _ Event.noConfusion rfl
  · exact .pure ()

theorem quiet_pause (span : Duration) : Quiet (w.pause span) := by
  intro s
  rw [Call.last]
  obtain hrun | ⟨stop, instant, cancelled, hrun, hlater, -⟩ := w.run_pause_cases span s
  · rw [hrun]
    exact ⟨[], rfl, .rests rfl rfl (Nat.le_add_right _ _) List.not_mem_nil⟩
  · rw [hrun]
    exact ⟨[], rfl, .rests rfl rfl hlater List.not_mem_nil⟩

theorem quiet_hang : Quiet (w.hang : Call σ α) := by
  refine Quiet.poll.bind fun _ => ?_
  split
  · exact .cancel _
  · exact .throw _

theorem quiet_drawNext : Quiet w.drawNext :=
  fun _ => ⟨[], rfl, .rests rfl rfl (Nat.le_refl _) List.not_mem_nil⟩

theorem leaves_sent_bind (r : Request) {f : Unit → Call σ α} (hf : ∀ u, Quiet (f u)) :
    Leaves (w.emit (.sent r) >>= f) fun es => requests es = [r] := by
  refine (leaves_emit (.sent r) Event.noConfusion).bind hf (fun es hes => hes ▸ rfl) ?_
  rintro es es' rfl hes'
  rw [requests_append, hes']
  rfl

theorem leaves_exchange (send : σ → Request → σ × Reply α) (r : Request) :
    Leaves (w.exchange send r) fun es => requests es = [r] := by
  intro s
  unfold Surroundings.exchange
  rw [Call.last, run_get_bind]
  rcases hsend : send s.transport r with ⟨transport, ⟨delay, result⟩ | _⟩
  · have hrest : Leaves (do
        w.emit (.sent r)
        w.pause delay
        Call.ofExcept (result.mapError .ofTransport) : Call σ α) fun es => requests es = [r] :=
      leaves_sent_bind r fun _ => (quiet_pause delay).bind fun _ => .ofExcept _
    obtain ⟨es, hes, hadds⟩ := hrest { s with transport }
    exact ⟨es, hes, hadds.trace, hadds.moves⟩
  · have hrest : Leaves (do
        w.emit (.sent r)
        w.hang : Call σ α) fun es => requests es = [r] :=
      leaves_sent_bind r fun _ => quiet_hang
    obtain ⟨es, hes, hadds⟩ := hrest { s with transport }
    exact ⟨es, hes, hadds.trace, hadds.moves⟩

/-- A call gets its token and is admitted, or it ends in its wait. -/
theorem run_acquire (w : Surroundings σ) (s : Session σ) :
    ∃ s', (w.acquire.run s = .ok () s' ∧ s.Adds [.admitted] s') ∨
      ∃ e, w.acquire.run s = .error e s' ∧ s.Adds [] s' := by
  unfold Surroundings.acquire
  rw [run_get_bind]
  rcases hrequest : s.limiter.request s.now with ⟨limiter, _ | wait⟩
  · exact ⟨_, Or.inl ⟨rfl, rfl, .passes hrequest⟩⟩
  · change ∃ s', (((w.pause wait) >>= _ : Call σ Unit).run { s with limiter } = _ ∧ _) ∨
      ∃ e, ((w.pause wait) >>= _ : Call σ Unit).run { s with limiter } = _ ∧ _
    rw [run_bind]
    obtain hpause | ⟨e, instant, cancelled, hpause, hlater, hwake⟩ :=
      w.run_pause_cases wait { s with limiter }
    · rw [hpause]
      exact ⟨_, Or.inl ⟨rfl, rfl, .waits hrequest⟩⟩
    · rw [hpause]
      exact ⟨_, Or.inr ⟨e, rfl, rfl, .givesUp hrequest hlater hwake⟩⟩

end Surroundings
end AnswerStream
