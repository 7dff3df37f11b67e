import AnswerStream.Client.Session
import Mathlib.Data.List.Basic

/-!
Calls that nothing cancels. Time and the limiter then decide only when things happen, so that the
result of a call, the state of the transport, and the events follow from the state of the transport
alone.
-/

namespace AnswerStream

variable {σ α β : Type}

/-- Nothing cancels a call here. -/
structure Surroundings.Calm (w : Surroundings σ) : Prop where
  no_instant : w.cancelAt = none
  no_observer : ∀ trace, w.cancelOn trace = false

namespace Call

/-- How a call ends that has a result or fails. -/
def ending (result : Except Failure α) (s : Session σ) : EStateM.Result Stop (Session σ) α :=
  match result with
  | .ok a => .ok a s
  | .error e => .error (.failed e) s

/-- What a call comes to in every session that has not been cancelled and whose transport is in a
given state: its result, the state in which it leaves the transport, and its events in the order of
time. -/
def Yields (call : Call σ α) (t : σ) (result : Except Failure α) (t' : σ)
    (events : List Event) : Prop :=
  ∀ s : Session σ, s.cancelled = false → s.transport = t →
    ∃ s' : Session σ, call.run s = ending result s' ∧ s'.cancelled = false ∧ s'.transport = t' ∧
      s'.trace = events.reverse ++ s.trace

variable {t t' t'' : σ} {es es' : List Event}

theorem run_bind (x : Call σ α) (f : α → Call σ β) (s : Session σ) :
    (x >>= f).run s =
      match x.run s with
      | .ok a s' => (f a).run s'
      | .error e s' => .error e s' := by
  simp only [EStateM.run, bind, EStateM.bind]
  cases x s <;> rfl

theorem run_get_bind (f : Session σ → Call σ β) (s : Session σ) :
    ((do let s ← get; f s : Call σ β)).run s = (f s).run s := rfl

theorem run_tryCatch (x : Call σ α) (handler : Stop → Call σ α) (s : Session σ) :
    (tryCatch x handler).run s =
      match x.run s with
      | .ok a s' => .ok a s'
      | .error e s' => (handler e).run s' := by
  simp only [EStateM.run, tryCatch, tryCatchThe, MonadExceptOf.tryCatch, EStateM.tryCatch]
  cases x s <;> rfl

namespace Yields

theorem pure (a : α) (t : σ) : Yields (pure a : Call σ α) t (.ok a) t [] :=
  fun s hs ht => ⟨s, rfl, hs, ht, rfl⟩

theorem fail (e : Failure) (t : σ) : Yields (fail e : Call σ α) t (.error e) t [] :=
  fun s hs ht => ⟨s, rfl, hs, ht, rfl⟩

theorem ofExcept (result : Except Failure α) (t : σ) :
    Yields (ofExcept result : Call σ α) t result t [] := by
  cases result with
  | ok a => exact pure a t
  | error e => exact fail e t

theorem bind_ok {x : Call σ α} {f : α → Call σ β} {a : α} {result : Except Failure β}
    (hx : Yields x t (.ok a) t' es) (hf : Yields (f a) t' result t'' es') :
    Yields (x >>= f) t result t'' (es ++ es') := by
  intro s hs ht
  obtain ⟨s₁, hrun₁, hs₁, ht₁, htrace₁⟩ := hx s hs ht
  obtain ⟨s₂, hrun₂, hs₂, ht₂, htrace₂⟩ := hf s₁ hs₁ ht₁
  refine ⟨s₂, ?_, hs₂, ht₂, ?_⟩
  · rw [run_bind, hrun₁]
    exact hrun₂
  · rw [htrace₂, htrace₁, List.reverse_append, List.append_assoc]

theorem bind_silent {x : Call σ α} {f : α → Call σ β} {a : α} {result : Except Failure β}
    (hx : Yields x t (.ok a) t' es) (hf : Yields (f a) t' result t'' []) :
    Yields (x >>= f) t result t'' es := by
  rw [← List.append_nil es]
  exact hx.bind_ok hf

theorem bind_error {x : Call σ α} {e : Failure} (hx : Yields x t (.error e) t' es)
    (f : α → Call σ β) : Yields (x >>= f) t (.error e) t' es := by
  intro s hs ht
  obtain ⟨s₁, hrun₁, h₁⟩ := hx s hs ht
  refine ⟨s₁, ?_, h₁⟩
  rw [run_bind, hrun₁]
  rfl

theorem tryCatch_ok {x : Call σ α} {a : α} (hx : Yields x t (.ok a) t' es)
    (handler : Stop → Call σ α) : Yields (tryCatch x handler) t (.ok a) t' es := by
  intro s hs ht
  obtain ⟨s₁, hrun₁, h₁⟩ := hx s hs ht
  refine ⟨s₁, ?_, h₁⟩
  rw [run_tryCatch, hrun₁]
  rfl

theorem tryCatch_error {x : Call σ α} {handler : Stop → Call σ α} {e : Failure}
    {result : Except Failure α} (hx : Yields x t (.error e) t' es)
    (hhandler : Yields (handler (.failed e)) t' result t'' es') :
    Yields (tryCatch x handler) t result t'' (es ++ es') := by
  intro s hs ht
  obtain ⟨s₁, hrun₁, hs₁, ht₁, htrace₁⟩ := hx s hs ht
  obtain ⟨s₂, hrun₂, hs₂, ht₂, htrace₂⟩ := hhandler s₁ hs₁ ht₁
  refine ⟨s₂, ?_, hs₂, ht₂, ?_⟩
  · rw [run_tryCatch, hrun₁]
    exact hrun₂
  · rw [htrace₂, htrace₁, List.reverse_append, List.append_assoc]

theorem poll (t : σ) : Yields (poll : Call σ Unit) t (.ok ()) t [] := by
  intro s hs ht
  refine ⟨s, ?_, hs, ht, rfl⟩
  rw [Call.poll, run_get_bind, hs]
  rfl

end Yields
end Call

namespace Surroundings
open Call (Yields run_get_bind)

variable {w : Surroundings σ} {t t' : σ}

theorem Calm.emit (hw : w.Calm) (e : Event) (t : σ) : Yields (w.emit e) t (.ok ()) t [e] := by
  intro s hs ht
  refine ⟨{ s with trace := e :: s.trace }, ?_, hs, ht, rfl⟩
  have hcancelled : (s.cancelled || w.cancelOn (e :: s.trace)) = s.cancelled := by
    rw [hw.no_observer, Bool.or_false]
  change EStateM.Result.ok () { s with
    trace := e :: s.trace, cancelled := s.cancelled || w.cancelOn (e :: s.trace) } = _
  rw [hcancelled]
  rfl

/-- The events that a stage leaves. -/
def staged (w : Surroundings σ) (stage : Stage) : List Event :=
  if w.watch.stages then [.entered stage] else []

theorem Calm.enter (hw : w.Calm) (stage : Stage) (t : σ) :
    Yields (w.enter stage) t (.ok ()) t (w.staged stage) := by
  unfold Surroundings.enter staged
  cases w.watch.stages with
  | true => exact hw.emit _ t
  | false => exact .pure () t

theorem Calm.pause (hw : w.Calm) (span : Duration) (t : σ) :
    Yields (w.pause span) t (.ok ()) t [] := by
  unfold Surroundings.pause
  cases span.isZero with
  | true => exact .pure () t
  | false =>
    have hwait : Yields (do
        let wake := (← get).now + span
        modify fun s => { s with now := wake } : Call σ Unit) t (.ok ()) t [] :=
      fun s hs ht => ⟨{ s with now := s.now + span }, rfl, hs, ht, rfl⟩
    simpa [hw.no_instant] using (Yields.poll t).bind_ok hwait

theorem Calm.acquire (hw : w.Calm) (t : σ) :
    Yields w.acquire t (.ok ()) t [.admitted] := by
  intro s hs ht
  unfold Surroundings.acquire
  rw [run_get_bind]
  rcases s.limiter.request s.now with ⟨limiter, _ | wait⟩
  · exact hw.emit .admitted t { s with limiter } hs ht
  · have hcomplete : Yields (modify fun s =>
        { s with limiter := s.limiter.complete s.now wait } : Call σ Unit) t (.ok ()) t [] :=
      fun s hs ht => ⟨{ s with limiter := s.limiter.complete s.now wait }, rfl, hs, ht, rfl⟩
    have hrest : Yields (do
        w.pause wait
        modify fun s => { s with limiter := s.limiter.complete s.now wait }
        w.emit .admitted : Call σ Unit) t (.ok ()) t [.admitted] :=
      Yields.bind_ok (hw.pause wait t) (Yields.bind_ok hcomplete (hw.emit .admitted t))
    exact hrest { s with limiter } hs ht

theorem Calm.exchange (hw : w.Calm) {send : σ → Request → σ × Reply α} {r : Request}
    {delay : Duration} {result : Except TransportError α}
    (hsend : send t r = (t', .after delay result)) :
    Yields (w.exchange send r) t (result.mapError .ofTransport) t' [.sent r] := by
  intro s hs ht
  subst ht
  have hrest : Yields (do
      w.emit (.sent r)
      w.pause delay
      Call.ofExcept (result.mapError .ofTransport) : Call σ α) t'
        (result.mapError .ofTransport) t' [.sent r] :=
    Yields.bind_ok (hw.emit _ t') (Yields.bind_ok (hw.pause delay t') (.ofExcept _ t'))
  unfold Surroundings.exchange
  rw [run_get_bind]
  simp only [hsend]
  exact hrest { s with transport := t' } hs rfl

theorem yields_drawNext_bind {f : Nat → Call σ α} {result : Except Failure α} {es : List Event}
    (h : ∀ n, Yields (f n) t result t' es) : Yields (w.drawNext >>= f) t result t' es := by
  intro s hs ht
  exact h (w.draw s.drawn) { s with drawn := s.drawn + 1 } hs ht

end Surroundings
end AnswerStream
