import AnswerStream.Proofs.Client.Calm
import Mathlib.Algebra.Order.Ring.Nat

/-!
What repeated attempts come to. An operation is attempted again while its attempts fail for a while
only and the policy leaves attempts over: the first other result is that of the whole, and where
there is none, the last failure is the source of the report.
-/

namespace AnswerStream

variable {σ α : Type}

/-- A result after which an operation may be attempted again. -/
def Transient (result : Except Failure α) : Prop :=
  ∃ e, result = .error e ∧ e.errorClass = .transient

theorem not_transient_error {e : Failure} (h : ¬ Transient (.error e : Except Failure α)) :
    e.errorClass ≠ .transient := fun he => h ⟨e, rfl, he⟩

/-- The report of giving up is never given up on in its turn. -/
theorem ne_retryExhausted_of_transient {e : Failure} (h : e.errorClass = .transient)
    (attempts : Nat) (source : Failure) : e ≠ .retryExhausted attempts source := by
  rintro rfl
  cases h

namespace Surroundings
open Call (Yields)

variable {w : Surroundings σ} {policy : RetryPolicy} {operation : Call σ α} {t t' t'' : σ}
  {result : Except Failure α} {es es' : List Event}

/-- What follows a failed attempt, as the policy has decided. -/
def followUp (w : Surroundings σ) (policy : RetryPolicy) (operation : Call σ α) (attempt : Nat)
    (e : Failure) : RetryDecision → (left : Nat) → Call σ α
  | .again delay, left + 1 => do
    Call.poll
    w.pause delay
    w.attempts policy operation left (attempt + 1)
  | _, _ => Call.fail (RetryPolicy.giveUp e attempt)

theorem attempts_eq (left attempt : Nat) :
    w.attempts policy operation left attempt = (do
      Call.poll
      tryCatch operation fun
        | .stuck => throw .stuck
        | .failed e => do
          let draw ← w.drawNext
          w.followUp policy operation attempt e (policy.decide e attempt draw) left) := by
  cases left <;> delta followUp attempts
  all_goals
    refine bind_congr fun _ => congrArg (tryCatch operation) (funext fun stop => ?_)
    cases stop with
    | stuck => rfl
    | failed e =>
      refine bind_congr fun draw => ?_
      cases policy.decide e attempt draw <;> rfl

theorem yields_attempts_ok {a : α} (hop : Yields operation t (.ok a) t' es) (left attempt : Nat) :
    Yields (w.attempts policy operation left attempt) t (.ok a) t' es := by
  rw [attempts_eq]
  exact (Yields.poll t).bind_ok (hop.tryCatch_ok _)

theorem yields_attempts_error {e : Failure} {left attempt : Nat}
    (hop : Yields operation t (.error e) t' es)
    (hfollow : ∀ draw, Yields
      (w.followUp policy operation attempt e (policy.decide e attempt draw) left) t' result
      t'' es') :
    Yields (w.attempts policy operation left attempt) t result t'' (es ++ es') := by
  rw [attempts_eq]
  exact (Yields.poll t).bind_ok (hop.tryCatch_error (yields_drawNext_bind hfollow))

theorem decide_eq_stop {e : Failure} {attempt : Nat}
    (h : policy.maxAttempts ≤ attempt ∨ e.errorClass ≠ .transient) (draw : Nat) :
    policy.decide e attempt draw = .stop :=
  if_neg fun hagain => h.elim hagain.2.not_ge fun hclass => hclass hagain.1

theorem followUp_stop (attempt : Nat) (e : Failure) (left : Nat) :
    w.followUp policy operation attempt e .stop left =
      Call.fail (RetryPolicy.giveUp e attempt) := by
  cases left <;> rfl

/-- The policy ends the attempts before there are none left. -/
theorem attempts_add_left {left attempt : Nat} (h : policy.maxAttempts ≤ attempt + left)
    (more : Nat) :
    w.attempts policy operation (left + more) attempt =
      w.attempts policy operation left attempt := by
  induction left generalizing attempt with
  | zero =>
    rw [Nat.add_zero] at h
    have hstop (e : Failure) (draw : Nat) : policy.decide e attempt draw = .stop :=
      decide_eq_stop (Or.inl h) draw
    simp only [attempts_eq, hstop, followUp_stop]
  | succ left ih =>
    have hnext := @ih (attempt + 1) (by omega)
    have hfollow (e : Failure) (decision : RetryDecision) :
        w.followUp policy operation attempt e decision (left + 1 + more) =
          w.followUp policy operation attempt e decision (left + 1) := by
      cases decision with
      | stop => rw [followUp_stop, followUp_stop]
      | again delay =>
        rw [Nat.add_right_comm, followUp, followUp, hnext]
    simp only [attempts_eq, hfollow]

theorem withRetries_eq {left : Nat} (h : policy.maxAttempts ≤ left + 1) :
    w.withRetries policy operation = w.attempts policy operation left 1 := by
  obtain ⟨more, rfl⟩ := Nat.exists_eq_add_of_le (Nat.sub_le_of_le_add h)
  exact (attempts_add_left (by omega) more).symm

theorem yields_attempts_last {e : Failure} {left attempt : Nat}
    (hop : Yields operation t (.error e) t' es)
    (hlast : policy.maxAttempts ≤ attempt ∨ e.errorClass ≠ .transient) :
    Yields (w.attempts policy operation left attempt) t
      (.error (RetryPolicy.giveUp e attempt)) t' es := by
  have hfollow (draw : Nat) :
      w.followUp policy operation attempt e (policy.decide e attempt draw) left =
        Call.fail (RetryPolicy.giveUp e attempt) := by
    rw [decide_eq_stop hlast, followUp_stop]
  rw [← List.append_nil es]
  refine yields_attempts_error hop fun draw => ?_
  rw [hfollow]
  exact .fail _ t'

theorem Calm.attempts_again (hw : w.Calm) {e : Failure} {left attempt : Nat}
    (hop : Yields operation t (.error e) t' es) (he : e.errorClass = .transient)
    (hattempt : attempt < policy.maxAttempts)
    (hrest : Yields (w.attempts policy operation left (attempt + 1)) t' result t'' es') :
    Yields (w.attempts policy operation (left + 1) attempt) t result t'' (es ++ es') := by
  refine yields_attempts_error hop fun draw => ?_
  have hagain : policy.decide e attempt draw =
      .again (policy.backoff attempt + policy.jitter draw) := if_pos ⟨he, hattempt⟩
  rw [hagain]
  exact (Yields.poll t').bind_ok ((hw.pause _ t').bind_ok hrest)

section Runs

variable {states : Nat → σ} {results : Nat → Except Failure α} {events : Nat → List Event}

theorem Calm.withRetries_skip (hw : w.Calm) {n left : Nat}
    (hop : ∀ i < n, Yields operation (states i) (results i) (states (i + 1)) (events i))
    (hn : n < policy.maxAttempts) (hleft : policy.maxAttempts ≤ left + n + 1)
    (htransient : ∀ i < n, Transient (results i))
    (hrest : Yields (w.attempts policy operation left (n + 1)) (states n) result t' es) :
    Yields (w.withRetries policy operation) (states 0) result t'
      ((List.range n).flatMap events ++ es) := by
  induction n generalizing left es with
  | zero =>
    rw [withRetries_eq hleft]
    exact hrest
  | succ n ih =>
    obtain ⟨e, he, hclass⟩ := htransient n (Nat.lt_succ_self n)
    have hfailed := hop n (by omega)
    rw [he] at hfailed
    have hagain := hw.attempts_again hfailed hclass (by omega) hrest
    have hrun := ih (fun i hi => hop i (by omega)) (by omega) (by omega)
      (fun i hi => htransient i (by omega)) hagain
    rw [List.range_succ, List.flatMap_append, List.append_assoc]
    simpa using hrun

/-- The first result that is not a transient failure is that of all attempts, whatever further ones
would come to. -/
theorem Calm.withRetries_first (hw : w.Calm) {k : Nat}
    (hop : ∀ i ≤ k, Yields operation (states i) (results i) (states (i + 1)) (events i))
    (hk : k < policy.maxAttempts) (htransient : ∀ i < k, Transient (results i))
    (hfinal : ¬ Transient (results k)) :
    Yields (w.withRetries policy operation) (states 0) (results k) (states (k + 1))
      ((List.range (k + 1)).flatMap events) := by
  have hlast := hop k le_rfl
  have hleft : policy.maxAttempts ≤ policy.maxAttempts + k + 1 := by omega
  rw [List.range_succ, List.flatMap_append, List.flatMap_singleton]
  refine hw.withRetries_skip (fun i hi => hop i hi.le) hk hleft htransient ?_
  cases hresult : results k with
  | ok a =>
    rw [hresult] at hlast
    exact yields_attempts_ok hlast _ _
  | error e =>
    rw [hresult] at hlast hfinal
    have hclass := not_transient_error hfinal
    have hreport : RetryPolicy.giveUp e (k + 1) = e := if_neg hclass
    rw [← hreport]
    exact yields_attempts_last hlast (Or.inr hclass)

theorem Calm.withRetries_settled (hw : w.Calm)
    (hop : ∀ i < policy.maxAttempts,
      Yields operation (states i) (results i) (states (i + 1)) (events i))
    {k : Nat} (hk : k < policy.maxAttempts) (htransient : ∀ i < k, Transient (results i))
    (hfinal : ¬ Transient (results k)) :
    Yields (w.withRetries policy operation) (states 0) (results k) (states (k + 1))
      ((List.range (k + 1)).flatMap events) :=
  hw.withRetries_first (fun i hi => hop i (hi.trans_lt hk)) hk htransient hfinal

theorem Calm.withRetries_exhausted (hw : w.Calm)
    (hop : ∀ i < policy.maxAttempts,
      Yields operation (states i) (results i) (states (i + 1)) (events i))
    (htransient : ∀ i < policy.maxAttempts, Transient (results i)) :
    ∃ e, results (policy.maxAttempts - 1) = .error e ∧ e.errorClass = .transient ∧
      Yields (w.withRetries policy operation) (states 0)
        (.error (.retryExhausted policy.maxAttempts e)) (states policy.maxAttempts)
        ((List.range policy.maxAttempts).flatMap events) := by
  obtain ⟨n, hn⟩ : ∃ n, policy.maxAttempts = n + 1 :=
    ⟨policy.maxAttempts - 1, by have := policy.one_le_maxAttempts; omega⟩
  obtain ⟨e, he, hclass⟩ := htransient n (by omega)
  have hlast := hop n (by omega)
  rw [he] at hlast
  have hreport : RetryPolicy.giveUp e (n + 1) = .retryExhausted (n + 1) e := if_pos hclass
  have hgiveUp := @yields_attempts_last _ _ w policy _ _ _ _ e policy.maxAttempts (n + 1) hlast
    (Or.inl hn.le)
  rw [hreport] at hgiveUp
  have hrun := hw.withRetries_skip (fun i hi => hop i (by omega)) (by omega) (by omega)
    (fun i hi => htransient i (by omega)) hgiveUp
  refine ⟨e, ?_, hclass, ?_⟩
  · rw [hn]
    exact he
  · rw [hn, List.range_succ, List.flatMap_append, List.flatMap_singleton]
    exact hrun

end Runs
end Surroundings
end AnswerStream
