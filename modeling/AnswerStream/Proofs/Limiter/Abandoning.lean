import AnswerStream.Proofs.Limiter.Sharing

/-!
Acquires that are given up. Whoever sleeps keeps all others from the bucket, so that only its refill
is left of a call that is given up in its wait; and an exact bucket answers later requests as if
that call had never asked.
-/

namespace AnswerStream

namespace Bucket

/-- Who has to wait has only made the bucket refill. -/
theorem request_eq_after {α τ : Type} [Metering α τ] {b b' : Bucket α τ} {now wait : τ}
    (h : b.request now = (b', .after wait)) : b.enabled = true ∧ b' = b.refill now := by
  unfold request at h
  split at h
  · next henabled =>
    dsimp only at h
    split at h
    · cases h
    · cases h
      exact ⟨henabled, rfl⟩
  · cases h

section Exact

variable {b : Bucket Rat Rat} {now later : Rat}

theorem Sound.refill_refill (hb : b.Sound) (hnow : b.refilled ≤ now) (hlater : now ≤ later) :
    (b.refill now).refill later = b.refill later := by
  have hrate : 0 < b.rate := pos_of_mul_pos_left (hb.rate_mul_interval ▸ one_pos) hb.interval_pos.le
  have hcomes : 0 ≤ (later - now) * b.rate := mul_nonneg (sub_nonneg.mpr hlater) hrate.le
  have htokens : ((b.refill now).refill later).tokens = (b.refill later).tokens := by
    have hsecond : ((b.refill now).refill later).tokens =
        min ((b.refill now).tokens + (later - now) * b.rate) b.capacity := tokens_refill hlater
    have hsplit : b.tokens + (later - b.refilled) * b.rate =
        b.tokens + (now - b.refilled) * b.rate + (later - now) * b.rate := by ring
    rw [hsecond, tokens_refill hnow, tokens_refill (hnow.trans hlater), hsplit]
    rcases le_total (b.tokens + (now - b.refilled) * b.rate) b.capacity with hless | hfull
    · rw [min_eq_left hless]
    · rw [min_eq_right hfull, min_eq_right (le_add_of_nonneg_right hcomes),
        min_eq_right (hfull.trans (le_add_of_nonneg_right hcomes))]
  calc (b.refill now).refill later
      = { b with tokens := ((b.refill now).refill later).tokens, refilled := later } := rfl
    _ = b.refill later := by rw [htokens]; rfl

theorem Sound.request_refill (hb : b.Sound) (hnow : b.refilled ≤ now) (hlater : now ≤ later)
    (henabled : b.enabled = true) : (b.refill now).request later = b.request later := by
  rw [request_of_enabled henabled, request_of_enabled (b := b.refill now) henabled,
    hb.refill_refill hnow hlater]
  rfl

end Exact
end Bucket

namespace SharedBucket

section Locked

variable {α τ : Type} [Metering α τ] [LE τ] [DecidableLE τ] {s s' : SharedBucket α τ}

/-- Nothing has happened to the bucket, nor to who holds it. -/
structure Untouched (s s' : SharedBucket α τ) : Prop where
  bucket : s'.bucket = s.bucket
  passed : s'.passed = s.passed
  sleeper : s'.sleeper = s.sleeper

theorem untouched_of_step (hlocked : s.locked = true) {action : Action τ} (hwake : action ≠ .wake)
    (hgiveUp : action ≠ .giveUp) (hstep : s.step? action = some s') : Untouched s s' := by
  cases action with
  | tick instant =>
    obtain ⟨-, ⟨⟩⟩ := Option.ite_none_right_eq_some.mp hstep
    exact ⟨rfl, rfl, rfl⟩
  | ask caller =>
    cases hstep
    exact ⟨rfl, rfl, rfl⟩
  | enter caller => simp [step?, hlocked] at hstep
  | wake => exact absurd rfl hwake
  | leave caller =>
    obtain ⟨-, ⟨⟩⟩ := Option.ite_none_right_eq_some.mp hstep
    exact ⟨rfl, rfl, rfl⟩
  | giveUp => exact absurd rfl hgiveUp
  | setEnabled enabled => simp [step?, hlocked] at hstep
  | configure capacity period =>
    cases hconfigure : s.bucket.configure capacity period s.now with
    | error e =>
      rw [step?, hconfigure] at hstep
      cases hstep
      exact ⟨rfl, rfl, rfl⟩
    | ok bucket => simp [step?, hconfigure, hlocked] at hstep
  | readStats => simp [step?, hlocked] at hstep

theorem untouched_of_run (hlocked : s.locked = true) {actions : List (Action τ)}
    (hactions : .wake ∉ actions ∧ .giveUp ∉ actions) (hrun : s.run? actions = some s') :
    Untouched s s' := by
  induction actions generalizing s with
  | nil =>
    cases hrun
    exact ⟨rfl, rfl, rfl⟩
  | cons action actions ih =>
    rw [List.mem_cons, List.mem_cons, not_or, not_or] at hactions
    obtain ⟨⟨hwake, hnoWake⟩, ⟨hgiveUp, hnoGiveUp⟩⟩ := hactions
    rw [run?, List.foldlM_cons] at hrun
    obtain ⟨s₁, hstep, hrest⟩ := Option.bind_eq_some_iff.mp hrun
    have hfirst := untouched_of_step hlocked (Ne.symm hwake) (Ne.symm hgiveUp) hstep
    have hlocked₁ : s₁.locked = true := by rw [locked, hfirst.sleeper]; exact hlocked
    have hlater := ih hlocked₁ ⟨hnoWake, hnoGiveUp⟩ hrest
    exact ⟨hlater.bucket.trans hfirst.bucket, hlater.passed.trans hfirst.passed,
      hlater.sleeper.trans hfirst.sleeper⟩

theorem enter_sleeping {caller : Nat} (hstep : s.step? (.enter caller) = some s')
    (hsleeps : s'.locked = true) :
    s.bucket.enabled = true ∧ s'.bucket = s.bucket.refill s.now ∧ s'.passed = s.passed := by
  obtain ⟨hturn, ⟨⟩⟩ := Option.ite_none_right_eq_some.mp hstep
  have hfree : s.sleeper = none := by
    rw [Bool.and_eq_true] at hturn
    simpa [locked] using hturn.1
  unfold attend at hsleeps ⊢
  dsimp only at hsleeps ⊢
  rcases hrequest : s.bucket.request s.now with ⟨bucket, _ | wait⟩
  · rw [hrequest] at hsleeps
    simp [locked, hfree] at hsleeps
  · obtain ⟨henabled, hbucket⟩ := Bucket.request_eq_after hrequest
    exact ⟨henabled, hbucket, rfl⟩

/-- A call gets the lock, has to sleep, and is given up in its wait; others may act meanwhile. -/
def GivesUp (s : SharedBucket α τ) (caller : Nat) (s' : SharedBucket α τ) : Prop :=
  ∃ s₁ meanwhile, s.step? (.enter caller) = some s₁ ∧ s₁.locked = true ∧
    (.wake ∉ meanwhile ∧ .giveUp ∉ meanwhile) ∧ s₁.run? (meanwhile ++ [.giveUp]) = some s'

theorem GivesUp.bucket_eq {caller : Nat} (h : s.GivesUp caller s') :
    s.bucket.enabled = true ∧ s'.bucket = s.bucket.refill s.now ∧ s'.passed = s.passed := by
  obtain ⟨s₁, meanwhile, henter, hsleeps, hmeanwhile, hrun⟩ := h
  obtain ⟨henabled, hbucket, hpassed⟩ := enter_sleeping henter hsleeps
  rw [run?, List.foldlM_append] at hrun
  obtain ⟨s₂, hslept, hgiveUp⟩ := Option.bind_eq_some_iff.mp hrun
  obtain ⟨s₃, hstep, ⟨⟩⟩ := Option.bind_eq_some_iff.mp hgiveUp
  obtain ⟨-, ⟨⟩⟩ := Option.ite_none_right_eq_some.mp hstep
  have hslept' := untouched_of_run hsleeps hmeanwhile hslept
  exact ⟨henabled, hslept'.bucket.trans hbucket, hslept'.passed.trans hpassed⟩

end Locked

/-- Later requests to an exact bucket are answered as if the call that was given up had never asked.
-/
theorem Valid.request_of_givesUp {s s' : SharedBucket Rat Rat} (hs : s.Valid) {caller : Nat}
    (h : s.GivesUp caller s') {later : Rat} (hlater : s.now ≤ later) :
    s'.bucket.request later = s.bucket.request later := by
  obtain ⟨henabled, hbucket, -⟩ := h.bucket_eq
  rw [hbucket]
  exact hs.sound.request_refill hs.refilled_le hlater henabled

end SharedBucket
end AnswerStream
