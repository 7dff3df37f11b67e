import AnswerStream.Proofs.Retry.Backoff

/-!
What follows a failed attempt, for all settings that can be stored. None of the numbers that a
decision goes through is too large for the word that holds it, and the delays that draws can give
lie between the delay of the attempt and one base delay more.
-/

namespace AnswerStream

/-- Settings as they are stored: the attempts in 32 bits, the delays in 64. -/
structure RetryConfig.Stored (c : RetryConfig) : Prop where
  maxAttempts_lt : c.maxAttempts < word32
  baseDelayMs_lt : c.baseDelayMs < word64
  maxDelayMs_lt : c.maxDelayMs < word64

/-- A number, if it is below the size of the word that is to hold it. -/
def held? (size n : Nat) : Option Nat := if n < size then some n else none

theorem held?_of_lt {size n : Nat} (h : n < size) : held? size n = some n := if_pos h

namespace Duration

theorem wholeMillis_ofMillis (n : Nat) : (ofMillis n).wholeMillis = n :=
  Nat.mul_div_cancel n (by decide)

theorem ofMillis_add (m n : Nat) : ofMillis m + ofMillis n = ofMillis (m + n) := by
  rw [eq_iff, nanos_add]
  exact (Nat.add_mul m n perMilli).symm

theorem nanos_ofMillis_lt {n : Nat} (h : n < 2 * word64) : (ofMillis n).nanos < limit := by
  have hscale : 2 * word64 * perMilli ≤ limit := by decide +kernel
  exact lt_of_lt_of_le (Nat.mul_lt_mul_of_pos_right h (by decide)) hscale

end Duration

namespace RetryPolicy

/-- The delay after an attempt, with every number held in a word. What has been doubled may be too
large for its own, and the cap then stands for it. -/
def backoff? (p : RetryPolicy) (attempt : Nat) : Option Duration := do
  let factor ← held? word32 (2 ^ min (attempt - 1) maxDoublings)
  match held? Duration.limit (p.baseDelay.nanos * factor) with
  | some doubled => some (min ⟨doubled⟩ p.maxDelay)
  | none => some p.maxDelay

/-- The random part, with the base delay held in a word. Nothing is drawn where there is nothing to
draw from. -/
def jitter? (p : RetryPolicy) (draw : Nat) : Option Duration := do
  let range ← held? word64 p.baseDelay.wholeMillis
  if range = 0 then some .zero else some (.ofMillis (draw % range))

/-- What follows the failure of an attempt, or none where a number is too large for its word. -/
def decide? (p : RetryPolicy) (e : Failure) (attempt draw : Nat) : Option RetryDecision :=
  if e.errorClass = .transient ∧ attempt < p.maxAttempts then do
    let backoff ← p.backoff? attempt
    let jitter ← p.jitter? draw
    let nanos ← held? Duration.limit (backoff.nanos + jitter.nanos)
    some (.again ⟨nanos⟩)
  else some .stop

variable {p : RetryPolicy} {c : RetryConfig}

theorem backoff?_eq (p : RetryPolicy) (attempt : Nat) :
    p.backoff? attempt = some (p.backoff attempt) := by
  have hfactor : 2 ^ min (attempt - 1) maxDoublings < word32 :=
    Nat.pow_lt_pow_right (by decide) (Nat.lt_succ_of_le (Nat.min_le_right _ _))
  rw [backoff?, held?_of_lt hfactor, backoff]
  simp only [Nat.pow_eq, Option.bind_eq_bind, Option.bind_some]
  by_cases hlimit : p.baseDelay.nanos * 2 ^ min (attempt - 1) maxDoublings < Duration.limit
  · rw [held?_of_lt hlimit, if_pos hlimit]
  · rw [held?, if_neg hlimit, if_neg hlimit]

theorem jitter?_eq (h : p.baseDelay.wholeMillis < word64) (draw : Nat) :
    p.jitter? draw = some (p.jitter draw) := by
  have hrange : p.jitterRange = p.baseDelay.wholeMillis := Nat.mod_eq_of_lt h
  rw [jitter?, held?_of_lt h, jitter, hrange]
  simp only [Option.bind_eq_bind, Option.bind_some]
  split
  · next hzero => simp [hzero, Nat.mod_one, Duration.ofMillis, Duration.zero]
  · next hpos => rw [Nat.max_eq_left (Nat.one_le_iff_ne_zero.mpr hpos)]

theorem decide?_eq (h : p.baseDelay.wholeMillis < word64) (e : Failure) {attempt draw : Nat}
    (hsum : (p.backoff attempt + p.jitter draw).nanos < Duration.limit) :
    p.decide? e attempt draw = some (p.decide e attempt draw) := by
  have hheld : held? Duration.limit ((p.backoff attempt).nanos + (p.jitter draw).nanos) =
      some (p.backoff attempt + p.jitter draw).nanos := held?_of_lt hsum
  rw [decide?, decide]
  split
  · -- one bind at a time: where simp closes them by reduction, the kernel unfolds the limit
    rw [backoff?_eq, jitter?_eq h, Option.bind_eq_bind, Option.bind_some, Option.bind_eq_bind,
      Option.bind_some, hheld]
    rfl
  · rfl

theorem backoff_le (p : RetryPolicy) (attempt : Nat) : p.backoff attempt ≤ p.maxDelay := by
  rw [backoff]
  split
  · exact Nat.min_le_right _ _
  · exact Nat.le_refl _

theorem jitter_le (p : RetryPolicy) (draw : Nat) : p.jitter draw ≤ p.baseDelay := by
  have hrange : p.jitterRange ≤ p.baseDelay.wholeMillis := Nat.mod_le _ _
  have hdraw : draw % max p.jitterRange 1 < max p.jitterRange 1 := Nat.mod_lt _ (by omega)
  have hmillis : draw % max p.jitterRange 1 ≤ p.baseDelay.wholeMillis := by omega
  exact (Nat.mul_le_mul_right _ hmillis).trans (Nat.div_mul_le_self _ _)

/-- The base delay fits into the word of its milliseconds, and the longest delay with all of its
random part is a duration. -/
structure InWords (p : RetryPolicy) : Prop where
  baseDelay_lt : p.baseDelay.wholeMillis < word64
  delay_lt : (p.maxDelay + p.baseDelay).nanos < Duration.limit

theorem InWords.decide?_eq (h : p.InWords) (e : Failure) (attempt draw : Nat) :
    p.decide? e attempt draw = some (p.decide e attempt draw) :=
  RetryPolicy.decide?_eq h.baseDelay_lt e
    ((Nat.add_le_add (p.backoff_le attempt) (p.jitter_le draw)).trans_lt h.delay_lt)

theorem inWords_ofConfig (h : c.Stored) : (ofConfig c).InWords where
  baseDelay_lt := by
    change (Duration.ofMillis c.baseDelayMs).wholeMillis < word64
    rw [Duration.wholeMillis_ofMillis]
    exact h.baseDelayMs_lt
  delay_lt := by
    change (Duration.ofMillis c.maxDelayMs + .ofMillis c.baseDelayMs).nanos < Duration.limit
    have hbase := h.baseDelayMs_lt
    have hmax := h.maxDelayMs_lt
    rw [Duration.ofMillis_add]
    exact Duration.nanos_ofMillis_lt (by omega)

/-- The draws give just the whole milliseconds below the base delay, and nothing where there is no
base delay. -/
theorem exists_jitter_eq_iff (h : c.Stored) {span : Duration} :
    (∃ draw, (ofConfig c).jitter draw = span) ↔
      ∃ extra < max c.baseDelayMs 1, span = .ofMillis extra := by
  have hrange : (ofConfig c).jitterRange = c.baseDelayMs := by
    rw [jitterRange, ofConfig, of, Duration.wholeMillis_ofMillis]
    exact Nat.mod_eq_of_lt h.baseDelayMs_lt
  simp only [jitter, hrange]
  constructor
  · rintro ⟨draw, rfl⟩
    exact ⟨_, Nat.mod_lt _ (by omega), rfl⟩
  · rintro ⟨extra, hextra, rfl⟩
    exact ⟨extra, by rw [Nat.mod_eq_of_lt hextra]⟩

theorem maxDelay_ofConfig_lt (h : c.Stored) : (ofConfig c).maxDelay.nanos < Duration.limit := by
  refine Duration.nanos_ofMillis_lt ?_
  have hmax := h.maxDelayMs_lt
  omega

theorem backoff_mono (h : c.Stored) {m n : Nat} (hmn : m ≤ n) :
    (ofConfig c).backoff m ≤ (ofConfig c).backoff n := by
  rw [backoff_eq_doubling_min (maxDelay_ofConfig_lt h),
    backoff_eq_doubling_min (maxDelay_ofConfig_lt h)]
  exact doubling_mono (min_le_min_right _ hmn)

theorem decide_eq_again_iff {e : Failure} {attempt draw : Nat} {delay : Duration} :
    p.decide e attempt draw = .again delay ↔
      (e.errorClass = .transient ∧ attempt < p.maxAttempts) ∧
        delay = p.backoff attempt + p.jitter draw := by
  rw [decide]
  split
  · next hagain => simp [hagain, eq_comm]
  · next hstop => simp [hstop]

/-- Settings that can be stored lead to decisions within all words. An attempt is followed by
another just if its failure is transient and it is not the last, and what is not followed by another
is not waited for. The delay is at least that of the attempt, which grows from attempt to attempt up
to the cap, and the random part is less than the base delay. -/
theorem decide_of_stored (h : c.Stored) (e : Failure) (attempt draw : Nat) :
    let p := ofConfig c
    let base := Duration.ofMillis c.baseDelayMs
    let cap := Duration.ofMillis c.maxDelayMs
    p.decide? e attempt draw = some (p.decide e attempt draw) ∧
      ((∃ delay, p.decide e attempt draw = .again delay) ↔
        e.errorClass = .transient ∧ attempt < max c.maxAttempts 1) ∧
      ((∀ delay, p.decide e attempt draw ≠ .again delay) →
       (p.decide e attempt draw).delay = .zero) ∧
      (∀ delay, p.decide e attempt draw = .again delay →
        p.backoff attempt ≤ delay ∧ delay ≤ cap + base ∧
          if base = .zero then delay = p.backoff attempt else delay < p.backoff attempt + base) ∧
      (∀ later, attempt ≤ later → p.backoff attempt ≤ p.backoff later) ∧
      p.backoff attempt ≤ cap := by
  intro p base cap
  have hcap : p.backoff attempt ≤ cap := p.backoff_le attempt
  obtain ⟨extra, hextra, hjitter⟩ := (exists_jitter_eq_iff h).mp ⟨draw, rfl⟩
  refine ⟨?words, ?again, ?stop, ?delay, fun later => backoff_mono h, hcap⟩
  case words => exact (inWords_ofConfig h).decide?_eq e attempt draw
  case again =>
    simp only [decide_eq_again_iff, exists_and_left, exists_eq, and_true]
    rfl
  case stop =>
    intro hstop
    cases hdecision : p.decide e attempt draw with
    | stop => rfl
    | again delay => exact absurd hdecision (hstop delay)
  case delay =>
    intro delay hdelay
    obtain ⟨-, rfl⟩ := decide_eq_again_iff.mp hdelay
    rw [hjitter]
    simp only [base, cap, Duration.le_iff, Duration.lt_iff, Duration.eq_iff, Duration.nanos_add,
      Duration.ofMillis, Duration.perMilli, Duration.zero] at hcap ⊢
    refine ⟨by omega, by omega, ?_⟩
    split <;> omega

/-- The largest settings and the largest draw: the doubling is too large for a duration, so that the
cap and the random part make up the delay. -/
theorem decide_of_stored_largest :
    let c : RetryConfig := ⟨word32 - 1, word64 - 1, word64 - 1⟩
    let delay := Duration.ofMillis (word64 - 1 + (word64 - 2))
    (ofConfig c).decide? .incompleteStream 40 (word64 - 2) = some (.again delay) ∧
      delay < (ofConfig c).backoff 40 + .ofMillis c.baseDelayMs ∧
      ((ofConfig c).decide .incompleteStream (word32 - 1) 0).delay = .zero := by
  intro c delay
  have hstored : c.Stored := ⟨by decide, by decide, by decide⟩
  have hdelay : (ofConfig c).decide .incompleteStream 40 (word64 - 2) = .again delay := by
    decide +kernel
  obtain ⟨hwords, -, -, hbounds, -⟩ := decide_of_stored hstored .incompleteStream 40 (word64 - 2)
  obtain ⟨-, hagain, hstop, -⟩ := decide_of_stored hstored .incompleteStream (word32 - 1) 0
  obtain ⟨-, -, hlt⟩ := hbounds delay hdelay
  rw [if_neg (by decide)] at hlt
  refine ⟨hwords.trans (congrArg some hdelay), hlt, hstop fun later hlater => ?_⟩
  exact absurd (hagain.mp ⟨later, hlater⟩).2 (by decide)

end RetryPolicy
end AnswerStream
