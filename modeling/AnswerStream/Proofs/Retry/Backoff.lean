import AnswerStream.Retry
import Mathlib.Algebra.Order.Ring.Nat

/-!
How long the delays between attempts are. The base delay doubles from attempt to attempt under a
cap, but the doublings stop: behind the last of them the delay stays what it is. Where the cap lies
beyond the last doubling, no delay comes up to the cap, and the later attempts wait less long than
doubling on would make them wait.
-/

namespace AnswerStream

theorem Duration.eq_iff {a b : Duration} : a = b ↔ a.nanos = b.nanos := by
  rw [Duration.mk.injEq]

namespace RetryPolicy

variable {p : RetryPolicy}

/-- The base delay, doubled before every further attempt, and never more than the cap. -/
def doubling (p : RetryPolicy) (attempt : Nat) : Duration :=
  min ⟨p.baseDelay.nanos * 2 ^ (attempt - 1)⟩ p.maxDelay

/-- The attempt that the last doubling is made for. -/
def lastDoubled : Nat := maxDoublings + 1

theorem doubling_mono {m n : Nat} (h : m ≤ n) : p.doubling m ≤ p.doubling n := by
  have hpow : 2 ^ (m - 1) ≤ 2 ^ (n - 1) := Nat.pow_le_pow_right (by omega) (by omega)
  exact min_le_min_right _ (Nat.mul_le_mul_left _ hpow)

/-- The doublings that a duration could not hold are above the cap, so only their number matters. -/
theorem backoff_eq_doubling_min (hmax : p.maxDelay.nanos < Duration.limit) (n : Nat) :
    p.backoff n = p.doubling (min n lastDoubled) := by
  have hexponent : min n lastDoubled - 1 = min (n - 1) maxDoublings := by
    rw [lastDoubled]
    omega
  rw [Duration.eq_iff, backoff, doubling, hexponent]
  simp only [Nat.pow_eq]
  split
  · rfl
  · next hlimit =>
    have hcap : p.maxDelay.nanos ≤ p.baseDelay.nanos * 2 ^ min (n - 1) maxDoublings := by omega
    exact (Nat.min_eq_right hcap).symm

/-- Doubling on makes a difference just if there is something to double and room for it under the
cap. -/
theorem doubling_lastDoubled_eq_iff {n : Nat} (hn : lastDoubled < n) :
    p.doubling lastDoubled = p.doubling n ↔
      p.baseDelay = .zero ∨ p.maxDelay.nanos ≤ p.baseDelay.nanos * 2 ^ maxDoublings := by
  have hpow : 2 ^ maxDoublings * 2 ≤ 2 ^ (n - 1) := by
    rw [← pow_succ]
    exact Nat.pow_le_pow_right (by omega) (Nat.le_sub_one_of_lt hn)
  have hdouble := Nat.mul_le_mul_left p.baseDelay.nanos hpow
  have hzero : p.baseDelay.nanos = 0 ↔ p.baseDelay.nanos * 2 ^ maxDoublings = 0 := by simp
  have hend : p.baseDelay.nanos = 0 ↔ p.baseDelay.nanos * 2 ^ (n - 1) = 0 := by simp
  have hfirst : lastDoubled - 1 = maxDoublings := Nat.add_sub_cancel _ _
  simp only [Duration.eq_iff, doubling, hfirst, Duration.nanos_min, Duration.zero]
  rw [← Nat.mul_assoc] at hdouble
  generalize p.baseDelay.nanos * 2 ^ maxDoublings = last at *
  generalize p.baseDelay.nanos * 2 ^ (n - 1) = later at *
  omega

/-- The delay is that of the last doubling for every attempt behind it, and so it is never longer
than doubling on would make it. It is just as long in front of that attempt, and behind it if there
is no delay to double or the last doubling has reached the cap. -/
theorem backoff_eq_doubling_iff (hmax : p.maxDelay.nanos < Duration.limit) (n : Nat) :
    p.backoff n = p.doubling (min n lastDoubled) ∧ p.backoff n ≤ p.doubling n ∧
      (p.backoff n = p.doubling n ↔
        n ≤ lastDoubled ∨ p.baseDelay = .zero ∨
          p.maxDelay.nanos ≤ p.baseDelay.nanos * 2 ^ maxDoublings) := by
  rw [backoff_eq_doubling_min hmax]
  refine ⟨rfl, doubling_mono (Nat.min_le_left _ _), ?_⟩
  rcases le_or_gt n lastDoubled with hn | hn
  · rw [Nat.min_eq_left hn]
    exact iff_of_true rfl (.inl hn)
  · rw [Nat.min_eq_right hn.le, doubling_lastDoubled_eq_iff hn, or_iff_right hn.not_ge]

/-- Attempts one millisecond apart that could double for another two attempts. -/
def patient : RetryPolicy := of 40 (.ofMillis 1) (.ofMillis (2 ^ 33))

theorem maxDelay_patient_lt : patient.maxDelay.nanos < Duration.limit := by decide

/-- The last doubling, and the attempt behind it. -/
theorem backoff_eq_doubling_iff_patient :
    patient.backoff 32 = patient.doubling 32 ∧ patient.backoff 33 = .ofMillis (2 ^ 31) ∧
      patient.backoff 33 ≠ patient.doubling 33 := by
  obtain ⟨-, -, hlast⟩ := backoff_eq_doubling_iff maxDelay_patient_lt 32
  obtain ⟨hnext, -, hlater⟩ := backoff_eq_doubling_iff maxDelay_patient_lt 33
  refine ⟨hlast.mpr (.inl (by decide)), hnext.trans (by decide +kernel), fun heq => ?_⟩
  exact absurd (hlater.mp heq) (by decide)

/-- A delay below the cap that has stopped to grow. -/
theorem not_always_doubling :
    ¬ ∀ (p : RetryPolicy) n, p.baseDelay.nanos < Duration.limit →
      p.maxDelay.nanos < Duration.limit →
      1 ≤ n → p.backoff n = p.doubling n := by
  intro h
  have hdoubled := h patient 33 (by decide) maxDelay_patient_lt (by decide)
  exact absurd hdoubled (by decide)

end RetryPolicy
end AnswerStream
