import AnswerStream.Limiter.Bucket
import AnswerStream.Proofs.Checking
import Mathlib.Algebra.Order.Field.Rat
import Mathlib.Tactic.FieldSimp
import Mathlib.Tactic.Linarith
import Mathlib.Tactic.Positivity
import Mathlib.Tactic.Ring

/-!
The exact token bucket, which counts in rationals. The tokens that a bucket lacks and the instant of
its last refill come down to one instant, at which it will be full if nobody takes a token. A refill
does not move it; every token taken moves it on by the time in which one token comes.
-/

namespace AnswerStream.Bucket

/-- Settings that have been checked, and no more tokens than the bucket holds. -/
structure Sound (b : Bucket Rat Rat) : Prop where
  one_le_capacity : 1 ≤ b.capacity
  period_pos : 0 < b.period
  tokens_nonneg : 0 ≤ b.tokens
  tokens_le : b.tokens ≤ b.capacity

/-- The time in which one token comes. -/
def interval (b : Bucket Rat Rat) : Rat := b.period / b.capacity

/-- The instant at which the bucket will be full, if nobody takes a token. -/
def fullAt (b : Bucket Rat Rat) : Rat := b.refilled + (b.capacity - b.tokens) * b.interval

/-- The instant at which it lacks no more than all tokens but one. -/
def readyAt (b : Bucket Rat Rat) : Rat := b.fullAt - (b.capacity - 1) * b.interval

variable {b : Bucket Rat Rat} {now : Rat}

theorem check_eq_ok_iff {capacity : Nat} {period : Rat} {u : Unit} :
    check Rat capacity period = .ok u ↔ 1 ≤ capacity ∧ 0 < period := by
  have hpositive : Metering.positive Rat period = decide (0 < period) := rfl
  simp only [check, bind_eq_ok_iff, ClientConfig.require_eq_ok_iff, exists_const, hpositive,
    bne_iff_ne, decide_eq_true_iff, Nat.one_le_iff_ne_zero]

theorem of_eq_ok_iff {enabled : Bool} {capacity : Nat} {period : Rat} :
    Bucket.of enabled capacity period now = .ok b ↔
      1 ≤ capacity ∧ 0 < period ∧ b = full enabled capacity period now := by
  simp only [Bucket.of, bind_eq_ok_iff, exists_const, check_eq_ok_iff, pure_eq_ok_iff, and_assoc]

theorem sound_full {enabled : Bool} {capacity : Nat} {period : Rat} (hcapacity : 1 ≤ capacity)
    (hperiod : 0 < period) : (full enabled capacity period now : Bucket Rat Rat).Sound where
  one_le_capacity := by
    change (1 : Rat) ≤ capacity
    exact_mod_cast hcapacity
  period_pos := hperiod
  tokens_nonneg := by
    change (0 : Rat) ≤ capacity
    positivity
  tokens_le := le_refl _

theorem fullAt_full (enabled : Bool) (capacity : Nat) (period now : Rat) :
    (full enabled capacity period now : Bucket Rat Rat).fullAt = now := by
  simp [fullAt, full]

namespace Sound

theorem interval_pos (hb : b.Sound) : 0 < b.interval :=
  div_pos hb.period_pos (zero_lt_one.trans_le hb.one_le_capacity)

theorem fullAt_le (hb : b.Sound) : b.fullAt ≤ b.refilled + b.capacity * b.interval := by
  have hholds := mul_nonneg hb.tokens_nonneg hb.interval_pos.le
  rw [fullAt, sub_mul]
  linarith

theorem others_nonneg (hb : b.Sound) : 0 ≤ (b.capacity - 1) * b.interval :=
  mul_nonneg (sub_nonneg.mpr hb.one_le_capacity) hb.interval_pos.le

theorem readyAt_le_fullAt (hb : b.Sound) : b.readyAt ≤ b.fullAt :=
  sub_le_self _ hb.others_nonneg

theorem one_le_tokens_iff (hb : b.Sound) : 1 ≤ b.tokens ↔ b.readyAt ≤ b.refilled := by
  rw [readyAt, sub_le_iff_le_add, fullAt, add_le_add_iff_left, mul_le_mul_iff_left₀ hb.interval_pos,
    sub_le_sub_iff_left]

end Sound

theorem tokens_refill (hnow : b.refilled ≤ now) :
    (b.refill now).tokens = min (b.tokens + (now - b.refilled) * b.rate) b.capacity := by
  have helapsed : Metering.since Rat now b.refilled = now - b.refilled := by
    change (if now ≤ b.refilled then 0 else now - b.refilled) = _
    split_ifs with hle
    · linarith
    · rfl
  rw [refill, helapsed, min_def]
  rfl

namespace Sound

theorem rate_mul_interval (hb : b.Sound) : b.rate * b.interval = 1 := by
  have hcapacity : b.capacity ≠ 0 := (zero_lt_one.trans_le hb.one_le_capacity).ne'
  change b.capacity / b.period * (b.period / b.capacity) = 1
  field_simp [hb.period_pos.ne']

theorem refill (hb : b.Sound) (hnow : b.refilled ≤ now) : (b.refill now).Sound where
  one_le_capacity := hb.one_le_capacity
  period_pos := hb.period_pos
  tokens_nonneg := by
    have hrate : 0 < b.rate :=
      pos_of_mul_pos_left (hb.rate_mul_interval ▸ one_pos) hb.interval_pos.le
    have hcomes := mul_nonneg (sub_nonneg.mpr hnow) hrate.le
    rw [tokens_refill hnow]
    exact le_min (add_nonneg hb.tokens_nonneg hcomes) (hb.tokens_nonneg.trans hb.tokens_le)
  tokens_le := by
    rw [tokens_refill hnow]
    exact min_le_right _ _

/-- A refill does not change when the bucket is full, unless it is full already. -/
theorem fullAt_refill (hb : b.Sound) (hnow : b.refilled ≤ now) :
    (b.refill now).fullAt = max now b.fullAt := by
  have hinterval := hb.interval_pos
  have hsame : (b.tokens + (now - b.refilled) * b.rate) * b.interval =
      b.tokens * b.interval + (now - b.refilled) := by
    rw [add_mul, mul_assoc, hb.rate_mul_interval, mul_one]
  change now + (b.capacity - (b.refill now).tokens) * b.interval = max now b.fullAt
  rw [tokens_refill hnow, sub_mul, min_mul_of_nonneg _ _ hinterval.le, hsame, fullAt, sub_mul]
  rcases le_total (b.tokens * b.interval + (now - b.refilled)) (b.capacity * b.interval) with h | h
  · rw [min_eq_left h, max_eq_right (by linarith)]
    ring
  · rw [min_eq_right h, max_eq_left (by linarith)]
    ring

end Sound

/-- The bucket without the token that it has given. -/
def taken (b : Bucket Rat Rat) : Bucket Rat Rat := count { b with tokens := b.tokens - 1 } 0

theorem request_of_disabled (h : b.enabled = false) : b.request now = (b, .now) := by
  simp [request, h]

theorem request_of_enabled (h : b.enabled = true) :
    b.request now =
      if 1 ≤ (b.refill now).tokens then ((b.refill now).taken, .now)
      else (b.refill now, .after ((1 - (b.refill now).tokens) / b.rate)) := by
  have hwhole : Metering.whole (b.refill now).tokens = decide (1 ≤ (b.refill now).tokens) := rfl
  simp only [request, h, if_true, hwhole, decide_eq_true_eq]
  split_ifs
  · rfl
  · rfl

namespace Sound

theorem taken (hb : b.Sound) (htoken : 1 ≤ b.tokens) : b.taken.Sound where
  one_le_capacity := hb.one_le_capacity
  period_pos := hb.period_pos
  tokens_nonneg := sub_nonneg.mpr htoken
  tokens_le := (sub_le_self _ zero_le_one).trans hb.tokens_le

theorem complete (hb : b.Sound) (wait : Rat) : (b.complete now wait).Sound where
  one_le_capacity := hb.one_le_capacity
  period_pos := hb.period_pos
  tokens_nonneg := le_refl _
  tokens_le := zero_le_one.trans hb.one_le_capacity

theorem one_le_tokens_refill_iff (hb : b.Sound) (hnow : b.refilled ≤ now) :
    1 ≤ (b.refill now).tokens ↔ b.readyAt ≤ now := by
  have hready : (b.refill now).readyAt = max now b.fullAt - (b.capacity - 1) * b.interval := by
    rw [readyAt, hb.fullAt_refill hnow]
    rfl
  rw [(hb.refill hnow).one_le_tokens_iff, hready]
  change _ ≤ now ↔ _
  rw [sub_le_iff_le_add, max_le_iff, and_iff_right (le_add_of_nonneg_right hb.others_nonneg),
    readyAt, sub_le_iff_le_add]

theorem request_of_ready (hb : b.Sound) (henabled : b.enabled = true) (hnow : b.refilled ≤ now)
    (hready : b.readyAt ≤ now) : b.request now = ((b.refill now).taken, .now) := by
  rw [request_of_enabled henabled, if_pos ((hb.one_le_tokens_refill_iff hnow).mpr hready)]

theorem request_of_not_ready (hb : b.Sound) (henabled : b.enabled = true) (hnow : b.refilled ≤ now)
    (hlack : now < b.readyAt) : b.request now = (b.refill now, .after (b.readyAt - now)) := by
  have hlater : now ≤ b.fullAt := hlack.le.trans hb.readyAt_le_fullAt
  have hfull : now + (b.capacity - (b.refill now).tokens) * b.interval = b.fullAt := by
    have hrefill := hb.fullAt_refill hnow
    rwa [max_eq_right hlater] at hrefill
  have hrate : b.rate⁻¹ = b.interval := inv_eq_of_mul_eq_one_right hb.rate_mul_interval
  rw [request_of_enabled henabled,
    if_neg fun h => hlack.not_ge ((hb.one_le_tokens_refill_iff hnow).mp h), div_eq_mul_inv, hrate,
    readyAt, ← hfull]
  ring_nf

end Sound

theorem fullAt_taken (b : Bucket Rat Rat) : b.taken.fullAt = b.fullAt + b.interval := by
  change b.refilled + (b.capacity - (b.tokens - 1)) * b.interval = b.fullAt + b.interval
  rw [fullAt]
  ring

theorem fullAt_complete (b : Bucket Rat Rat) (later wait : Rat) :
    (b.complete later wait).fullAt = later + b.capacity * b.interval := by
  change later + (b.capacity - 0) * b.interval = _
  rw [sub_zero]

end AnswerStream.Bucket
