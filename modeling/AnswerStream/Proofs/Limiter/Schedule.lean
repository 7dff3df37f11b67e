import AnswerStream.Proofs.Limiter.Exact

/-!
The bucket as virtual scheduling. A schedule keeps one instant, the theoretical arrival time, in
place of tokens and a last refill: a call may come before it by the time in which all tokens but one
come, and moves it on by the time of one token.
-/

namespace AnswerStream.Bucket

/-- Admits calls that arrive one after the other; each is served when the one before it has been.
What comes of a call is the instant at which it is admitted and its wait. -/
def serve (b : Bucket Rat Rat) (free : Rat) : List Rat → List (Rat × Rat)
  | [] => []
  | arrival :: arrivals =>
    let (b, admitted, wait) := b.acquire (max arrival free)
    (admitted, wait) :: serve b admitted arrivals

/-- What comes of the calls by virtual scheduling. -/
def virtualSchedule (interval capacity : Rat) (free tat : Rat) : List Rat → List (Rat × Rat)
  | [] => []
  | arrival :: arrivals =>
    let admitted := max (max arrival free) (tat - (capacity - 1) * interval)
    (admitted, admitted - max arrival free) ::
      virtualSchedule interval capacity admitted (max tat admitted + interval) arrivals

variable {b : Bucket Rat Rat} {now free : Rat}

/-- A call is admitted when the bucket is ready, whether it finds a token or has to wait for one,
and the bucket is full one interval later for it. -/
theorem Sound.acquire (hb : b.Sound) (henabled : b.enabled = true) (hnow : b.refilled ≤ now) :
    ∃ b', b.acquire now = (b', max now b.readyAt, max now b.readyAt - now) ∧
      b'.Sound ∧ b'.enabled = true ∧ b'.capacity = b.capacity ∧ b'.period = b.period ∧
      b'.refilled = max now b.readyAt ∧
      b'.fullAt = max b.fullAt (max now b.readyAt) + b.interval := by
  have hrefill := hb.refill hnow
  rcases le_or_gt b.readyAt now with hready | hlack
  · have hwhole := (hb.one_le_tokens_refill_iff hnow).mpr hready
    rw [max_eq_left hready, sub_self]
    refine ⟨(b.refill now).taken, ?_, hrefill.taken hwhole, henabled, rfl, rfl, rfl, ?_⟩
    · rw [Bucket.acquire, hb.request_of_ready henabled hnow hready]
      rfl
    · rw [fullAt_taken, hb.fullAt_refill hnow, max_comm]
      rfl
  · have hlater : now + (b.readyAt - now) = b.readyAt := add_sub_cancel now b.readyAt
    rw [max_eq_right hlack.le, max_eq_left hb.readyAt_le_fullAt]
    refine ⟨(b.refill now).complete b.readyAt (b.readyAt - now), ?_, hrefill.complete _, henabled,
      rfl, rfl, rfl, ?_⟩
    · rw [Bucket.acquire, hb.request_of_not_ready henabled hnow hlack]
      change ((b.refill now).complete (now + _) _, now + _, _) = _
      rw [hlater]
    · rw [fullAt_complete]
      change b.readyAt + b.capacity * b.interval = _
      rw [readyAt]
      ring

/-- The theoretical arrival time is the instant at which the bucket will be full. -/
theorem Sound.serve (hb : b.Sound) (henabled : b.enabled = true) (hfree : b.refilled ≤ free)
    (arrivals : List Rat) :
    b.serve free arrivals = virtualSchedule b.interval b.capacity free b.fullAt arrivals := by
  induction arrivals generalizing b free with
  | nil => rfl
  | cons arrival arrivals ih =>
    obtain ⟨b', hacquire, hb', henabled', hcapacity, hperiod, hrefilled, hfullAt⟩ :=
      hb.acquire henabled (hfree.trans (le_max_right arrival free))
    have hinterval : b'.interval = b.interval := by rw [interval, hcapacity, hperiod, interval]
    have hrest := ih hb' henabled' hrefilled.le
    rw [hcapacity, hinterval, hfullAt] at hrest
    rw [Bucket.serve, hacquire, virtualSchedule]
    simp only [hrest]
    rfl

section Burst

variable {interval tat : Rat} {capacity k : Nat}

theorem burst_admitted (hcapacity : 1 ≤ capacity) (hinterval : 0 < interval)
    (hfree : max now free = now + (k - capacity : ℕ) * interval)
    (htat : max tat now = now + k * interval) :
    max (max now free) (tat - (capacity - 1) * interval) =
      now + (k + 1 - capacity : ℕ) * interval := by
  rcases Nat.lt_or_ge k capacity with hburst | hbehind
  · have hfits : (k : Rat) * interval ≤ (capacity - 1) * interval := by
      have hk : (k : Rat) + 1 ≤ capacity := by exact_mod_cast hburst
      exact mul_le_mul_of_nonneg_right (by linarith) hinterval.le
    have htat' : tat ≤ now + k * interval := htat ▸ le_max_left tat now
    rw [Nat.sub_eq_zero_of_le hburst.le] at hfree
    rw [Nat.sub_eq_zero_of_le hburst, hfree]
    exact max_eq_left (by push_cast; linarith)
  · have hk : 0 < (k : Rat) * interval := by
      have hone : 0 < k := hcapacity.trans hbehind
      positivity
    have htat' : tat = now + k * interval := by
      rcases max_choice tat now with h | h
      · rw [← htat, h]
      · linarith
    rw [hfree, htat', max_eq_right, Nat.cast_sub (hbehind.trans (Nat.le_succ k))]
    · push_cast
      ring
    · rw [Nat.cast_sub hbehind]
      linarith

/-- The first `capacity` calls of a burst pass at once, and behind them one passes in every
interval. -/
theorem virtualSchedule_replicate (hcapacity : 1 ≤ capacity) (hinterval : 0 < interval)
    (hfree : max now free = now + (k - capacity : ℕ) * interval)
    (htat : max tat now = now + k * interval) (n : Nat) :
    (virtualSchedule interval capacity free tat (List.replicate n now)).map Prod.fst =
      (List.range n).map fun i => now + (k + i + 1 - capacity : ℕ) * interval := by
  induction n generalizing k free tat with
  | zero => rfl
  | succ n ih =>
    have hadmitted := burst_admitted hcapacity hinterval hfree htat
    have hnow : now ≤ now + (k + 1 - capacity : ℕ) * interval :=
      le_add_of_nonneg_right (by positivity)
    have hearlier : now + (k + 1 - capacity : ℕ) * interval ≤ now + k * interval := by
      have hk : ((k + 1 - capacity : ℕ) : Rat) ≤ k := by
        exact_mod_cast Nat.sub_le_of_le_add (Nat.add_le_add_left hcapacity k)
      gcongr
    have hdue : max tat (now + (k + 1 - capacity : ℕ) * interval) = now + k * interval := by
      rw [← max_eq_right hnow, ← max_assoc, htat, max_eq_left hearlier]
    have hrest := @ih (now + (k + 1 - capacity : ℕ) * interval)
        (now + k * interval + interval) (k + 1)
      (max_eq_right hnow) (by
        rw [max_eq_left (by nlinarith)]
        push_cast
        ring)
    rw [List.replicate_succ, virtualSchedule, List.range_succ_eq_map]
    simp only [hadmitted, hdue, List.map_cons, List.map_map, hrest]
    refine congrArg₂ List.cons rfl (List.map_congr_left fun i _ => ?_)
    rw [Function.comp_apply, Nat.succ_eq_add_one, Nat.add_right_comm k 1 i, Nat.add_assoc k i 1]

end Burst

/-- An exact bucket that starts full admits calls served in turn as virtual scheduling does, each at
the same instant and after the same wait. Of calls that come together the first `capacity` pass at
once, and the others follow one in every interval. -/
theorem serve_eq_virtualSchedule {capacity : Nat} {period start : Rat} (hcapacity : 1 ≤ capacity)
    (hperiod : 0 < period) :
    ∃ b, Bucket.of true capacity period start = .ok b ∧
      (∀ arrivals, b.serve start arrivals =
        virtualSchedule (period / capacity) capacity start start arrivals) ∧
      ∀ (n : Nat) (instant : Rat), start ≤ instant →
        (b.serve start (List.replicate n instant)).map Prod.fst =
          (List.range n).map fun i => instant + (i + 1 - capacity : ℕ) * (period / capacity) := by
  have hserve (arrivals : List Rat) :
      (full true capacity period start : Bucket Rat Rat).serve start arrivals =
        virtualSchedule (period / capacity) capacity start start arrivals := by
    have hsound := (sound_full hcapacity hperiod).serve rfl (le_refl start) arrivals
    rwa [fullAt_full] at hsound
  refine ⟨full true capacity period start, of_eq_ok_iff.mpr ⟨hcapacity, hperiod, rfl⟩, hserve, ?_⟩
  intro n instant hinstant
  have hinterval : 0 < period / capacity := div_pos hperiod (by exact_mod_cast hcapacity)
  have hfree : max instant start = instant + (0 - capacity : ℕ) * (period / capacity) := by
    simp [hinstant]
  have htat : max start instant = instant + (0 : ℕ) * (period / capacity) := by simp [hinstant]
  have hburst := virtualSchedule_replicate hcapacity hinterval hfree htat n
  simp only [Nat.zero_add] at hburst
  rw [hserve, hburst]

/-- Two tokens in every four seconds, and five calls at once. -/
theorem serve_five_at_once :
    ∃ b : Bucket Rat Rat, Bucket.of true 2 4 0 = .ok b ∧
      (b.serve 0 (List.replicate 5 7)).map Prod.fst = [7, 7, 9, 11, 13] := by
  obtain ⟨b, hof, -, hburst⟩ := @serve_eq_virtualSchedule 2 4 0 (by decide) (by decide)
  refine ⟨b, hof, (hburst 5 7 (by decide)).trans ?_⟩
  simp [List.range_succ]
  norm_num

end AnswerStream.Bucket
