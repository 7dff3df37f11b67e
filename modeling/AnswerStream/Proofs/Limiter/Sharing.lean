import AnswerStream.Limiter.Sharing
import AnswerStream.Proofs.Limiter.Exact

/-!
How many calls an exact shared bucket lets pass. The instant at which the bucket will be full never
goes back; every call that passes moves it on by the time of one token, and it is never further off
than the time in which the whole bucket fills. Whatever the callers do, so many calls and no more
fit between two instants.
-/

namespace AnswerStream.SharedBucket

variable {s s' : SharedBucket Rat Rat} {first last : Rat}

/-- What holds at every instant. Who sleeps is waiting for the bucket to be ready. -/
structure Valid (s : SharedBucket Rat Rat) : Prop where
  sound : s.bucket.Sound
  refilled_le : s.bucket.refilled ≤ s.now
  sleeping : ∀ z, s.sleeper = some z →
    s.bucket.enabled = true ∧ z.since + z.wait = s.bucket.readyAt
  counted : s.bucket.admitted = s.passed.length

/-- The instant at which the bucket will be full, or now if it is. -/
def due (s : SharedBucket Rat Rat) : Rat := max s.now s.bucket.fullAt

/-- A step that keeps the settings: the due instant does not go back, and who passes moves it on by
the time of one token. -/
structure Pays (s s' : SharedBucket Rat Rat) : Prop where
  valid : s'.Valid
  capacity_eq : s'.bucket.capacity = s.bucket.capacity
  period_eq : s'.bucket.period = s.bucket.period
  due_le : s.due ≤ s'.due
  passed : s'.passed = s.passed ∨
    ∃ p, s'.passed = p :: s.passed ∧ p.instant = s'.now ∧ s'.now = s.now ∧
      s.due + s.bucket.interval ≤ s'.due

theorem Pays.of_queue {queue : List Nat} (h : Pays { s with queue } s') : Pays s s' :=
  ⟨h.valid, h.capacity_eq, h.period_eq, h.due_le, h.passed⟩

namespace Valid

theorem start {b : Bucket Rat Rat} {now : Rat} (hb : b.Sound) (hnow : b.refilled ≤ now)
    (hnone : b.admitted = 0) : (start b now).Valid where
  sound := hb
  refilled_le := hnow
  sleeping := by rintro z ⟨⟩
  counted := hnone

theorem due_le (hs : s.Valid) : s.due ≤ s.now + s.bucket.capacity * s.bucket.interval := by
  have hsize : 0 ≤ s.bucket.capacity * s.bucket.interval :=
    mul_nonneg (zero_le_one.trans hs.sound.one_le_capacity) hs.sound.interval_pos.le
  have hfull := hs.sound.fullAt_le
  have hrefilled := hs.refilled_le
  exact max_le (by linarith) (by linarith)

/-- Time goes by, the queue changes, a wait is given up, or the bucket is switched on or off. -/
theorem idle (hs : s.Valid) {instant : Rat} (hinstant : s.now ≤ instant) {queue : List Nat}
    {sleeper : Option (Sleeper Rat)} {enabled : Bool}
    (hsleeper : ∀ z, sleeper = some z → s.sleeper = some z ∧ enabled = s.bucket.enabled) :
    Pays s { s with bucket := s.bucket.setEnabled enabled, now := instant, queue, sleeper } where
  valid :=
    { sound := ⟨hs.sound.one_le_capacity, hs.sound.period_pos, hs.sound.tokens_nonneg,
        hs.sound.tokens_le⟩
      refilled_le := hs.refilled_le.trans hinstant
      sleeping := fun z hz => by
        obtain ⟨hbefore, henabled⟩ := hsleeper z hz
        obtain ⟨hon, hready⟩ := hs.sleeping z hbefore
        exact ⟨henabled.trans hon, hready⟩
      counted := hs.counted }
  capacity_eq := rfl
  period_eq := rfl
  due_le := max_le_max_right _ hinstant
  passed := Or.inl rfl

theorem attend_disabled (h : s.bucket.enabled = false) (caller : Nat) : s.attend caller = s := by
  rw [SharedBucket.attend, Bucket.request_of_disabled h]
  simp only [h, Bool.false_eq_true, if_false]

theorem attend_ready (hs : s.Valid) (henabled : s.bucket.enabled = true)
    (hready : s.bucket.readyAt ≤ s.now) (hfree : s.sleeper = none) (caller : Nat) :
    Pays s (s.attend caller) := by
  have hrequest := hs.sound.request_of_ready henabled hs.refilled_le hready
  have hwhole := (hs.sound.one_le_tokens_refill_iff hs.refilled_le).mpr hready
  have hattend : s.attend caller =
      { s with
        bucket := (s.bucket.refill s.now).taken
        passed := ⟨caller, s.now, 0⟩ :: s.passed } := by
    rw [SharedBucket.attend, hrequest]
    simp only [henabled, if_true]
    rfl
  have hdue : s.due + s.bucket.interval ≤ (s.attend caller).due := by
    rw [hattend, due, due, Bucket.fullAt_taken, hs.sound.fullAt_refill hs.refilled_le]
    exact le_max_right _ _
  rw [hattend] at hdue ⊢
  exact
    { valid :=
        { sound := (hs.sound.refill hs.refilled_le).taken hwhole
          refilled_le := le_refl s.now
          sleeping := fun z hz => by
            rw [show s.sleeper = some z from hz] at hfree
            cases hfree
          counted := congrArg (· + 1) hs.counted }
      capacity_eq := rfl
      period_eq := rfl
      due_le := (le_add_of_nonneg_right hs.sound.interval_pos.le).trans hdue
      passed := Or.inr ⟨⟨caller, s.now, 0⟩, rfl, rfl, rfl, hdue⟩ }

theorem attend_not_ready (hs : s.Valid) (henabled : s.bucket.enabled = true)
    (hlack : s.now < s.bucket.readyAt) (caller : Nat) : Pays s (s.attend caller) := by
  have hrequest := hs.sound.request_of_not_ready henabled hs.refilled_le hlack
  have hlater : s.now ≤ s.bucket.fullAt := hlack.le.trans hs.sound.readyAt_le_fullAt
  have hfullAt : (s.bucket.refill s.now).fullAt = s.bucket.fullAt := by
    rw [hs.sound.fullAt_refill hs.refilled_le, max_eq_right hlater]
  have hreadyAt : (s.bucket.refill s.now).readyAt = s.bucket.readyAt :=
    congrArg (· - (s.bucket.capacity - 1) * s.bucket.interval) hfullAt
  have hattend : s.attend caller =
      { s with
        bucket := s.bucket.refill s.now
        sleeper := some ⟨caller, s.now, s.bucket.readyAt - s.now⟩ } := by
    rw [SharedBucket.attend, hrequest]
  rw [hattend]
  exact
    { valid :=
        { sound := hs.sound.refill hs.refilled_le
          refilled_le := le_refl s.now
          sleeping := by
            rintro z ⟨⟩
            exact ⟨henabled, (add_sub_cancel s.now s.bucket.readyAt).trans hreadyAt.symm⟩
          counted := hs.counted }
      capacity_eq := rfl
      period_eq := rfl
      due_le := by rw [due, due, hfullAt]
      passed := Or.inl rfl }

theorem attend (hs : s.Valid) (hfree : s.sleeper = none) (caller : Nat) :
    Pays s (s.attend caller) := by
  cases henabled : s.bucket.enabled with
  | false =>
    rw [attend_disabled henabled]
    exact hs.idle (le_refl s.now) fun z hz => ⟨hz, rfl⟩
  | true =>
    rcases le_or_gt s.bucket.readyAt s.now with hready | hlack
    · exact hs.attend_ready henabled hready hfree caller
    · exact hs.attend_not_ready henabled hlack caller

theorem rouse (hs : s.Valid) {z : Sleeper Rat} (hz : s.sleeper = some z)
    (hover : z.since + z.wait ≤ s.now) : Pays s (s.rouse z) := by
  obtain ⟨-, hready⟩ := hs.sleeping z hz
  have hdue : s.due + s.bucket.interval ≤ (s.rouse z).due := by
    have hothers := hs.sound.others_nonneg
    have hlacks : s.due ≤ s.now + (s.bucket.capacity - 1) * s.bucket.interval := by
      rw [hready, Bucket.readyAt] at hover
      exact max_le (by linarith) (by linarith)
    change _ ≤ max s.now (s.bucket.complete s.now z.wait).fullAt
    rw [Bucket.fullAt_complete]
    exact le_trans (by linarith) (le_max_right _ _)
  exact
    { valid :=
        { sound := hs.sound.complete z.wait
          refilled_le := le_refl s.now
          sleeping := by rintro z' ⟨⟩
          counted := congrArg (· + 1) hs.counted }
      capacity_eq := rfl
      period_eq := rfl
      due_le := (le_add_of_nonneg_right hs.sound.interval_pos.le).trans hdue
      passed := Or.inr ⟨⟨z.caller, s.now, z.wait⟩, rfl, rfl, rfl, hdue⟩ }

theorem of_locked_eq_false (h : ¬ s.locked = true) : s.sleeper = none := by
  simpa [locked] using h

/-- A step that keeps the settings pays for whom it lets pass. -/
theorem step (hs : s.Valid) {action : Action Rat} (hkeeps : action.isConfigure = false)
    (hstep : s.step? action = some s') : Pays s s' := by
  have hidle (queue : List Nat) : Pays s { s with queue } :=
    hs.idle (le_refl s.now) fun z hz => ⟨hz, rfl⟩
  cases action with
  | tick instant =>
    obtain ⟨hinstant, ⟨⟩⟩ := Option.ite_none_right_eq_some.mp hstep
    exact hs.idle hinstant fun z hz => ⟨hz, rfl⟩
  | ask caller =>
    cases hstep
    exact hidle _
  | enter caller =>
    obtain ⟨hturn, ⟨⟩⟩ := Option.ite_none_right_eq_some.mp hstep
    have hfree : s.sleeper = none := by
      rw [Bool.and_eq_true] at hturn
      exact of_locked_eq_false (by simpa using hturn.1)
    exact ((hidle (s.queue.erase caller)).valid.attend hfree caller).of_queue
  | wake =>
    cases hz : s.sleeper with
    | none => simp [step?, hz] at hstep
    | some z =>
      simp only [step?, hz] at hstep
      obtain ⟨hover, ⟨⟩⟩ := Option.ite_none_right_eq_some.mp hstep
      exact hs.rouse hz hover
  | leave caller =>
    obtain ⟨-, ⟨⟩⟩ := Option.ite_none_right_eq_some.mp hstep
    exact hidle _
  | giveUp =>
    obtain ⟨-, ⟨⟩⟩ := Option.ite_none_right_eq_some.mp hstep
    exact hs.idle (le_refl s.now) (by rintro z ⟨⟩)
  | setEnabled enabled =>
    obtain ⟨hfree, ⟨⟩⟩ := Option.ite_none_left_eq_some.mp hstep
    refine hs.idle (le_refl s.now) fun z hz => ?_
    rw [of_locked_eq_false hfree] at hz
    cases hz
  | configure capacity period => cases hkeeps
  | readStats =>
    obtain ⟨-, ⟨⟩⟩ := Option.ite_none_left_eq_some.mp hstep
    exact hidle _

end Valid

/-- The calls that passed at an instant or later. -/
def passedSince (s : SharedBucket Rat Rat) (first : Rat) : List (Passage Rat) :=
  s.passed.filter fun p => first ≤ p.instant

/-- The calls that passed from an instant on have paid for their tokens since then, so that those
that passed up to another instant were not too many. -/
structure Metered (s : SharedBucket Rat Rat) (first last : Rat) : Prop where
  paid : 0 < (s.passedSince first).length →
    first + (s.passedSince first).length * s.bucket.interval ≤ s.due
  bounded : first ≤ last → (s.passedWithin first last).length * s.bucket.interval ≤
    last - first + s.bucket.capacity * s.bucket.interval

theorem passedWithin_le_passedSince (s : SharedBucket Rat Rat) (first last : Rat) :
    (s.passedWithin first last).length ≤ (s.passedSince first).length := by
  refine (List.monotone_filter_right s.passed fun p hp => ?_).length_le
  exact (Bool.and_eq_true _ _ ▸ hp).1

namespace Metered

theorem start {b : Bucket Rat Rat} {now : Rat} (hb : b.Sound) (first last : Rat) :
    (start b now).Metered first last where
  paid := fun h => absurd h (lt_irrefl 0)
  bounded := fun h => by
    have hsize : 0 ≤ b.capacity * b.interval :=
      mul_nonneg (zero_le_one.trans hb.one_le_capacity) hb.interval_pos.le
    change ((0 : ℕ) : Rat) * _ ≤ last - first + b.capacity * b.interval
    rw [Nat.cast_zero, zero_mul]
    linarith

theorem of_pays_paid (h : s.Metered first last) (hinterval : 0 < s.bucket.interval)
    {p : Passage Rat} (hpassed : s'.passed = p :: s.passed) (hnow : p.instant = s.now)
    (hdue : s.due + s.bucket.interval ≤ s'.due) (hsome : 0 < (s'.passedSince first).length) :
    first + (s'.passedSince first).length * s.bucket.interval ≤ s'.due := by
  by_cases hfirst : first ≤ p.instant
  · have hsince : s'.passedSince first = p :: s.passedSince first := by
      rw [passedSince, hpassed, List.filter_cons_of_pos (by simpa using hfirst), passedSince]
    have hbefore : first + (s.passedSince first).length * s.bucket.interval ≤ s.due := by
      rcases Nat.eq_zero_or_pos (s.passedSince first).length with hnone | hsome
      · rw [hnone, Nat.cast_zero, zero_mul, add_zero]
        exact (hnow ▸ hfirst).trans (le_max_left _ _)
      · exact h.paid hsome
    rw [hsince, List.length_cons, Nat.cast_succ, add_mul, one_mul]
    linarith
  · have hsince : s'.passedSince first = s.passedSince first := by
      rw [passedSince, hpassed, List.filter_cons_of_neg (by simpa using hfirst), passedSince]
    rw [hsince] at hsome ⊢
    have hbefore := h.paid hsome
    linarith

theorem step (h : s.Metered first last) (hs : s.Valid) (hpays : Pays s s') :
    s'.Metered first last := by
  have hpositive := hs.sound.interval_pos
  have hinterval : s'.bucket.interval = s.bucket.interval := by
    rw [Bucket.interval, hpays.capacity_eq, hpays.period_eq, Bucket.interval]
  rcases hpays.passed with hpassed | ⟨p, hpassed, hinstant, hnow, hdue⟩
  · have hsince : s'.passedSince first = s.passedSince first := by
      rw [passedSince, hpassed, passedSince]
    have hwithin : s'.passedWithin first last = s.passedWithin first last := by
      rw [passedWithin, hpassed, passedWithin]
    constructor
    · rw [hsince, hinterval]
      exact fun hsome => (h.paid hsome).trans hpays.due_le
    · rw [hwithin, hinterval, hpays.capacity_eq]
      exact h.bounded
  · have hpaid := h.of_pays_paid hpositive hpassed (hinstant.trans hnow) hdue
    refine ⟨hinterval ▸ hpaid, fun hfirst => ?_⟩
    by_cases hp : first ≤ p.instant ∧ p.instant ≤ last
    · have hwithin : s'.passedWithin first last = p :: s.passedWithin first last := by
        rw [passedWithin, hpassed, List.filter_cons_of_pos (by simpa using hp), passedWithin]
      have hle : (s'.passedWithin first last).length ≤ (s'.passedSince first).length :=
        passedWithin_le_passedSince s' first last
      have hsome : 0 < (s'.passedSince first).length := by
        rw [hwithin, List.length_cons] at hle
        omega
      -- all that has been paid since the first instant lies before the latest possible due instant
      calc ((s'.passedWithin first last).length : Rat) * s'.bucket.interval
          ≤ (s'.passedSince first).length * s.bucket.interval := by
            rw [hinterval]
            gcongr
        _ ≤ s'.due - first := by
            have hall := hpaid hsome
            linarith
        _ ≤ s'.now + s'.bucket.capacity * s'.bucket.interval - first := by
            have hlimit := hpays.valid.due_le
            linarith
        _ ≤ last - first + s'.bucket.capacity * s'.bucket.interval := by
            rw [← hinstant]
            linarith
    · have hwithin : s'.passedWithin first last = s.passedWithin first last := by
        rw [passedWithin, hpassed, List.filter_cons_of_neg (by simpa using hp), passedWithin]
      rw [hwithin, hinterval, hpays.capacity_eq]
      exact h.bounded hfirst

theorem run (h : s.Metered first last) (hs : s.Valid) {actions : List (Action Rat)}
    (hkeeps : ∀ action ∈ actions, action.isConfigure = false) (hrun : s.run? actions = some s') :
    s'.Valid ∧ s'.bucket.capacity = s.bucket.capacity ∧ s'.bucket.period = s.bucket.period ∧
      s'.Metered first last := by
  induction actions generalizing s with
  | nil =>
    cases hrun
    exact ⟨hs, rfl, rfl, h⟩
  | cons action actions ih =>
    obtain ⟨hfirst, hrest⟩ := List.forall_mem_cons.mp hkeeps
    rw [run?, List.foldlM_cons] at hrun
    obtain ⟨s₁, hstep, hrun⟩ := Option.bind_eq_some_iff.mp hrun
    have hpays := hs.step hfirst hstep
    obtain ⟨hs', hcapacity, hperiod, hmetered⟩ := ih (h.step hs hpays) hpays.valid hrest hrun
    exact ⟨hs', hcapacity.trans hpays.capacity_eq, hperiod.trans hpays.period_eq, hmetered⟩

end Metered

/-- Whatever the callers of a bucket do that starts full and keeps its settings, no more pass it in
any span of time than it holds and what comes into it meanwhile. -/
theorem length_passedWithin_le {enabled : Bool} {capacity : Nat} {period begun : Rat}
    {b : Bucket Rat Rat} (hof : Bucket.of enabled capacity period begun = .ok b)
    {actions : List (Action Rat)} (hkeeps : ∀ action ∈ actions, action.isConfigure = false)
    (hrun : (start b begun).run? actions = some s) (first : Rat) {span : Rat} (hspan : 0 ≤ span) :
    ((s.passedWithin first (first + span)).length : Rat) ≤ capacity + capacity * span / period ∧
      s.bucket.admitted = s.passed.length := by
  obtain ⟨hcapacity, hperiod, rfl⟩ := Bucket.of_eq_ok_iff.mp hof
  have hsound : (Bucket.full enabled capacity period begun : Bucket Rat Rat).Sound :=
    Bucket.sound_full hcapacity hperiod
  obtain ⟨hvalid, hsize, hspeed, hmetered⟩ :=
    (Metered.start hsound first (first + span)).run (.start hsound (le_refl begun) rfl) hkeeps hrun
  refine ⟨?_, hvalid.counted⟩
  have hcapacity' : (0 : Rat) < capacity := by exact_mod_cast hcapacity
  have hinterval : s.bucket.interval = period / capacity := by
    rw [Bucket.interval, hsize, hspeed]
    rfl
  have hbound := hmetered.bounded (le_add_of_nonneg_right hspan)
  rw [hinterval, hsize, add_sub_cancel_left] at hbound
  change _ ≤ span + (capacity : Rat) * (period / capacity) at hbound
  rw [mul_div_cancel₀ _ hcapacity'.ne', mul_div_assoc', div_le_iff₀ hcapacity'] at hbound
  rw [add_div' _ _ _ hperiod.ne', le_div_iff₀ hperiod]
  linarith

end AnswerStream.SharedBucket
