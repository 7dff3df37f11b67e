import AnswerStream.Proofs.Limiter.Sharing

/-!
What a shared bucket keeps account of, however often its settings change. There are never fewer
tokens than none nor more than the bucket holds; nobody waits longer than for one token; and the
counts are those of the calls that have passed.
-/

namespace AnswerStream

namespace Bucket

variable {b : Bucket Rat Rat} {capacity : Nat} {period now later : Rat}

/-- The bucket with new settings, which have been found sound. -/
def resized (b : Bucket Rat Rat) (capacity : Nat) (period now : Rat) : Bucket Rat Rat :=
  { b.refill now with capacity, period, tokens := min (b.refill now).tokens capacity }

theorem configure_of_refused (h : capacity = 0 ∨ period ≤ 0) :
    ∃ e, b.configure capacity period now = .error e := by
  cases hconfigure : b.configure capacity period now with
  | error e => exact ⟨e, rfl⟩
  | ok b' =>
    obtain ⟨u, hcheck, -⟩ := bind_eq_ok_iff.mp hconfigure
    obtain ⟨hcapacity, hperiod⟩ := check_eq_ok_iff.mp hcheck
    rcases h with rfl | h
    · exact absurd hcapacity (by decide)
    · exact absurd hperiod (not_lt.mpr h)

theorem configure_of_accepted (hcapacity : 1 ≤ capacity) (hperiod : 0 < period) :
    b.configure capacity period now = .ok (b.resized capacity period now) := by
  have hleast : Metering.least (b.refill now).tokens (capacity : Rat) =
      min (b.refill now).tokens capacity := (min_def _ _).symm
  have hcheck : check Rat capacity period = .ok () := check_eq_ok_iff.mpr ⟨hcapacity, hperiod⟩
  rw [configure, hcheck, resized, ← hleast]
  rfl

namespace Sound

theorem resized (hb : b.Sound) (hnow : b.refilled ≤ now) (hcapacity : 1 ≤ capacity)
    (hperiod : 0 < period) : (b.resized capacity period now).Sound where
  one_le_capacity := by
    change (1 : Rat) ≤ capacity
    exact_mod_cast hcapacity
  period_pos := hperiod
  tokens_nonneg := le_min (hb.refill hnow).tokens_nonneg (Nat.cast_nonneg capacity)
  tokens_le := min_le_right _ _

theorem readyAt_le (hb : b.Sound) : b.readyAt ≤ b.refilled + b.interval := by
  have hholds := mul_nonneg hb.tokens_nonneg hb.interval_pos.le
  rw [readyAt, fullAt]
  linarith

end Sound
end Bucket

namespace SharedBucket

variable {s s' : SharedBucket Rat Rat}

/-- The counts are those of the calls that have passed, and who sleeps waits for no more than one
token. -/
structure Accounted (s : SharedBucket Rat Rat) : Prop where
  valid : s.Valid
  waiting : ∀ z, s.sleeper = some z → 0 ≤ z.wait ∧ z.wait ≤ s.bucket.interval
  waited : s.bucket.waited = (s.passed.map Passage.wait).sum

/-- What a step leaves: sound accounts, and a short wait behind a call that it let pass. -/
structure Settles (s s' : SharedBucket Rat Rat) : Prop where
  accounted : s'.Accounted
  wait_le : ∀ p, s'.passed = p :: s.passed → 0 ≤ p.wait ∧ p.wait ≤ s'.bucket.interval

namespace Accounted

theorem start {b : Bucket Rat Rat} {now : Rat} (hb : b.Sound) (hnow : b.refilled ≤ now)
    (hadmitted : b.admitted = 0) (hwaited : b.waited = 0) : (start b now).Accounted where
  valid := .start hb hnow hadmitted
  waiting := by rintro z ⟨⟩
  waited := hwaited

/-- Nobody passes, and whoever sleeps has slept before under the same settings. -/
theorem settles_of_passed_eq (hs : s.Accounted) (hvalid : s'.Valid)
    (hwaiting : ∀ z, s'.sleeper = some z → s.sleeper = some z ∧
      s'.bucket.interval = s.bucket.interval)
    (hwaited : s'.bucket.waited = s.bucket.waited) (hpassed : s'.passed = s.passed) :
    Settles s s' where
  accounted :=
    { valid := hvalid
      waiting := by
        intro z hz
        obtain ⟨hbefore, hinterval⟩ := hwaiting z hz
        rw [hinterval]
        exact hs.waiting z hbefore
      waited := by rw [hwaited, hpassed, hs.waited] }
  wait_le := by
    intro p hp
    rw [hpassed] at hp
    exact absurd hp.symm (List.cons_ne_self p s.passed)

theorem settles_of_passed_cons (hs : s.Accounted) (hvalid : s'.Valid) {p : Passage Rat}
    (hfree : s'.sleeper = none) (hpassed : s'.passed = p :: s.passed)
    (hwaited : s'.bucket.waited = s.bucket.waited + p.wait)
    (hwait : 0 ≤ p.wait ∧ p.wait ≤ s'.bucket.interval) : Settles s s' where
  accounted :=
    { valid := hvalid
      waiting := by
        intro z hz
        rw [hfree] at hz
        cases hz
      waited := by rw [hwaited, hpassed, List.map_cons, List.sum_cons, hs.waited, add_comm] }
  wait_le := by
    intro p' hp'
    rw [hpassed] at hp'
    cases hp'
    exact hwait

theorem attend (hs : s.Accounted) (hfree : s.sleeper = none) (caller : Nat) :
    Settles s (s.attend caller) := by
  have hvalid := (hs.valid.attend hfree caller).valid
  cases henabled : s.bucket.enabled with
  | false =>
    rw [Valid.attend_disabled henabled] at hvalid ⊢
    exact hs.settles_of_passed_eq hvalid (fun z hz => ⟨hz, rfl⟩) rfl rfl
  | true =>
    have hinterval := hs.valid.sound.interval_pos
    rcases le_or_gt s.bucket.readyAt s.now with hready | hlack
    · have hrequest := hs.valid.sound.request_of_ready henabled hs.valid.refilled_le hready
      have hattend : s.attend caller =
          { s with
            bucket := (s.bucket.refill s.now).taken
            passed := ⟨caller, s.now, 0⟩ :: s.passed } := by
        rw [SharedBucket.attend, hrequest]
        simp only [henabled, if_true]
        rfl
      rw [hattend] at hvalid ⊢
      exact hs.settles_of_passed_cons hvalid hfree rfl rfl ⟨le_refl 0, hinterval.le⟩
    · have hrequest := hs.valid.sound.request_of_not_ready henabled hs.valid.refilled_le hlack
      have hattend : s.attend caller =
          { s with
            bucket := s.bucket.refill s.now
            sleeper := some ⟨caller, s.now, s.bucket.readyAt - s.now⟩ } := by
        rw [SharedBucket.attend, hrequest]
      have hnear : s.bucket.readyAt ≤ s.now + s.bucket.interval := by
        have hlate := hs.valid.sound.readyAt_le
        have hrefilled := hs.valid.refilled_le
        linarith
      rw [hattend] at hvalid ⊢
      constructor
      · refine ⟨hvalid, ?_, hs.waited⟩
        rintro z ⟨⟩
        change 0 ≤ s.bucket.readyAt - s.now ∧ s.bucket.readyAt - s.now ≤ s.bucket.interval
        constructor <;> linarith
      · intro p hp
        exact absurd hp.symm (List.cons_ne_self p s.passed)

theorem rouse (hs : s.Accounted) {z : Sleeper Rat} (hz : s.sleeper = some z)
    (hover : z.since + z.wait ≤ s.now) : Settles s (s.rouse z) :=
  hs.settles_of_passed_cons (hs.valid.rouse hz hover).valid rfl rfl rfl (hs.waiting z hz)

/-- New settings are taken over when nobody sleeps, and else nothing changes. -/
theorem configure (hs : s.Accounted) {capacity : Nat} {period : Rat}
    (hstep : s.step? (.configure capacity period) = some s') : Settles s s' := by
  by_cases haccepted : 1 ≤ capacity ∧ 0 < period
  · obtain ⟨hcapacity, hperiod⟩ := haccepted
    rw [step?, Bucket.configure_of_accepted hcapacity hperiod] at hstep
    obtain ⟨hfree, ⟨⟩⟩ := Option.ite_none_left_eq_some.mp hstep
    have hnone := Valid.of_locked_eq_false hfree
    have hvalid : Valid { s with bucket := s.bucket.resized capacity period s.now } :=
      { sound := hs.valid.sound.resized hs.valid.refilled_le hcapacity hperiod
        refilled_le := le_refl s.now
        sleeping := by
          intro z hz
          rw [show s.sleeper = some z from hz] at hnone
          cases hnone
        counted := hs.valid.counted }
    refine hs.settles_of_passed_eq hvalid ?_ rfl rfl
    intro z hz
    rw [show s.sleeper = some z from hz] at hnone
    cases hnone
  · have hrefused : capacity = 0 ∨ period ≤ 0 := by
      rcases Nat.eq_zero_or_pos capacity with hzero | hpos
      · exact Or.inl hzero
      · exact Or.inr (not_lt.mp fun hperiod => haccepted ⟨hpos, hperiod⟩)
    obtain ⟨e, he⟩ : ∃ e, s.bucket.configure capacity period s.now = .error e :=
      Bucket.configure_of_refused hrefused
    rw [step?, he] at hstep
    cases hstep
    exact hs.settles_of_passed_eq hs.valid (fun z hz => ⟨hz, rfl⟩) rfl rfl

theorem step (hs : s.Accounted) {action : Action Rat} (hstep : s.step? action = some s') :
    Settles s s' := by
  have hvalid (hkeeps : action.isConfigure = false) : s'.Valid := (hs.valid.step hkeeps hstep).valid
  cases action with
  | tick instant =>
    obtain ⟨hinstant, ⟨⟩⟩ := Option.ite_none_right_eq_some.mp hstep
    exact hs.settles_of_passed_eq (hvalid rfl) (fun z hz => ⟨hz, rfl⟩) rfl rfl
  | ask caller =>
    cases hstep
    exact hs.settles_of_passed_eq (hvalid rfl) (fun z hz => ⟨hz, rfl⟩) rfl rfl
  | enter caller =>
    obtain ⟨hturn, ⟨⟩⟩ := Option.ite_none_right_eq_some.mp hstep
    have hfree : s.sleeper = none := by
      rw [Bool.and_eq_true] at hturn
      exact Valid.of_locked_eq_false (by simpa using hturn.1)
    have hqueue : Accounted { s with queue := s.queue.erase caller } :=
      ⟨(hs.valid.idle (le_refl s.now) fun z hz => ⟨hz, rfl⟩).valid, hs.waiting, hs.waited⟩
    obtain ⟨haccounted, hwait⟩ := hqueue.attend hfree caller
    exact ⟨haccounted, hwait⟩
  | wake =>
    cases hz : s.sleeper with
    | none => simp [step?, hz] at hstep
    | some z =>
      simp only [step?, hz] at hstep
      obtain ⟨hover, ⟨⟩⟩ := Option.ite_none_right_eq_some.mp hstep
      exact hs.rouse hz hover
  | leave caller =>
    obtain ⟨-, ⟨⟩⟩ := Option.ite_none_right_eq_some.mp hstep
    exact hs.settles_of_passed_eq (hvalid rfl) (fun z hz => ⟨hz, rfl⟩) rfl rfl
  | giveUp =>
    obtain ⟨-, ⟨⟩⟩ := Option.ite_none_right_eq_some.mp hstep
    exact hs.settles_of_passed_eq (hvalid rfl) (by rintro z ⟨⟩) rfl rfl
  | setEnabled enabled =>
    obtain ⟨-, ⟨⟩⟩ := Option.ite_none_left_eq_some.mp hstep
    exact hs.settles_of_passed_eq (hvalid rfl) (fun z hz => ⟨hz, rfl⟩) rfl rfl
  | configure capacity period => exact hs.configure hstep
  | readStats =>
    obtain ⟨-, ⟨⟩⟩ := Option.ite_none_left_eq_some.mp hstep
    exact hs.settles_of_passed_eq hs.valid (fun z hz => ⟨hz, rfl⟩) rfl rfl

theorem run (hs : s.Accounted) {actions : List (Action Rat)} (hrun : s.run? actions = some s') :
    s'.Accounted := by
  induction actions generalizing s with
  | nil =>
    cases hrun
    exact hs
  | cons action actions ih =>
    rw [run?, List.foldlM_cons] at hrun
    obtain ⟨s₁, hstep, hrest⟩ := Option.bind_eq_some_iff.mp hrun
    exact ih (hs.step hstep).accounted hrest

end Accounted

/-- Whatever the callers of a bucket do, and however often it gets new settings or is switched on or
off: it holds neither less than nothing nor more than it can, it has counted the calls that passed
while it was on and their waits, and nobody that it lets pass has waited longer than for one token.
Settings that are refused change nothing, and the switch nothing but itself. -/
theorem accounts_of_run {enabled : Bool} {capacity : Nat} {period begun : Rat} {b : Bucket Rat Rat}
    (hof : Bucket.of enabled capacity period begun = .ok b) {actions : List (Action Rat)}
    (hrun : (SharedBucket.start b begun).run? actions = some s) :
    (0 ≤ s.bucket.tokens ∧ s.bucket.tokens ≤ s.bucket.capacity ∧ 1 ≤ s.bucket.capacity ∧
      0 < s.bucket.period) ∧
    (s.bucket.admitted = s.passed.length ∧ s.bucket.waited = (s.passed.map Passage.wait).sum) ∧
    (∀ action s' p, s.step? action = some s' → s'.passed = p :: s.passed →
      0 ≤ p.wait ∧ p.wait ≤ s'.bucket.period / s'.bucket.capacity) ∧
    (∀ size span, size = 0 ∨ span ≤ 0 → s.step? (.configure size span) = some s) ∧
    ∀ on s', s.step? (.setEnabled on) = some s' →
      s' = { s with bucket := { s.bucket with enabled := on } } := by
  obtain ⟨hcapacity, hperiod, rfl⟩ := Bucket.of_eq_ok_iff.mp hof
  have hsound : (Bucket.full enabled capacity period begun : Bucket Rat Rat).Sound :=
    Bucket.sound_full hcapacity hperiod
  have hs : s.Accounted := (Accounted.start hsound (le_refl begun) rfl rfl).run hrun
  refine ⟨?holds, ⟨hs.valid.counted, hs.waited⟩, ?waits, ?refused, ?switched⟩
  case holds =>
    have hheld := hs.valid.sound
    exact ⟨hheld.tokens_nonneg, hheld.tokens_le, hheld.one_le_capacity, hheld.period_pos⟩
  case waits =>
    intro action s' p hstep hpassed
    exact (hs.step hstep).wait_le p hpassed
  case refused =>
    intro size span hrefused
    obtain ⟨e, he⟩ : ∃ e, s.bucket.configure size span s.now = .error e :=
      Bucket.configure_of_refused hrefused
    rw [step?, he]
  case switched =>
    intro on s' hstep
    obtain ⟨-, ⟨⟩⟩ := Option.ite_none_left_eq_some.mp hstep
    rfl

/-- Two tokens in four seconds, later one in three. The third call is given up in its wait, the
fourth comes while the bucket is off, and the fifth has half a token to wait for. -/
def resettled : List (Action Rat) :=
  [.ask 0, .enter 0, .ask 1, .enter 1, .ask 2, .enter 2, .configure 0 5, .tick 1, .giveUp,
    .configure 1 3, .setEnabled false, .ask 3, .enter 3, .setEnabled true, .ask 4, .enter 4,
    .tick 3]

theorem accounts_of_run_resettled :
    let begun : SharedBucket Rat Rat := .start (.full true 2 4 0) 0
    ∃ s s', begun.run? resettled = some s ∧
      s.bucket.tokens ≤ s.bucket.capacity ∧ s.bucket.admitted = 2 ∧ s.bucket.waited = 0 ∧
      s.step? .wake = some s' ∧ s'.passed = ⟨4, 3, 3 / 2⟩ :: s.passed ∧
      3 / 2 ≤ s'.bucket.period / s'.bucket.capacity := by
  intro begun
  have hof : Bucket.of true 2 4 0 = .ok (.full true 2 4 0 : Bucket Rat Rat) :=
    Bucket.of_eq_ok_iff.mpr ⟨by decide, by decide, rfl⟩
  have hlogs : (begun.run? resettled).bind (fun s =>
      (s.step? .wake).map fun s' => (s.passed, s'.passed)) =
        some ([⟨1, 0, 0⟩, ⟨0, 0, 0⟩], [⟨4, 3, 3 / 2⟩, ⟨1, 0, 0⟩, ⟨0, 0, 0⟩]) := by decide +kernel
  obtain ⟨s, hrun, hwake⟩ := Option.bind_eq_some_iff.mp hlogs
  obtain ⟨s', hstep, hpassed⟩ := Option.map_eq_some_iff.mp hwake
  obtain ⟨hbefore, hafter⟩ := Prod.mk.inj hpassed
  obtain ⟨⟨-, htokens, -⟩, ⟨hadmitted, hwaited⟩, hwaits, -⟩ := accounts_of_run hof hrun
  rw [hbefore] at hadmitted hwaited
  rw [← hbefore] at hafter
  exact ⟨s, s', hrun, htokens, hadmitted, hwaited.trans (by simp), hstep, hafter,
    (hwaits .wake s' _ hstep hafter).2⟩

end SharedBucket
end AnswerStream
