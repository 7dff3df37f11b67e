import AnswerStream.Proofs.Client.Calm
import Mathlib.Algebra.Order.Ring.Nat

/-!
What a cancellation does to a call. A call works without taking time and waits in between, so that
an undisturbed one comes to its end through a number of waits. One that heeds its cancellation ends
at an instant in such a wait, and leaves its session as the wait has found it; an instant in none of
its waits changes nothing.
-/

namespace AnswerStream

variable {σ α β : Type}

/-- A call that waits: its session since the wait began, and the instant at which it goes on, if it
ever does. -/
structure Wait (σ : Type) where
  session : Session σ
  wake : Option Duration

/-- The first instant of a wait and the last belong to it. -/
def Wait.covers (z : Wait σ) (instant : Duration) : Bool :=
  decide (z.session.now ≤ instant) && z.wake.all fun wake => decide (instant ≤ wake)

theorem Wait.covers_some {s : Session σ} {wake instant : Duration} :
    Wait.covers ⟨s, some wake⟩ instant = true ↔ s.now ≤ instant ∧ instant ≤ wake := by
  simp only [covers, Option.all_some, Bool.and_eq_true, decide_eq_true_eq]

theorem Wait.covers_none {s : Session σ} {instant : Duration} :
    Wait.covers ⟨s, none⟩ instant = true ↔ s.now ≤ instant := by
  simp only [covers, Option.all_none, Bool.and_true, decide_eq_true_eq]

namespace Session

/-- A session goes on to another without taking time. -/
structure Works (s s' : Session σ) : Prop where
  now : s'.now = s.now
  cancelled : s'.cancelled = false
  trace : s.trace <:+ s'.trace

theorem Works.refl {s : Session σ} (h : s.cancelled = false) : s.Works s :=
  ⟨rfl, h, List.suffix_rfl⟩

theorem Works.trans {s s' s'' : Session σ} (h : s.Works s') (h' : s'.Works s'') : s.Works s'' :=
  ⟨h'.now.trans h.now, h'.cancelled, h.trace.trans h'.trace⟩

/-- A session goes on to another through waits, one after the other; nothing but time passes in a
wait. -/
inductive Passes : Session σ → List (Wait σ) → Session σ → Prop
  | works {s s' : Session σ} (h : s.Works s') : Passes s [] s'
  | waits {s m s' : Session σ} {wake : Duration} {waits : List (Wait σ)} (h : s.Works m)
      (hwake : m.now < wake) (hrest : Passes { m with now := wake } waits s') :
      Passes s (⟨m, some wake⟩ :: waits) s'

namespace Passes

variable {s m s' : Session σ} {waits later : List (Wait σ)} {instant : Duration}

theorem after_works (hfirst : s.Works m) (h : Passes m waits s') : Passes s waits s' := by
  cases h with
  | works h => exact .works (hfirst.trans h)
  | waits h hwake hrest => exact .waits (hfirst.trans h) hwake hrest

theorem trans (h : Passes s waits m) (h' : Passes m later s') : Passes s (waits ++ later) s' := by
  induction h with
  | works h => exact h'.after_works h
  | waits h hwake hrest ih => exact .waits h hwake (ih h')

theorem cancelled (h : Passes s waits s') : s'.cancelled = false := by
  induction h with
  | works h => exact h.cancelled
  | waits h hwake hrest ih => exact ih

/-- The waits take all the time that passes: an instant that is in none of them comes behind them.
-/
theorem now_of_uncovered (h : Passes s waits s') (hinstant : s.now ≤ instant)
    (hnone : waits.find? (·.covers instant) = none) : s'.now = s.now ∨ s'.now < instant := by
  induction h with
  | works h => exact Or.inl h.now
  | waits h hwake hrest ih =>
    rw [← h.now] at hinstant
    rw [List.find?_cons] at hnone
    split at hnone
    · cases hnone
    · next huncovered =>
      have hover := Nat.lt_of_not_le fun hbefore =>
        Bool.eq_false_iff.mp huncovered (Wait.covers_some.mpr ⟨hinstant, hbefore⟩)
      rcases ih hover.le hnone with hlast | hlater
      · rw [hlast]
        exact Or.inr hover
      · exact Or.inr hlater

theorem le_of_uncovered (h : Passes s waits s') (hinstant : s.now ≤ instant)
    (hnone : waits.find? (·.covers instant) = none) : s'.now ≤ instant := by
  rcases h.now_of_uncovered hinstant hnone with hnow | hlater
  · rwa [hnow]
  · exact Nat.le_of_lt hlater

end Passes

/-- The session of a wait that is cut short at an instant. -/
def cut (s : Session σ) (instant : Duration) : Session σ :=
  { s with now := instant, cancelled := true }

/-- What a cancelled call still does to its session: it leaves some events. -/
structure Closes (s : Session σ) (closing : List Event) (s' : Session σ) : Prop where
  now : s'.now = s.now
  cancelled : s'.cancelled = true
  limiter : s'.limiter = s.limiter
  transport : s'.transport = s.transport
  trace : s'.trace = closing.reverse ++ s.trace

theorem Closes.refl {s : Session σ} (h : s.cancelled = true) : s.Closes [] s :=
  ⟨rfl, h, rfl, rfl, rfl⟩

theorem Closes.trans {s s' s'' : Session σ} {es es' : List Event} (h : s.Closes es s')
    (h' : s'.Closes es' s'') : s.Closes (es ++ es') s'' where
  now := h'.now.trans h.now
  cancelled := h'.cancelled
  limiter := h'.limiter.trans h.limiter
  transport := h'.transport.trans h.transport
  trace := by rw [h'.trace, h.trace, List.reverse_append, List.append_assoc]

end Session

namespace Call
open Session (Passes)

theorem run_poll {s : Session σ} (hs : s.cancelled = false) :
    (poll : Call σ Unit).run s = .ok () s := by
  rw [poll, run_get_bind, hs]
  rfl

theorem run_poll_cancelled {s : Session σ} (hs : s.cancelled = true) :
    (poll : Call σ Unit).run s = .error (.failed .cancelled) s := by
  rw [poll, run_get_bind, hs]
  rfl

theorem run_cancel {s : Session σ} {instant : Duration} (h : s.now ≤ instant) :
    (cancel instant : Call σ α).run s = .error (.failed .cancelled) (s.cut instant) := by
  have hmax : max s.now instant = instant := congrArg Duration.mk (Nat.max_eq_right h)
  show EStateM.Result.error _ { s with now := max s.now instant, cancelled := true } = _
  rw [hmax]
  rfl

/-- How an undisturbed call comes to its end: by these waits, the last of which may have no end. -/
inductive Course (s : Session σ) : List (Wait σ) → EStateM.Result Stop (Session σ) α → Prop
  | ok {waits : List (Wait σ)} {a : α} {s' : Session σ} (h : s.Passes waits s') :
      Course s waits (.ok a s')
  | failed {waits : List (Wait σ)} {e : Failure} {s' : Session σ} (h : s.Passes waits s') :
      Course s waits (.error (.failed e) s')
  | stuck {waits : List (Wait σ)} {s' : Session σ} (h : s.Passes waits s') :
      Course s (waits ++ [⟨s', none⟩]) (.error .stuck s')

theorem Course.prepend {s m : Session σ} {waits later : List (Wait σ)}
    {result : EStateM.Result Stop (Session σ) α} (h : s.Passes waits m)
    (hlater : Course m later result) :
    Course s (waits ++ later) result := by
  cases hlater with
  | ok h' => exact .ok (h.trans h')
  | failed h' => exact .failed (h.trans h')
  | stuck h' =>
    rw [← List.append_assoc]
    exact .stuck (h.trans h')

/-- What becomes of a call that is cancelled at an instant, by the wait that it is in then. It ends
as cancelled, in the session that the wait has found, to which only the closing events are added. If
it does not wait, nothing changes. -/
def Ends (closing : List Event) (instant : Duration)
    (undisturbed : EStateM.Result Stop (Session σ) α) :
    Option (Wait σ) → EStateM.Result Stop (Session σ) α → Prop
  | some z, result =>
    ∃ s', result = .error (.failed .cancelled) s' ∧ (z.session.cut instant).Closes closing s'
  | none, result => result = undisturbed

/-- The call, by the instant of its cancellation, heeds any cancellation from now on. What it leaves
depends on that instant only by the wait of the undisturbed call that it is in: whatever would come
behind the wait has not been done. -/
def HeedsAt (s : Session σ) (closing : List Event) (call : Option Duration → Call σ α) : Prop :=
  ∃ waits, Course s waits ((call none).run s) ∧
    ∀ instant, s.now ≤ instant →
      Ends closing instant ((call none).run s) (waits.find? (·.covers instant))
        ((call (some instant)).run s)

def Heeds (closing : List Event) (call : Option Duration → Call σ α) : Prop :=
  ∀ s : Session σ, s.cancelled = false → HeedsAt s closing call

theorem Ends.through {opening added : List Event} {instant : Duration} {z : Option (Wait σ)}
    {undisturbed result : EStateM.Result Stop (Session σ) α}
    {next : EStateM.Result Stop (Session σ) α → EStateM.Result Stop (Session σ) β}
    (h : Ends opening instant undisturbed z result)
    (hcancelled : ∀ s, s.cancelled = true → ∃ s',
      next (.error (.failed .cancelled) s) = .error (.failed .cancelled) s' ∧ s.Closes added s') :
    Ends (opening ++ added) instant (next undisturbed) z (next result) := by
  cases z with
  | none => exact congrArg next h
  | some z =>
    obtain ⟨s, rfl, hs⟩ := h
    obtain ⟨s', hnext, hs'⟩ := hcancelled s hs.cancelled
    exact ⟨s', hnext, hs.trans hs'⟩

/-- How a call goes on that has a result or has failed. -/
def follow (next : α → Call σ β) (handler : Failure → Call σ β) :
    EStateM.Result Stop (Session σ) α → EStateM.Result Stop (Session σ) β
  | .ok a s => (next a).run s
  | .error (.failed e) s => (handler e).run s
  | .error .stuck s => .error .stuck s

section Rules

variable {s m : Session σ} {opening added closing : List Event} {x : Option Duration → Call σ α}
  {F G : Option Duration → Call σ β}

theorem HeedsAt.after_waits {waits : List (Wait σ)} (hrest : HeedsAt m closing G)
    (hpasses : s.Passes waits m) (hundisturbed : (F none).run s = (G none).run m)
    (hends : ∀ instant, s.now ≤ instant →
      Ends closing instant ((G (some instant)).run m) (waits.find? (·.covers instant))
        ((F (some instant)).run s)) : HeedsAt s closing F := by
  obtain ⟨later, hcourse, hendsLater⟩ := hrest
  refine ⟨waits ++ later, ?_, fun instant hinstant => ?_⟩
  · rw [hundisturbed]
    exact hcourse.prepend hpasses
  · have hfirst := hends instant hinstant
    rw [List.find?_append]
    cases hfind : waits.find? (·.covers instant) with
    | some z =>
      rw [hfind] at hfirst
      exact hfirst
    | none =>
      rw [hfind] at hfirst
      have hrest := hendsLater instant (hpasses.le_of_uncovered hinstant hfind)
      rw [show (F (some instant)).run s = _ from hfirst, hundisturbed]
      exact hrest

theorem HeedsAt.after_works (hrest : HeedsAt m closing G) (hs : s.Works m)
    (hrun : ∀ cancelAt, (F cancelAt).run s = (G cancelAt).run m) : HeedsAt s closing F :=
  hrest.after_waits (.works hs) (hrun none) fun instant _ => hrun (some instant)

theorem Heeds.of_works {call : Call σ α}
    (h : ∀ s : Session σ, s.cancelled = false → ∃ s', s.Works s' ∧
      ((∃ a, call.run s = .ok a s') ∨ ∃ e, call.run s = .error (.failed e) s')) :
    Heeds closing fun _ => call := by
  intro s hs
  obtain ⟨s', hworks, hrun⟩ := h s hs
  refine ⟨[], ?_, fun instant _ => rfl⟩
  rcases hrun with ⟨a, hrun⟩ | ⟨e, hrun⟩
  · rw [hrun]
    exact .ok (.works hworks)
  · rw [hrun]
    exact .failed (.works hworks)

/-- A call that heeds its cancellation may be followed by others that do, if these only add some
events where it has been cancelled. -/
theorem HeedsAt.follow (hx : HeedsAt s opening x) (next : Option Duration → α → Call σ β)
    (handler : Option Duration → Failure → Call σ β)
    (hnext : ∀ a, Heeds (opening ++ added) fun cancelAt => next cancelAt a)
    (hhandler : ∀ e, Heeds (opening ++ added) fun cancelAt => handler cancelAt e)
    (hcancelled : ∀ (cancelAt : Option Duration) (m : Session σ), m.cancelled = true →
      ∃ m', (handler cancelAt .cancelled).run m = .error (.failed .cancelled) m' ∧
        m.Closes added m')
    (hrun : ∀ cancelAt,
      (F cancelAt).run s = Call.follow (next cancelAt) (handler cancelAt) ((x cancelAt).run s)) :
    HeedsAt s (opening ++ added) F := by
  obtain ⟨waits, hcourse, hends⟩ := hx
  have hthrough (instant : Duration) (hinstant : s.now ≤ instant) :
      Ends (opening ++ added) instant
        (Call.follow (next (some instant)) (handler (some instant)) ((x none).run s))
        (waits.find? (·.covers instant)) ((F (some instant)).run s) := by
    rw [hrun]
    exact (hends instant hinstant).through (hcancelled (some instant))
  cases hfirst : (x none).run s with
  | ok a m =>
    rw [hfirst] at hcourse hthrough
    cases hcourse with | ok hpasses =>
    refine (hnext a m hpasses.cancelled).after_waits hpasses ?_ hthrough
    rw [hrun, hfirst]
    rfl
  | error stop m =>
    rw [hfirst] at hcourse hthrough
    cases hcourse with
    | failed hpasses =>
      refine (hhandler _ m hpasses.cancelled).after_waits hpasses ?_ hthrough
      rw [hrun, hfirst]
      rfl
    | @stuck passed _ hpasses =>
      have hstuck : (F none).run s = .error .stuck m := by
        rw [hrun, hfirst]
        rfl
      refine ⟨passed ++ [⟨m, none⟩], ?_, ?_⟩
      · rw [hstuck]
        exact .stuck hpasses
      · rw [hstuck]
        exact hthrough

theorem Heeds.bind {next : Option Duration → α → Call σ β} (hx : Heeds closing x)
    (hnext : ∀ a, Heeds closing fun cancelAt => next cancelAt a) :
    Heeds closing fun cancelAt => x cancelAt >>= next cancelAt := by
  intro s hs
  have hnone : closing = closing ++ [] := (List.append_nil closing).symm
  rw [hnone] at hnext ⊢
  refine (hx s hs).follow next (fun _ => Call.fail) hnext ?failed ?cancelled ?run
  case failed =>
    intro e
    exact .of_works fun m hm => ⟨m, .refl hm, Or.inr ⟨e, rfl⟩⟩
  case cancelled =>
    intro cancelAt m hm
    exact ⟨m, rfl, .refl hm⟩
  case run =>
    intro cancelAt
    rw [run_bind]
    rcases (x cancelAt).run s with ⟨a, m⟩ | ⟨_ | _, m⟩
    all_goals rfl

theorem Heeds.tryCatch {x : Option Duration → Call σ β}
    {handler : Option Duration → Stop → Call σ β}
    (hx : Heeds [] x) (hstuck : ∀ cancelAt, handler cancelAt .stuck = throw .stuck)
    (hfailed : ∀ e, Heeds closing fun cancelAt => handler cancelAt (.failed e))
    (hcancelled : ∀ (cancelAt : Option Duration) (s : Session σ), s.cancelled = true →
      ∃ s', (handler cancelAt (.failed .cancelled)).run s = .error (.failed .cancelled) s' ∧
        s.Closes closing s') :
    Heeds closing fun cancelAt => tryCatch (x cancelAt) (handler cancelAt) := by
  intro s hs
  refine (hx s hs).follow (fun _ => pure)
    (fun cancelAt e => handler cancelAt (.failed e)) ?ok hfailed
    hcancelled ?run
  case ok =>
    intro a
    exact .of_works fun m hm => ⟨m, .refl hm, Or.inl ⟨a, rfl⟩⟩
  case run =>
    intro cancelAt
    rw [run_tryCatch]
    rcases (x cancelAt).run s with ⟨a, m⟩ | ⟨e | _, m⟩
    · rfl
    · rfl
    · simp only [hstuck]
      rfl

namespace Heeds

theorem pure (a : α) : Heeds closing fun _ => (pure a : Call σ α) :=
  .of_works fun s hs => ⟨s, .refl hs, Or.inl ⟨a, rfl⟩⟩

theorem ofExcept (result : Except Failure α) :
    Heeds closing fun _ => (ofExcept result : Call σ α) := by
  cases result with
  | ok a => exact pure a
  | error e => exact .of_works fun s hs => ⟨s, .refl hs, Or.inr ⟨e, rfl⟩⟩

theorem modify {f : Session σ → Session σ}
    (h : ∀ s : Session σ, s.cancelled = false → s.Works (f s)) :
    Heeds closing fun _ => (modify f : Call σ Unit) :=
  .of_works fun s hs => ⟨f s, h s hs, Or.inl ⟨(), rfl⟩⟩

theorem poll : Heeds closing fun _ => (poll : Call σ Unit) :=
  .of_works fun s hs => ⟨s, .refl hs, Or.inl ⟨(), run_poll hs⟩⟩

end Heeds
end Rules

/-- An undisturbed call that has begun and comes to this end is still waiting at an instant. -/
def Lasts (s : Session σ) (instant : Duration) : EStateM.Result Stop (Session σ) α → Prop
  | .ok _ s' | .error (.failed _) s' => s.now < s'.now ∧ instant ≤ s'.now
  | .error .stuck _ => True

instance (s : Session σ) (instant : Duration) (result : EStateM.Result Stop (Session σ) α) :
    Decidable (Lasts s instant result) :=
  match result with
  | .ok _ s' | .error (.failed _) s' =>
    inferInstanceAs (Decidable (s.now < s'.now ∧ instant ≤ s'.now))
  | .error .stuck _ => .isTrue trivial

/-- A call takes no time but in its waits, so that there is one to cut short as long as it lasts. -/
theorem Course.covered {s : Session σ} {waits : List (Wait σ)}
    {result : EStateM.Result Stop (Session σ) α}
    {instant : Duration} (h : Course s waits result) (hinstant : s.now ≤ instant)
    (hlasts : Lasts s instant result) : ∃ z, waits.find? (·.covers instant) = some z := by
  have hpassed {passed : List (Wait σ)} {s' : Session σ} (hpasses : s.Passes passed s')
      (htime : s.now < s'.now ∧ instant ≤ s'.now) :
      ∃ z, passed.find? (·.covers instant) = some z := by
    by_contra hnone
    rw [← Option.isSome_iff_exists, Option.not_isSome_iff_eq_none] at hnone
    obtain ⟨htime, hbefore⟩ := htime
    rw [Duration.lt_iff] at htime
    rw [Duration.le_iff] at hbefore
    rcases hpasses.now_of_uncovered hinstant hnone with hnow | hlater
    · rw [hnow] at htime
      omega
    · rw [Duration.lt_iff] at hlater
      omega
  cases h with
  | ok hpasses => exact hpassed hpasses hlasts
  | failed hpasses => exact hpassed hpasses hlasts
  | @stuck passed s' hpasses =>
    rw [List.find?_append]
    cases hfind : passed.find? (·.covers instant) with
    | some z => exact ⟨z, rfl⟩
    | none =>
      have hlast : s'.now ≤ instant := hpasses.le_of_uncovered hinstant hfind
      exact ⟨⟨s', none⟩, by simp [Wait.covers_none.mpr hlast]⟩

theorem HeedsAt.cancelled_of_lasts {s : Session σ} {closing : List Event}
    {call : Option Duration → Call σ α} {instant : Duration} (h : HeedsAt s closing call)
    (hinstant : s.now ≤ instant) (hlasts : Lasts s instant ((call none).run s)) :
    ∃ s', (call (some instant)).run s = .error (.failed .cancelled) s' ∧ s'.now = instant := by
  obtain ⟨waits, hcourse, hends⟩ := h
  obtain ⟨z, hz⟩ := hcourse.covered hinstant hlasts
  have hend := hends instant hinstant
  rw [hz] at hend
  obtain ⟨s', hrun, hs'⟩ := hend
  exact ⟨s', hrun, hs'.now⟩

end Call

namespace Surroundings
open Call (run_bind run_get_bind run_poll run_poll_cancelled run_cancel)

variable {w : Surroundings σ}

theorem run_pause {s : Session σ} (hs : s.cancelled = false) {span : Duration}
    (hspan : span.isZero = false) :
    (w.pause span).run s =
      match w.cancelAt with
      | some instant =>
        if instant ≤ s.now + span then (Call.cancel instant : Call σ Unit).run s
        else .ok () { s with now := s.now + span }
      | none => .ok () { s with now := s.now + span } := by
  simp only [pause, hspan, Bool.not_false, if_true]
  rw [run_bind, run_poll hs]
  dsimp only
  rw [run_get_bind]
  cases w.cancelAt with
  | none => rfl
  | some instant =>
    dsimp only
    split
    · rfl
    · rfl

theorem run_pause_cases (w : Surroundings σ) (span : Duration) (s : Session σ) :
    (w.pause span).run s = .ok () { s with now := s.now + span } ∨
      ∃ stop instant cancelled,
        (w.pause span).run s = .error stop { s with now := instant, cancelled } ∧
          s.now ≤ instant ∧ instant ≤ s.now + span := by
  cases hspan : span.isZero with
  | true =>
    have hnanos : span.nanos = 0 := by simpa [Duration.isZero] using hspan
    have hzero : s.now + span = s.now := congrArg Duration.mk (by rw [hnanos, Nat.add_zero])
    left
    rw [pause, hspan, hzero]
    rfl
  | false =>
    have hlater : s.now ≤ s.now + span := Nat.le_add_right _ _
    by_cases hs : s.cancelled = true
    · right
      refine ⟨.failed .cancelled, s.now, s.cancelled, ?_, Nat.le_refl _, hlater⟩
      simp only [pause, hspan, Bool.not_false, if_true]
      rw [run_bind, run_poll_cancelled hs]
    · rw [run_pause (Bool.not_eq_true _ ▸ hs) hspan]
      cases w.cancelAt with
      | none => exact Or.inl rfl
      | some instant =>
        dsimp only
        split
        · next hinstant =>
          exact Or.inr ⟨_, _, _, rfl, Nat.le_max_left _ _, Nat.max_le.mpr ⟨hlater, hinstant⟩⟩
        · exact Or.inl rfl

end Surroundings
end AnswerStream
