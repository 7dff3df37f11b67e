import AnswerStream.Client.Session
import AnswerStream.Limiter.Sharing

/-!
What a call does to a limiter. It asks for tokens and does nothing else, and it is admitted once for
every token that it takes. So it is a caller of a shared bucket that nobody else asks meanwhile.
-/

namespace AnswerStream

/-- How a limiter moves with the events of a call, from one instant to a later one. A token is there
at once, or comes at the end of a wait; the call is then admitted. A wait that is given up leaves
what the request has left. -/
inductive Limiter.Moves : Limiter → Duration → List Event → Limiter → Duration → Prop
  | rests {b : Limiter} {now later : Duration} {events : List Event} (hlater : now ≤ later)
      (hevents : .admitted ∉ events) : Moves b now events b later
  | passes {b b' : Limiter} {now : Duration} (hrequest : b.request now = (b', .now)) :
      Moves b now [.admitted] b' now
  | waits {b b' : Limiter} {now wait : Duration} (hrequest : b.request now = (b', .after wait)) :
      Moves b now [.admitted] (b'.complete (now + wait) wait) (now + wait)
  | givesUp {b b' : Limiter} {now later wait : Duration}
      (hrequest : b.request now = (b', .after wait)) (hlater : now ≤ later)
      (hwake : later ≤ now + wait) : Moves b now [] b' later
  | trans {b b' b'' : Limiter} {now later last : Duration} {events more : List Event}
      (hfirst : Moves b now events b' later) (hnext : Moves b' later more b'' last) :
      Moves b now (events ++ more) b'' last

namespace SharedBucket

/-- Time goes by, or somebody asks for a token, takes it or gives it up. -/
def Action.isCalling {τ : Type} : Action τ → Bool
  | .tick _ | .ask _ | .enter _ | .wake | .leave _ | .giveUp => true
  | .setEnabled _ | .configure _ _ | .readStats => false

/-- A limiter that nobody asks at the moment, with those whom it has let pass. -/
def atRest (b : Limiter) (now : Duration) (passed : List (Passage Duration)) :
    SharedBucket Float Duration := ⟨b, now, [], none, passed⟩

end SharedBucket

namespace Limiter
open SharedBucket (atRest)

variable {b b' : Limiter} {now later wait : Duration} {events : List Event}
  {passed : List (Passage Duration)}

theorem enabled_of_request {admission : Admission Duration}
    (hrequest : b.request now = (b', admission)) (henabled : b.enabled = true) :
    b'.enabled = true := by
  rw [Bucket.request, if_pos henabled] at hrequest
  dsimp only at hrequest
  split at hrequest <;> cases hrequest <;> exact henabled

theorem run?_enter (actions : List (SharedBucket.Action Duration)) :
    (atRest b now passed).run? (.ask 0 :: .enter 0 :: actions) =
      ((atRest b now passed).attend 0).run? actions := rfl

theorem run?_tick {s : SharedBucket Float Duration} (hlater : s.now ≤ later)
    (actions : List (SharedBucket.Action Duration)) :
    s.run? (.tick later :: actions) = { s with now := later }.run? actions := by
  rw [SharedBucket.run?, List.foldlM_cons, SharedBucket.step?, if_pos hlater]
  rfl

theorem run?_wake {s : SharedBucket Float Duration} {z : Sleeper Duration}
    (hsleeper : s.sleeper = some z) (hover : z.since + z.wait ≤ s.now) :
    s.run? [.wake] = some (s.rouse z) := by
  have hstep : s.step? .wake = some (s.rouse z) := by
    rw [SharedBucket.step?, hsleeper]
    exact if_pos hover
  rw [SharedBucket.run?, List.foldlM_cons, hstep]
  rfl

theorem attend_now (hrequest : b.request now = (b', .now)) (henabled : b.enabled = true) :
    (atRest b now passed).attend 0 = atRest b' now (⟨0, now, .zero⟩ :: passed) := by
  have hasked : (atRest b now passed).bucket.request (atRest b now passed).now = (b', .now) :=
    hrequest
  have hcounts : (atRest b now passed).bucket.enabled = true := henabled
  rw [SharedBucket.attend, hasked]
  dsimp only
  rw [if_pos hcounts]
  rfl

theorem attend_after (hrequest : b.request now = (b', .after wait)) :
    (atRest b now passed).attend 0 =
      { atRest b' now passed with sleeper := some ⟨0, now, wait⟩ } := by
  have hasked : (atRest b now passed).bucket.request (atRest b now passed).now =
      (b', .after wait) := hrequest
  rw [SharedBucket.attend, hasked]
  rfl

/-- A call is a caller of a shared bucket, which has let it pass as often as it was admitted. -/
theorem Moves.exists_run (h : Moves b now events b' later) (henabled : b.enabled = true)
    (passed : List (Passage Duration)) :
    b'.enabled = true ∧ ∃ actions more, (∀ action ∈ actions, action.isCalling = true) ∧
      (atRest b now passed).run? actions = some (atRest b' later (more ++ passed)) ∧
      more.length = events.count .admitted := by
  induction h generalizing passed with
  | @rests b now later events hlater hevents =>
    refine ⟨henabled, [.tick later], [], by simp [SharedBucket.Action.isCalling], ?_, ?_⟩
    · rw [run?_tick hlater]
      rfl
    · rw [List.count_eq_zero_of_not_mem hevents]
      rfl
  | @passes b b' now hrequest =>
    refine ⟨enabled_of_request hrequest henabled, [.ask 0, .enter 0], [⟨0, now, .zero⟩],
      by simp [SharedBucket.Action.isCalling], ?_, rfl⟩
    rw [run?_enter, attend_now hrequest henabled]
    rfl
  | @waits b b' now wait hrequest =>
    have hover : now ≤ now + wait := Nat.le_add_right _ _
    have henabled' : b'.enabled = true := enabled_of_request hrequest henabled
    refine ⟨henabled', [.ask 0, .enter 0, .tick (now + wait), .wake],
      [⟨0, now + wait, wait⟩], by simp [SharedBucket.Action.isCalling], ?_, rfl⟩
    rw [run?_enter, attend_after hrequest, run?_tick hover,
      run?_wake rfl (Nat.le_refl _)]
    rfl
  | @givesUp b b' now later wait hrequest hlater hwake =>
    refine ⟨enabled_of_request hrequest henabled, [.ask 0, .enter 0, .tick later, .giveUp], [],
      by simp [SharedBucket.Action.isCalling], ?_, rfl⟩
    rw [run?_enter, attend_after hrequest, run?_tick hlater]
    rfl
  | trans hfirst hnext ihfirst ihnext =>
    obtain ⟨henabled', actions, passages, hcalling, hrun, hlength⟩ := ihfirst henabled passed
    obtain ⟨henabled'', actions', passages', hcalling', hrun', hlength'⟩ :=
      ihnext henabled' (passages ++ passed)
    refine ⟨henabled'', actions ++ actions', passages' ++ passages, ?_, ?_, ?_⟩
    · exact List.forall_mem_append.mpr ⟨hcalling, hcalling'⟩
    · rw [SharedBucket.run?, List.foldlM_append]
      exact Option.bind_eq_some_iff.mpr ⟨_, hrun, by rw [List.append_assoc]; exact hrun'⟩
    · rw [List.length_append, List.count_append, hlength, hlength', Nat.add_comm]

end Limiter
end AnswerStream
