import AnswerStream.Client.Basic
import AnswerStream.Proofs.Retry.Deciding

/-!
The spans that a call waits for. They are computed without a bound and stand for durations, which
have one: here is how far the two agree.
-/

namespace AnswerStream

/-- The seconds that a limiter is short of a token. -/
def Limiter.lacking (b : Limiter) (now : Duration) : Float :=
  Metering.div (Metering.sub (Metering.ofNat 1) (b.refill now).tokens) (b.refill now).rate

theorem Limiter.wait_of_request {b : Limiter} {now wait : Duration}
    (h : (b.request now).2 = .after wait) :
    wait = (Duration.ofSeconds? (b.lacking now)).getD .zero := by
  rw [Bucket.request] at h
  split at h
  · dsimp only at h
    split at h
    · cases h
    · exact (Admission.after.inj h).symm
  · cases h

/-- What a call of a client waits for is what it would wait for with every number in its word. For
the delays this takes a policy whose delays are durations, and for a limiter seconds that are one.
-/
def Client.KeepsTime (c : Client) : Prop :=
  (c.policy.InWords → ∀ e attempt draw,
    c.policy.decide? e attempt draw = some (c.policy.decide e attempt draw)) ∧
  ∀ (b : Limiter) (now wait span : Duration), (b.request now).2 = .after wait →
    Duration.ofSeconds? (b.lacking now) = some span → wait = span

theorem Client.keepsTime (c : Client) : c.KeepsTime := by
  refine ⟨fun h => h.decide?_eq, fun b now wait span hrequest hspan => ?_⟩
  rw [Limiter.wait_of_request hrequest, hspan]
  rfl

end AnswerStream
