import AnswerStream.Client.Listing
import AnswerStream.Client.Run
import AnswerStream.Proofs.Client.Retrying
import AnswerStream.Proofs.Client.Waiting
import AnswerStream.Proofs.Limiter.Abandoning
import AnswerStream.Proofs.Limiter.Accounts

/-!
Cancelling queries and listings from outside. Wherever such a call waits, for its token, for a
reply, for more of a body, or before a repetition, its cancellation ends it.
-/

namespace AnswerStream

variable {σ α : Type}

namespace Surroundings
open Call (Heeds run_bind run_get_bind run_poll run_poll_cancelled run_cancel)

/-- The same surroundings, where a call is cancelled at an instant or not at all. -/
def cancelling (w : Surroundings σ) (cancelAt : Option Duration) : Surroundings σ :=
  { w with cancelAt }

variable {w : Surroundings σ} {closing : List Event}

theorem heeds_drawNext : Heeds closing fun cancelAt => (w.cancelling cancelAt).drawNext :=
  .of_works fun s hs =>
    ⟨{ s with drawn := s.drawn + 1 }, ⟨rfl, hs, List.suffix_rfl⟩, Or.inl ⟨w.draw s.drawn, rfl⟩⟩

/-- An acquire that does not come to its end has taken no token, and is not counted. -/
theorem run_acquire_error {s s' : Session σ} {stop : Stop} (h : w.acquire.run s = .error stop s') :
    s'.limiter = s.limiter.refill s.now ∧ s'.trace = s.trace := by
  unfold acquire at h
  rw [run_get_bind] at h
  rcases hrequest : s.limiter.request s.now with ⟨limiter, _ | wait⟩
  · rw [hrequest] at h
    cases h
  · obtain ⟨-, rfl⟩ := Bucket.request_eq_after hrequest
    rw [hrequest] at h
    change ((w.pause wait) >>= _ : Call σ Unit).run
      { s with limiter := s.limiter.refill s.now } = _ at h
    rw [run_bind] at h
    obtain hpause | ⟨e, instant, cancelled, hpause, -⟩ :=
      w.run_pause_cases wait { s with limiter := s.limiter.refill s.now }
    · rw [hpause] at h
      cases h
    · rw [hpause] at h
      cases h
      exact ⟨rfl, rfl⟩

theorem heeds_pause (span : Duration) :
    Heeds [] fun cancelAt => (w.cancelling cancelAt).pause span := by
  cases hspan : span.isZero with
  | true =>
    have hnone (cancelAt : Option Duration) : (w.cancelling cancelAt).pause span = pure () := by
      unfold pause
      rw [hspan]
      rfl
    simp only [hnone]
    exact Heeds.pure ()
  | false =>
    intro s hs
    have hwake : s.now < s.now + span := by
      have hpos : span.nanos ≠ 0 := by simpa [Duration.isZero] using hspan
      simp only [Duration.lt_iff, Duration.nanos_add]
      omega
    refine ⟨[⟨s, some (s.now + span)⟩], ?_, fun instant hinstant => ?_⟩
    · rw [run_pause hs hspan]
      exact .ok (.waits (.refl hs) hwake (.works (.refl hs)))
    · rw [run_pause hs hspan, run_pause hs hspan]
      simp only [cancelling]
      by_cases hbefore : instant ≤ s.now + span
      · rw [if_pos hbefore, run_cancel hinstant,
          List.find?_singleton, if_pos (Wait.covers_some.mpr ⟨hinstant, hbefore⟩)]
        exact ⟨s.cut instant, rfl, .refl rfl⟩
      · rw [if_neg hbefore, List.find?_singleton,
          if_neg fun hcovers => hbefore (Wait.covers_some.mp hcovers).2]
        rfl

theorem heeds_hang : Heeds [] fun cancelAt => ((w.cancelling cancelAt).hang : Call σ α) := by
  intro s hs
  have hnever : ((w.cancelling none).hang : Call σ α).run s = .error .stuck s := by
    unfold hang
    rw [run_bind, run_poll hs]
    rfl
  have hlater (instant : Duration) : ((w.cancelling (some instant)).hang : Call σ α).run s =
      (Call.cancel instant : Call σ α).run s := by
    unfold hang
    rw [run_bind, run_poll hs]
    rfl
  refine ⟨[⟨s, none⟩], ?_, fun instant hinstant => ?_⟩
  · rw [hnever]
    exact .stuck (.works (.refl hs))
  · rw [hnever, hlater, run_cancel hinstant, List.find?_singleton,
      if_pos (Wait.covers_none.mpr hinstant)]
    exact ⟨s.cut instant, rfl, .refl rfl⟩

section Unobserved

variable (hw : ∀ trace, w.cancelOn trace = false)
include hw

theorem heeds_emit (e : Event) : Heeds closing fun cancelAt => (w.cancelling cancelAt).emit e := by
  refine Heeds.modify fun s hs => ⟨rfl, ?_, List.suffix_cons e s.trace⟩
  show (s.cancelled || w.cancelOn (e :: s.trace)) = false
  rw [hs, hw, Bool.or_false]

theorem heeds_enter (stage : Stage) :
    Heeds closing fun cancelAt => (w.cancelling cancelAt).enter stage := by
  unfold enter
  show Heeds closing fun cancelAt =>
    if w.watch.stages = true then (w.cancelling cancelAt).emit (.entered stage) else pure ()
  split
  · exact heeds_emit hw _
  · exact Heeds.pure ()

theorem heeds_acquire : Heeds [] fun cancelAt => (w.cancelling cancelAt).acquire := by
  intro s hs
  rcases hrequest : s.limiter.request s.now with ⟨limiter, _ | wait⟩
  · refine (heeds_emit hw .admitted { s with limiter } hs).after_works ⟨rfl, hs, List.suffix_rfl⟩ ?_
    intro cancelAt
    unfold acquire
    rw [run_get_bind, hrequest]
    rfl
  · have hcomplete : Heeds [] fun _ =>
        (modify fun s => { s with limiter := s.limiter.complete s.now wait } : Call σ Unit) :=
      Heeds.modify fun s hs => ⟨rfl, hs, List.suffix_rfl⟩
    have hrest := (heeds_pause (w := w) wait).bind fun _ => hcomplete.bind fun _ =>
        heeds_emit hw .admitted
    refine (hrest { s with limiter } hs).after_works ⟨rfl, hs, List.suffix_rfl⟩ ?_
    intro cancelAt
    unfold acquire
    rw [run_get_bind, hrequest]
    rfl

theorem heeds_exchange (send : σ → Request → σ × Reply α) (r : Request) :
    Heeds [] fun cancelAt => (w.cancelling cancelAt).exchange send r := by
  intro s hs
  rcases hsend : send s.transport r with ⟨transport, ⟨delay, result⟩ | _⟩
  · have hrest := (heeds_emit hw (.sent r)).bind fun _ => (heeds_pause (w := w) delay).bind fun _ =>
      Heeds.ofExcept (σ := σ) (result.mapError .ofTransport)
    refine (hrest { s with transport } hs).after_works ⟨rfl, hs, List.suffix_rfl⟩ ?_
    intro cancelAt
    unfold exchange
    rw [run_get_bind, hsend]
    rfl
  · have hrest := (heeds_emit hw (.sent r)).bind fun _ => heeds_hang (w := w) (α := α)
    refine (hrest { s with transport } hs).after_works ⟨rfl, hs, List.suffix_rfl⟩ ?_
    intro cancelAt
    unfold exchange
    rw [run_get_bind, hsend]
    rfl

theorem heeds_absorb (g : Gathering) (m : Message) :
    Heeds [] fun cancelAt => (w.cancelling cancelAt).absorb g m := by
  have hshown : Heeds [] fun _ => (pure ⟨g.assembly.apply m, (g.assembly.apply m).progress?⟩ :
      Call σ Gathering) := Heeds.pure _
  show Heeds [] fun _ => w.absorb g m
  unfold absorb
  split
  · dsimp only
    split
    · split
      · exact (heeds_emit hw _).bind fun _ => hshown
      · exact hshown
    · exact hshown
  · exact Heeds.pure _

theorem heeds_absorbAll (g : Gathering) (ds : List Delivery) :
    Heeds [] fun cancelAt => (w.cancelling cancelAt).absorbAll g ds := by
  induction ds generalizing g with
  | nil => exact Heeds.pure g
  | cons d rest ih =>
    cases d with
    | error e => exact Heeds.ofExcept (.error e)
    | ok m =>
      refine (heeds_absorb hw g m).bind fun g => ?_
      split
      · exact Heeds.pure g
      · exact ih g

theorem heeds_readBody (ending : Ending) (reader : StreamReader) (g : Gathering)
    (arrivals : List (Duration × Arrival)) :
    Heeds [] fun cancelAt => (w.cancelling cancelAt).readBody ending reader g arrivals := by
  induction arrivals generalizing reader g with
  | nil =>
    cases ending with
    | never => exact heeds_hang
    | closes delay => exact (heeds_pause delay).bind fun _ => heeds_absorbAll hw g _
  | cons head rest ih =>
    refine (heeds_pause head.1).bind fun _ => (heeds_absorbAll hw g _).bind fun g => ?_
    split
    · exact Heeds.pure g
    · exact ih _ g

theorem heeds_attempt (r : Request) : Heeds [] fun cancelAt => (w.cancelling cancelAt).attempt r :=
  (heeds_enter hw .rateLimited).bind fun _ => (heeds_acquire hw).bind fun _ =>
    (heeds_enter hw .connecting).bind fun _ =>
      (heeds_exchange hw w.transport.stream r).bind fun body =>
      (heeds_enter hw .streaming).bind fun _ =>
        (heeds_readBody hw body.ending .start .empty body.arrivals).bind fun g =>
          Heeds.ofExcept g.assembly.finalize

end Unobserved

section Retries

variable {policy : RetryPolicy} {operation : Option Duration → Call σ α}

theorem followUp_cancelled (call : Call σ α) (attempt draw left : Nat) :
    w.followUp policy call attempt .cancelled (policy.decide .cancelled attempt draw) left =
      Call.fail .cancelled := by
  have hstop : policy.decide .cancelled attempt draw = .stop := rfl
  rw [hstop]
  rfl

theorem heeds_attempts_of_followUp (hoperation : Heeds [] operation) {left attempt : Nat}
    (hfollow : ∀ e decision, Heeds [] fun cancelAt =>
      (w.cancelling cancelAt).followUp policy (operation cancelAt) attempt e decision left) :
    Heeds [] fun cancelAt => (w.cancelling cancelAt).attempts policy
      (operation cancelAt) left attempt := by
  simp only [attempts_eq]
  refine Heeds.poll.bind fun _ => hoperation.tryCatch (fun _ => rfl) ?failed ?cancelled
  case failed =>
    intro e
    exact heeds_drawNext.bind fun draw => hfollow e _
  case cancelled =>
    intro cancelAt s hs
    refine ⟨{ s with drawn := s.drawn + 1 }, ?_, ⟨rfl, hs, rfl, rfl, rfl⟩⟩
    simp only [followUp_cancelled]
    rfl

/-- Between its attempts a call waits, and it starts none once it has been cancelled. -/
theorem heeds_attempts (hoperation : Heeds [] operation) (left attempt : Nat) :
    Heeds [] fun cancelAt => (w.cancelling cancelAt).attempts policy
      (operation cancelAt) left attempt := by
  induction left generalizing attempt with
  | zero =>
    refine heeds_attempts_of_followUp hoperation fun e decision => ?_
    cases decision with
    | stop => exact Heeds.ofExcept (.error _)
    | again delay => exact Heeds.ofExcept (.error _)
  | succ left ih =>
    refine heeds_attempts_of_followUp hoperation fun e decision => ?_
    cases decision with
    | stop => exact Heeds.ofExcept (.error _)
    | again delay =>
      exact Heeds.poll.bind fun _ => (heeds_pause delay).bind fun _ => ih (attempt + 1)

theorem run_withRetries_cancelled (call : Call σ α) {s : Session σ} (hs : s.cancelled = true) :
    (w.withRetries policy call).run s = .error (.failed .cancelled) s := by
  rw [withRetries, attempts_eq, run_bind, run_poll_cancelled hs]

end Retries

theorem run_enter_cancelled {s : Session σ} (hs : s.cancelled = true) (stage : Stage) :
    ∃ s', (w.enter stage).run s = .ok () s' ∧ s.Closes (w.staged stage) s' := by
  unfold enter staged
  split
  · refine ⟨{ s with trace := .entered stage :: s.trace }, ?_, ⟨rfl, hs, rfl, rfl, rfl⟩⟩
    show EStateM.Result.ok () { s with
      trace := .entered stage :: s.trace
      cancelled := s.cancelled || w.cancelOn (.entered stage :: s.trace) } = _
    rw [hs, Bool.true_or]
  · exact ⟨s, rfl, .refl hs⟩

theorem run_enter_fail_cancelled {s : Session σ} (hs : s.cancelled = true) :
    ∃ s', (do w.enter .failed; Call.fail .cancelled : Call σ α).run s =
      .error (.failed .cancelled) s' ∧
      s.Closes (w.staged .failed) s' := by
  obtain ⟨s', hrun, hcloses⟩ := w.run_enter_cancelled hs .failed
  exact ⟨s', by rw [run_bind, hrun]; rfl, hcloses⟩

theorem heeds_conclude (hw : ∀ trace, w.cancelOn trace = false) {call : Option Duration → Call σ α}
    (hcall : Heeds [] call) :
    Heeds (w.staged .failed) fun cancelAt => (w.cancelling cancelAt).conclude (call cancelAt) := by
  refine Heeds.bind (hcall.tryCatch (fun _ => rfl) ?failed ?cancelled) fun a => ?complete
  case failed =>
    intro e
    exact (heeds_enter hw .failed).bind fun _ => Heeds.ofExcept (.error e)
  case cancelled =>
    intro cancelAt s hs
    exact (w.cancelling cancelAt).run_enter_fail_cancelled hs
  case complete => exact (heeds_enter hw .complete).bind fun _ => Heeds.pure a

end Surroundings

namespace Client
open Call (Heeds run_bind)
open Surroundings

variable {w : Surroundings σ}

theorem run_cancelled_before (c : Client) {q : Query} (ids : FreshIds)
    (hblank : Text.isBlank q.text = false) {s : Session σ} (hs : s.cancelled = true) :
    ∃ s', (c.run w q ids).run s = .error (.failed .cancelled) s' ∧
      s.Closes (w.staged .idle ++ w.staged .failed) s' := by
  obtain ⟨s₁, hidle, hs₁⟩ := w.run_enter_cancelled hs .idle
  obtain ⟨s', hfail, hs'⟩ := (w.run_enter_fail_cancelled hs₁.cancelled : ∃ s',
    (do w.enter .failed; Call.fail .cancelled : Call σ Answer).run s₁ = _ ∧ _)
  refine ⟨s', ?_, hs₁.trans hs'⟩
  unfold run conclude
  rw [hblank, run_bind, hidle]
  dsimp only
  rw [if_neg Bool.false_ne_true, run_bind, Call.run_tryCatch,
    run_withRetries_cancelled _ hs₁.cancelled]
  dsimp only
  rw [hfail]

theorem list_cancelled_before (c : Client) (q : ThreadQuery) {s : Session σ}
    (hs : s.cancelled = true) :
    (c.list w q).run s = .error (.failed .cancelled) s := by
  have hmost : mostPages = (mostPages - 1) + 1 := rfl
  unfold list
  rw [hmost, pagesFrom, run_bind, run_bind, run_withRetries_cancelled _ hs]

section Unobserved

variable (hw : ∀ trace, w.cancelOn trace = false)
include hw

theorem heeds_run (c : Client) (q : Query) (ids : FreshIds) :
    Heeds (w.staged .failed) fun cancelAt => c.run (w.cancelling cancelAt) q ids := by
  refine (heeds_enter hw .idle).bind fun _ => heeds_conclude hw ?_
  split
  · exact Heeds.ofExcept (.error _)
  · exact heeds_attempts (heeds_attempt hw _) _ _

theorem heeds_fetchPage (r : Request) :
    Heeds [] fun cancelAt => fetchPage (w.cancelling cancelAt) r :=
  (heeds_acquire hw).bind fun _ => (heeds_exchange hw w.transport.post r).bind fun _ =>
    Heeds.ofExcept _

theorem heeds_pagesFrom (c : Client) (q : ThreadQuery) (records : List ThreadRecord)
    (total : Option Nat) (offset left : Nat) :
    Heeds [] fun cancelAt => c.pagesFrom (w.cancelling cancelAt) q records total offset left := by
  induction left generalizing records total offset with
  | zero => exact Heeds.pure _
  | succ left ih =>
    refine (heeds_attempts (heeds_fetchPage hw _) _ _).bind fun entries => ?_
    cases entries with
    | nil => exact Heeds.pure _
    | cons first rest =>
      have hnext (records : List ThreadRecord) (count : Nat) : Heeds [] fun cancelAt =>
          if first.hasNextPage then
            c.pagesFrom (w.cancelling cancelAt) q records (some count) (offset + pageSize) left
          else pure records := by
        split
        · exact ih records (some count) (offset + pageSize)
        · exact Heeds.pure _
      have hwatch (cancelAt : Option Duration) :
          (w.cancelling cancelAt).watch.pages = w.watch.pages := rfl
      simp only [hwatch]
      cases w.watch.pages with
      | true => exact (heeds_emit hw _).bind fun _ => hnext _ _
      | false => exact hnext _ _

theorem heeds_list (c : Client) (q : ThreadQuery) :
    Heeds [] fun cancelAt => c.list (w.cancelling cancelAt) q :=
  (heeds_pagesFrom hw c q [] none 0 mostPages).bind fun _ => Heeds.pure _

end Unobserved
end Client

/-- A server that denies whatever it is asked for, five nanoseconds later. -/
def denying : Transport Nat where
  post n _ := (n + 1, .after ⟨5⟩ (.error (.status 404 "")))
  stream n _ := (n + 1, .after ⟨5⟩ (.error (.status 404 "")))

/-- A bucket of one token, which a call has taken; the next has asked. -/
def emptied : List (SharedBucket.Action Rat) := [.ask 0, .enter 0, .ask 1]

end AnswerStream
