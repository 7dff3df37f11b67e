import AnswerStream.Client.Listing
import AnswerStream.Proofs.Client.Leaving
import AnswerStream.Proofs.Limiter.Sharing
import AnswerStream.Transport.Transcript

/-!
Every request passes the limiter. An attempt takes its token before it sends anything and sends one
request; so whatever becomes of a call, each of its requests comes behind an admission that no other
request has used.
-/

namespace AnswerStream

variable {σ α β : Type}

/-- Before every request there is an admission with no other request in between. -/
def Covered (events : List Event) : Prop :=
  ∀ before r after, events = before ++ .sent r :: after →
    ∃ earlier between, before = earlier ++ .admitted :: between ∧ requests between = []

namespace Covered

theorem of_quiet {es : List Event} (h : requests es = []) : Covered es := by
  rintro before r after rfl
  rw [requests_append] at h
  cases (List.append_eq_nil_iff.mp h).2

theorem of_admitted {es : List Event} (hes : (requests es).length ≤ 1) :
    Covered (.admitted :: es) := by
  intro before r after h
  cases before with
  | nil => cases h
  | cons e between =>
    rw [List.cons_append] at h
    obtain ⟨rfl, rfl⟩ := List.cons.inj h
    refine ⟨[], between, rfl, ?_⟩
    rw [requests_append, List.length_append] at hes
    change (requests between).length + ((requests after).length + 1) ≤ 1 at hes
    exact List.eq_nil_of_length_eq_zero (by omega)

theorem append {as bs : List Event} (ha : Covered as) (hb : Covered bs) : Covered (as ++ bs) := by
  intro before r after h
  rcases List.append_eq_append_iff.mp h with ⟨rest, rfl, hrest⟩ | ⟨rest, hrest, hsent⟩
  · obtain ⟨earlier, between, rfl, hbetween⟩ := hb rest r after hrest
    exact ⟨as ++ earlier, between, by rw [List.append_assoc], hbetween⟩
  · cases rest with
    | nil =>
      obtain ⟨earlier, between, hnone, -⟩ := hb [] r after hsent.symm
      cases earlier <;> cases hnone
    | cons e rest =>
      obtain ⟨rfl, rfl⟩ := List.cons.inj hsent
      exact ha before r rest hrest

end Covered

namespace Call

theorem Quiet.leaves_covered {x : Call σ α} (hx : Quiet x) : Leaves x Covered :=
  hx.mono fun _ => Covered.of_quiet

theorem Leaves.bind_covered {x : Call σ α} {f : α → Call σ β} (hx : Leaves x Covered)
    (hf : ∀ a, Leaves (f a) Covered) : Leaves (x >>= f) Covered :=
  hx.bind hf (fun _ h => h) fun _ _ => Covered.append

end Call

namespace Surroundings
open Call (Leaves Quiet)

variable {w : Surroundings σ}

theorem leaves_acquire_bind {f : Unit → Call σ α}
    (hf : Leaves (f ()) fun es => (requests es).length ≤ 1) :
    Leaves (w.acquire >>= f) Covered := by
  intro s
  obtain ⟨s', ⟨hrun, hadds⟩ | ⟨e, hrun, hadds⟩⟩ := w.run_acquire s
  · obtain ⟨es, hes, hadds'⟩ := hf s'
    refine ⟨.admitted :: es, .of_admitted hes, ?_⟩
    rw [Call.last, Call.run_bind, hrun]
    exact hadds.trans hadds'
  · refine ⟨[], .of_quiet rfl, ?_⟩
    rw [Call.last, Call.run_bind, hrun]
    exact hadds

theorem leaves_exchange_bind (send : σ → Request → σ × Reply α) (r : Request) {f : α → Call σ β}
    (hf : ∀ a, Quiet (f a)) :
    Leaves (w.exchange send r >>= f) fun es => (requests es).length ≤ 1 := by
  refine (leaves_exchange send r).bind hf (fun es hes => (congrArg _ hes).le) ?_
  intro es es' hes hes'
  rw [requests_append, hes, hes']
  exact le_rfl

theorem quiet_absorb (g : Gathering) (m : Message) : Quiet (w.absorb g m) := by
  unfold Surroundings.absorb
  split
  · have hshown : Quiet (pure ⟨g.assembly.apply m, (g.assembly.apply m).progress?⟩ :
        Call σ Gathering) := .pure _
    dsimp only
    split
    · split
      · exact (quiet_emit _ Event.noConfusion rfl).bind fun _ => hshown
      · exact hshown
    · exact hshown
  · exact .pure _

theorem quiet_absorbAll (g : Gathering) (ds : List Delivery) : Quiet (w.absorbAll g ds) := by
  induction ds generalizing g with
  | nil => exact .pure g
  | cons d rest ih =>
    cases d with
    | error e => exact .throw _
    | ok m =>
      refine (w.quiet_absorb g m).bind fun g => ?_
      split
      · exact .pure g
      · exact ih g

theorem quiet_readBody (ending : Ending) (reader : StreamReader) (g : Gathering)
    (arrivals : List (Duration × Arrival)) : Quiet (w.readBody ending reader g arrivals) := by
  induction arrivals generalizing reader g with
  | nil =>
    cases ending with
    | never => exact quiet_hang
    | closes delay => exact (quiet_pause delay).bind fun _ => quiet_absorbAll g _
  | cons head rest ih =>
    refine (quiet_pause head.1).bind fun _ => (quiet_absorbAll g _).bind fun g => ?_
    split
    · exact .pure g
    · exact ih _ g

theorem leaves_attempt (r : Request) : Leaves (w.attempt r) Covered := by
  refine (quiet_enter _).leaves_covered.bind_covered fun _ => leaves_acquire_bind ?_
  refine Leaves.bind (quiet_enter _) (fun _ => leaves_exchange_bind _ r fun body => ?_)
    (fun es hes => by simp [hes]) fun es es' hes hes' => by
      rwa [requests_append, hes, List.nil_append]
  exact (quiet_enter _).bind fun _ => (quiet_readBody _ _ _ _).bind fun _ => .ofExcept _

section Retries

variable {policy : RetryPolicy} {operation : Call σ α}

theorem leaves_attempts_of_followUp (hoperation : Leaves operation Covered) {left attempt : Nat}
    (hfollow : ∀ e decision, Leaves (w.followUp policy operation attempt e decision left) Covered) :
    Leaves (w.attempts policy operation left attempt) Covered := by
  rw [attempts_eq]
  refine Quiet.poll.leaves_covered.bind_covered fun _ =>
    hoperation.tryCatch (fun stop => ?_) fun _ _ => Covered.append
  cases stop with
  | stuck => exact (Quiet.throw _).leaves_covered
  | failed e => exact quiet_drawNext.leaves_covered.bind_covered fun draw => hfollow e _

theorem leaves_attempts (hoperation : Leaves operation Covered) (left attempt : Nat) :
    Leaves (w.attempts policy operation left attempt) Covered := by
  induction left generalizing attempt with
  | zero =>
    refine leaves_attempts_of_followUp hoperation fun e decision => ?_
    cases decision <;> exact (Quiet.throw _).leaves_covered
  | succ left ih =>
    refine leaves_attempts_of_followUp hoperation fun e decision => ?_
    cases decision with
    | stop => exact (Quiet.throw _).leaves_covered
    | again delay =>
      exact Quiet.poll.leaves_covered.bind_covered fun _ =>
        (quiet_pause delay).leaves_covered.bind_covered fun _ => ih (attempt + 1)

end Retries

theorem leaves_conclude {call : Call σ α} (hcall : Leaves call Covered) :
    Leaves (w.conclude call) Covered := by
  refine Leaves.bind_covered (hcall.tryCatch (fun stop => ?_) fun _ _ => Covered.append)
    fun a => ((quiet_enter _).bind fun _ => .pure a).leaves_covered
  cases stop with
  | stuck => exact (Quiet.throw _).leaves_covered
  | failed e => exact ((quiet_enter _).bind fun _ => .throw _).leaves_covered

end Surroundings

namespace Client
open Call (Leaves Quiet)
open Surroundings

variable {w : Surroundings σ}

theorem leaves_run (c : Client) (q : Query) (ids : FreshIds) : Leaves (c.run w q ids) Covered := by
  refine (quiet_enter _).leaves_covered.bind_covered fun _ => leaves_conclude ?_
  split
  · exact (Quiet.throw _).leaves_covered
  · exact leaves_attempts (leaves_attempt _) _ _

theorem leaves_fetchPage (r : Request) : Leaves (fetchPage w r) Covered :=
  leaves_acquire_bind (leaves_exchange_bind _ r fun _ => .ofExcept _)

theorem leaves_pagesFrom (c : Client) (q : ThreadQuery) (records : List ThreadRecord)
    (total : Option Nat) (offset left : Nat) :
    Leaves (c.pagesFrom w q records total offset left) Covered := by
  induction left generalizing records total offset with
  | zero => exact (Quiet.pure _).leaves_covered
  | succ left ih =>
    refine (leaves_attempts (leaves_fetchPage _) _ _).bind_covered fun entries => ?_
    cases entries with
    | nil => exact (Quiet.pure _).leaves_covered
    | cons first rest =>
      have hnext (records : List ThreadRecord) (count : Nat) :
          Leaves (if first.hasNextPage then c.pagesFrom w q records (some count)
            (offset + pageSize) left
            else pure records) Covered := by
        split
        · exact ih records (some count) (offset + pageSize)
        · exact (Quiet.pure _).leaves_covered
      dsimp only
      split
      · exact (quiet_emit _ Event.noConfusion rfl).leaves_covered.bind_covered fun _ => hnext _ _
      · exact hnext _ _

theorem leaves_list (c : Client) (q : ThreadQuery) : Leaves (c.list w q) Covered :=
  (leaves_pagesFrom c q [] none 0 mostPages).bind_covered fun _ => (Quiet.pure _).leaves_covered

end Client

/-- What lies between two sessions of a call: its events, every request among them covered, and how
the limiter has moved with them. If it is on, it is a bucket with one caller, whom it has let pass
once for every admission. -/
def Session.Limited (s s' : Session σ) : Prop :=
  ∃ events, Covered events ∧ s.Adds events s' ∧
    (s.limiter.enabled = true → ∃ actions passed,
      (∀ action ∈ actions, action.isCalling = true) ∧
        (SharedBucket.start s.limiter s.now).run? actions =
          some ⟨s'.limiter, s'.now, [], none, passed⟩ ∧
        passed.length = events.count .admitted)

theorem Call.Leaves.limited {call : Call σ α} (h : Leaves call Covered) (s : Session σ) :
    s.Limited (call.last s) := by
  obtain ⟨events, hevents, hadds⟩ := h s
  refine ⟨events, hevents, hadds, fun henabled => ?_⟩
  obtain ⟨-, actions, passed, hactions, hrun, hlength⟩ := hadds.moves.exists_run henabled []
  rw [List.append_nil] at hrun
  exact ⟨actions, passed, hactions, hrun, hlength⟩

/-- Whatever the callers of a bucket do that starts full and keeps its settings, those that it
counts as admitted in a span of time are no more than it holds and what comes into it meanwhile. And
whatever becomes of a query or of a listing, each of its requests comes behind an admission of its
own, for which the limiter has given a token, at once or at the end of a wait. -/
theorem requests_limited {σ : Type} :
    (∀ (enabled : Bool) (capacity : Nat) (period begun : Rat) (b : Bucket Rat Rat),
      Bucket.of enabled capacity period begun = .ok b →
      ∀ (actions : List (SharedBucket.Action Rat)) (s : SharedBucket Rat Rat),
        (∀ action ∈ actions, action.isConfigure = false) →
        (SharedBucket.start b begun).run? actions = some s →
        ∀ first span : Rat, 0 ≤ span →
          ((s.passedWithin first (first + span)).length : Rat) ≤
              capacity + capacity * span / period ∧
            s.bucket.admitted = s.passed.length) ∧
    ∀ (c : Client) (w : Surroundings σ) (s : Session σ),
      (∀ (q : Query) (ids : FreshIds), s.Limited ((c.run w q ids).last s)) ∧
      ∀ q : ThreadQuery, s.Limited ((c.list w q).last s) := by
  constructor
  · intro enabled capacity period begun b hof actions s hkeeps hrun first span hspan
    exact SharedBucket.length_passedWithin_le hof hkeeps hrun first hspan
  · intro c w s
    constructor
    · intro q ids
      exact (c.leaves_run q ids).limited s
    · intro q
      exact (c.leaves_list q).limited s

/-- A token in two seconds. One call takes it, the next is given up in its wait, and the third
oversleeps. -/
def contended : List (SharedBucket.Action Rat) :=
  [.ask 0, .ask 1, .enter 0, .enter 1, .ask 2, .tick 1, .giveUp, .enter 2, .tick 3, .wake]

theorem requests_limited_contended :
    let begun : SharedBucket Rat Rat := .start (.full true 1 2 0) 0
    let c : Client := ⟨.standard, .standard, "token"⟩
    let w : Surroundings Transcript := ⟨Transcript.transport, id, none, fun _ => false, .all⟩
    let s : Session Transcript :=
      ⟨.zero, .full true 1 (.ofSecs 2) .zero, .ofExchanges [], false, 0, []⟩
    (∃ s, begun.run? contended = some s ∧ s.passed = [⟨2, 3, 1⟩, ⟨0, 0, 0⟩] ∧
      ((s.passedWithin 0 (0 + 3)).length : Rat) ≤ 1 + 1 * 3 / 2) ∧
    s.Limited ((c.run w (.ofText "why") ⟨"front", "context"⟩).last s) := by
  intro begun c w s
  obtain ⟨hbucket, hcalls⟩ := @requests_limited Transcript
  refine ⟨?_, (hcalls c w s).1 _ _⟩
  have hpassed : (begun.run? contended).map (·.passed) = some [⟨2, 3, 1⟩, ⟨0, 0, 0⟩] := by
    decide +kernel
  obtain ⟨s, hrun, hlog⟩ := Option.map_eq_some_iff.mp hpassed
  have hof : Bucket.of true 1 2 0 = .ok (.full true 1 2 0 : Bucket Rat Rat) :=
    Bucket.of_eq_ok_iff.mpr ⟨by decide, by decide, rfl⟩
  have hbound := hbucket true 1 2 0 _ hof contended s (by decide) hrun 0 3 (by decide)
  exact ⟨s, hrun, hlog, by simpa using hbound.1⟩

end AnswerStream
