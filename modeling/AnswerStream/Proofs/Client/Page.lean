import AnswerStream.Client.Listing
import AnswerStream.Proofs.Client.Outcome

/-!
What one page of a listing comes to. A page is asked for until a reply is no transient failure, or
until the policy has it given up; what is told in a page is a number of 64 bits.
-/

namespace AnswerStream
open Json (Node)

variable {σ : Type}

/-- What a reply to a request for a page amounts to by itself. -/
def pageOutcome : Except TransportError Response → Except Failure (List ThreadEntry)
  | .error e => .error (.ofTransport e)
  | .ok response => ThreadEntry.ofResponse response

theorem Json.Node.read_of_mem_list? {α : Type} {read : Node → Option α} {n : Node} {as : List α}
    (h : n.list? read = some as) : ∀ a ∈ as, ∃ item, read item = some a := by
  cases n with
  | array items =>
    change items.mapM read = some as at h
    induction items generalizing as with
    | nil =>
      cases h
      rintro a ⟨⟩
    | cons item items ih =>
      simp only [List.mapM_cons, Option.bind_eq_bind, Option.bind_eq_some_iff] at h
      obtain ⟨a, ha, rest, hrest, ⟨⟩⟩ := h
      rintro b (_ | ⟨_, hb⟩)
      · exact ⟨item, ha⟩
      · exact ih hrest b hb
  | _ => cases h

theorem Json.Node.lt_of_natural? {bound k : Nat} {n : Node} (h : n.natural? bound = some k) :
    k < bound := by
  rw [natural?] at h
  split at h
  · obtain ⟨hlt, ⟨⟩⟩ := Option.ite_none_right_eq_some.mp h
    exact hlt
  · cases h

theorem ThreadEntry.totalThreads_lt_of_ofNode? {n : Node} {e : ThreadEntry} {k : Nat}
    (h : ofNode? n = some e) (hk : e.totalThreads = some k) : k < Nat.pow 2 64 := by
  simp only [ofNode?, Option.bind_eq_bind, Option.bind_eq_some_iff, Option.some.injEq] at h
  obtain ⟨r, -, title, -, slug, -, lastQuery, -, hasNextPage, -, total, htotal, rfl⟩ := h
  subst hk
  rw [Json.Record.default?] at htotal
  split at htotal
  · cases htotal
  · unfold Node.nullable? at htotal
    split at htotal
    · cases htotal
    · obtain ⟨k', hk', ⟨⟩⟩ := Option.map_eq_some_iff.mp htotal
      exact Node.lt_of_natural? hk'

theorem ThreadEntry.totalThreads_lt {r : Response} {entries : List ThreadEntry}
    (h : ofResponse r = .ok entries) {e : ThreadEntry} (he : e ∈ entries) {k : Nat}
    (hk : e.totalThreads = some k) : k < Nat.pow 2 64 := by
  simp only [ofResponse] at h
  split at h
  · split at h
    · next hpage =>
      cases h
      obtain ⟨n, -, hlist⟩ := Option.bind_eq_some_iff.mp hpage
      obtain ⟨item, hitem⟩ := Node.read_of_mem_list? hlist e he
      exact totalThreads_lt_of_ofNode? hitem hk
    · cases h
  · cases h

namespace Transport

/-- The state of a transport that a request has been posted to some number of times. -/
def posted (tr : Transport σ) (r : Request) (t : σ) : Nat → σ
  | 0 => t
  | n + 1 => (tr.post (tr.posted r t n) r).1

/-- A transport that answers a request posted `n` times with the replies of a script, each in its
own time. -/
def Answers (tr : Transport σ) (r : Request) (t : σ) (n : Nat)
    (script : Nat → Except TransportError Response) : Prop :=
  ∀ i < n, ∃ delay, (tr.post (tr.posted r t i) r).2 = .after delay (script i)

/-- A transport that answers a request for a page, posted as often as the policy has it, in the end
with some result: the first that is not a transient failure, or the report that there were too many
of these. -/
inductive Brings (tr : Transport σ) (policy : RetryPolicy) (r : Request) (t : σ) :
    (sent : Nat) → Except Failure (List ThreadEntry) → Prop
  | settled {script : Nat → Except TransportError Response} {k : Nat}
    (hk : k < policy.maxAttempts) (hanswers : tr.Answers r t (k + 1) script)
    (htransient : ∀ i < k, Transient (pageOutcome (script i)))
    (hfinal : ¬ Transient (pageOutcome (script k))) :
    Brings tr policy r t (k + 1) (pageOutcome (script k))
  | exhausted {script : Nat → Except TransportError Response} {e : Failure}
    (hanswers : tr.Answers r t policy.maxAttempts script)
    (htransient : ∀ i < policy.maxAttempts, Transient (pageOutcome (script i)))
    (hlast : pageOutcome (script (policy.maxAttempts - 1)) = .error e) :
    Brings tr policy r t policy.maxAttempts (.error (.retryExhausted policy.maxAttempts e))

end Transport

namespace Client
open Call (Yields)

variable {c : Client} {w : Surroundings σ} {r : Request} {t t' : σ}

theorem yields_fetchPage (hw : w.Calm) {delay : Duration} {reply : Except TransportError Response}
    (hpost : w.transport.post t r = (t', .after delay reply)) :
    Yields (fetchPage w r) t (pageOutcome reply) t' [.admitted, .sent r] := by
  have hexchange := hw.exchange hpost
  change Yields _ t _ t' ([.admitted] ++ [.sent r])
  refine (hw.acquire t).bind_ok ?_
  cases reply with
  | error e => exact hexchange.bind_error _
  | ok response => exact hexchange.bind_silent (.ofExcept _ t')

theorem yields_attempts_posted (hw : w.Calm) {script : Nat → Except TransportError Response}
    {n : Nat} (hanswers : w.transport.Answers r t n script) :
    ∀ i < n, Yields (fetchPage w r) (w.transport.posted r t i) (pageOutcome (script i))
      (w.transport.posted r t (i + 1)) [.admitted, .sent r] := by
  intro i hi
  obtain ⟨delay, hreply⟩ := hanswers i hi
  exact yields_fetchPage hw (Prod.ext rfl hreply)

/-- The events of a page that is asked for some number of times. -/
def fetched (r : Request) (sent : Nat) : List Event :=
  (List.range sent).flatMap fun _ => [.admitted, .sent r]

theorem requests_fetched (r : Request) (sent : Nat) :
    requests (fetched r sent) = List.replicate sent r := by
  have hone : requests [.admitted, .sent r] = [r] := rfl
  rw [requests, fetched, List.filterMap_flatMap]
  change (List.range sent).flatMap (fun _ => requests [.admitted, .sent r]) = _
  rw [hone, ← List.map_eq_flatMap, List.map_const', List.length_range]

/-- A page comes to what the transport brings in the end. -/
theorem yields_page (hw : w.Calm) {sent : Nat} {result : Except Failure (List ThreadEntry)}
    (hbrings : w.transport.Brings c.policy r t sent result) :
    Yields (w.withRetries c.policy (fetchPage w r)) t result (w.transport.posted r t sent)
      (fetched r sent) := by
  cases hbrings with
  | settled hk hanswers htransient hfinal =>
    have hattempts := yields_attempts_posted hw hanswers
    exact hw.withRetries_first (fun i hi => hattempts i (Nat.lt_succ_of_le hi)) hk htransient hfinal
  | exhausted hanswers htransient hlast =>
    obtain ⟨e, he, -, hrun⟩ :=
      hw.withRetries_exhausted (yields_attempts_posted hw hanswers) htransient
    rw [hlast] at he
    cases he
    exact hrun

end Client
end AnswerStream
