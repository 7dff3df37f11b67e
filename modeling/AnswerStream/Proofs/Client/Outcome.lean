import AnswerStream.Proofs.Client.Attempt
import AnswerStream.Proofs.Client.Retrying
import AnswerStream.Proofs.Client.Timing

/-!
What a query comes to. Every attempt sends the same request and meets one reply; the first reply
that does not amount to a transient failure decides, and where there is none the query is given up.
-/

namespace AnswerStream

variable {σ α : Type}

def Event.sent? : Event → Option Request
  | .sent r => some r
  | _ => none

/-- The requests among events. -/
def requests (events : List Event) : List Request := events.filterMap Event.sent?

namespace Transport

/-- The state of a transport that has been sent a request some number of times. -/
def after (tr : Transport σ) (r : Request) (t : σ) : Nat → σ
  | 0 => t
  | n + 1 => (tr.stream (tr.after r t n) r).1

/-- A transport that answers a request sent `n` times with the replies of a script, each in its own
time. -/
def Serves (tr : Transport σ) (r : Request) (t : σ) (n : Nat)
    (script : Nat → Except TransportError Body) : Prop :=
  ∀ i < n, ∃ delay, (tr.stream (tr.after r t i) r).2 = .after delay (script i)

end Transport

/-- The stage in which a call ends. -/
def Stage.ofResult : Except Failure α → Stage
  | .ok _ => .complete
  | .error _ => .failed

theorem requests_append (as bs : List Event) : requests (as ++ bs) = requests as ++ requests bs :=
  List.filterMap_append

namespace Gathering

variable {watching : Bool}

theorem requests_notices (g : Gathering) (m : Message) : requests (g.notices watching m) = [] := by
  unfold notices requests
  cases watching with
  | false => rfl
  | true => simp [List.filterMap_map, Event.sent?, Function.comp_def]

theorem requests_addAll (g : Gathering) (ds : List Delivery) :
    requests (g.addAll watching ds).1 = [] := by
  induction ds generalizing g with
  | nil => rfl
  | cons d rest ih =>
    cases d with
    | error e => rfl
    | ok m =>
      rw [addAll]
      split
      · exact g.requests_notices m
      · rw [requests_append, g.requests_notices m, ih]
        rfl

end Gathering

namespace Surroundings
open Call (Yields)

variable {w : Surroundings σ} {t t' : σ}

theorem requests_staged (w : Surroundings σ) (stage : Stage) : requests (w.staged stage) = [] := by
  unfold staged
  split <;> rfl

theorem requests_attempted (w : Surroundings σ) (r : Request) (reply : Except TransportError Body) :
    requests (w.attempted r reply) = [r] := by
  have hsent : requests [.sent r] = [r] := rfl
  have hadmitted : requests [.admitted] = [] := rfl
  unfold attempted
  simp only [requests_append, requests_staged, hsent, hadmitted, List.nil_append]
  cases reply with
  | error e => rfl
  | ok body =>
    simp only [requests_append, requests_staged, Gathering.requests_addAll, List.append_nil]

theorem Calm.conclude (hw : w.Calm) {call : Call σ α} {result : Except Failure α} {es : List Event}
    (hcall : Yields call t result t' es) :
    Yields (w.conclude call) t result t' (es ++ w.staged (.ofResult result)) := by
  unfold Surroundings.conclude
  cases result with
  | ok a =>
    exact (hcall.tryCatch_ok _).bind_ok ((hw.enter .complete t').bind_silent (.pure a t'))
  | error e =>
    have hfailed : Yields (do
        w.enter .failed
        Call.fail e : Call σ α) t' (.error e) t' (w.staged .failed) :=
      Yields.bind_silent (hw.enter .failed t') (.fail e t')
    exact (hcall.tryCatch_error hfailed).bind_error _

end Surroundings

namespace Client
open Call (Yields)
open Sse (FrameReader LineDecoder)

variable {c : Client} {w : Surroundings σ} {q : Query} {ids : FreshIds} {t t' : σ}

/-- The events of a query whose attempts meet the first replies of a script. -/
def ran (c : Client) (w : Surroundings σ) (q : Query) (ids : FreshIds)
    (script : Nat → Except TransportError Body) (attempts : Nat) (result : Except Failure Answer) :
    List Event :=
  w.staged .idle ++ ((List.range attempts).flatMap fun i =>
    w.attempted (c.queryRequest q ids) (script i)) ++ w.staged (.ofResult result)

theorem requests_ran (script : Nat → Except TransportError Body) (attempts : Nat)
    (result : Except Failure Answer) :
    requests (c.ran w q ids script attempts result) =
      List.replicate attempts (c.queryRequest q ids) := by
  unfold ran
  simp only [requests_append, Surroundings.requests_staged, List.nil_append, List.append_nil]
  induction attempts with
  | zero => rfl
  | succ n ih =>
    rw [List.range_succ, List.flatMap_append, requests_append, ih, List.flatMap_singleton,
      Surroundings.requests_attempted, List.replicate_succ']

theorem yields_run (hw : w.Calm) (htext : Text.isBlank q.text = false)
    {result : Except Failure Answer} {es : List Event}
    (hretries : Yields (w.withRetries c.policy (w.attempt (c.queryRequest q ids))) t result t' es) :
    Yields (c.run w q ids) t result t'
      (w.staged .idle ++ es ++ w.staged (.ofResult result)) := by
  unfold run
  rw [htext, if_neg Bool.false_ne_true, List.append_assoc]
  exact (hw.enter .idle t).bind_ok (hw.conclude hretries)

theorem yields_attempts (hw : w.Calm) {script : Nat → Except TransportError Body} {n : Nat}
    {r : Request} (hserves : w.transport.Serves r t n script)
    (hsettles : ∀ i < n, ∀ body, script i = .ok body → body.Settles) :
    ∀ i < n, Yields (w.attempt r) (w.transport.after r t i) (outcome (script i))
      (w.transport.after r t (i + 1)) (w.attempted r (script i)) := by
  intro i hi
  obtain ⟨delay, hreply⟩ := hserves i hi
  exact hw.attempt (Prod.ext rfl hreply) (hsettles i hi)

/-- A query that nothing cancels comes to the outcome of the first reply that is not a transient
failure, after as many requests, all of them the same. Where every reply that the policy allows for
is one, it is given up after that many requests, and the last of the failures is named as the
source. -/
theorem run_outcome {script : Nat → Except TransportError Body} (hw : w.Calm)
    (htext : Text.isBlank q.text = false)
    (hserves : w.transport.Serves (c.queryRequest q ids) t c.policy.maxAttempts script)
    (hsettles : ∀ i < c.policy.maxAttempts, ∀ body, script i = .ok body → body.Settles) :
    (∀ k < c.policy.maxAttempts, (∀ i < k, Transient (outcome (script i))) →
      ¬ Transient (outcome (script k)) →
      ∃ events,
        Yields (c.run w q ids) t (outcome (script k))
          (w.transport.after (c.queryRequest q ids) t (k + 1)) events ∧
        requests events = List.replicate (k + 1) (c.queryRequest q ids)) ∧
    ((∀ i < c.policy.maxAttempts, Transient (outcome (script i))) →
      ∃ e events,
        outcome (script (c.policy.maxAttempts - 1)) = .error e ∧
        (∀ attempts source, e ≠ .retryExhausted attempts source) ∧
        Yields (c.run w q ids) t (.error (.retryExhausted c.policy.maxAttempts e))
          (w.transport.after (c.queryRequest q ids) t c.policy.maxAttempts) events ∧
        requests events = List.replicate c.policy.maxAttempts (c.queryRequest q ids)) ∧
    c.KeepsTime := by
  have hattempts := yields_attempts hw hserves hsettles
  refine ⟨?_, ?_, c.keepsTime⟩
  · intro k hk htransient hfinal
    have hretries := hw.withRetries_settled hattempts hk htransient hfinal
    exact ⟨_, yields_run hw htext hretries, requests_ran script (k + 1) (outcome (script k))⟩
  · intro htransient
    obtain ⟨e, he, hclass, hretries⟩ := hw.withRetries_exhausted hattempts htransient
    exact ⟨e, _, he, ne_retryExhausted_of_transient hclass, yields_run hw htext hretries,
      requests_ran script c.policy.maxAttempts (.error (.retryExhausted c.policy.maxAttempts e))⟩

/-- The payload of a message that answers a query. -/
def answering : String :=
  "\x7b\"final_sse_message\":true," ++
    "\"blocks\":[\x7b\"intended_usage\":\"ask_text\",\"text\":\"yes\"\x7d]\x7d"

def answered : Message :=
  ⟨.pending, none, true, false, none, none,
    [⟨"ask_text", .answerText, .snapshot (.object [("text", .text "yes")])⟩]⟩

theorem run_answering :
    StreamReader.start.run [] [.chunk (Utf8.encode ("data: " ++ answering ++ "\n\n"))] =
      (.start, [.ok answered]) := by
  have hpush : LineDecoder.push (.empty LineDecoder.defaultLimit)
      (Utf8.encode ("data: " ++ answering ++ "\n\n")) =
      (.empty LineDecoder.defaultLimit, .ok ["data: " ++ answering, ""]) := by decide
  have hframes : FrameReader.empty.feedAll ["data: " ++ answering, ""] =
      (.empty, [⟨none, answering⟩]) := by decide
  have hpayload : Message.ofPayload answering = .ok answered := by with_unfolding_all rfl
  have hblank : Text.isBlank answering = false := by decide
  have hframe : Delivery.ofFrame? ⟨none, answering⟩ = some (.ok answered) := by
    simp [Delivery.ofFrame?, Message.ofFrame, hblank, hpayload, Except.map]
  have hfeed : StreamReader.start.feed (.chunk (Utf8.encode ("data: " ++ answering ++ "\n\n"))) =
      (.start, [.ok answered]) := by
    change StreamReader.start.feedChunk (Utf8.encode ("data: " ++ answering ++ "\n\n")) = _
    simp only [StreamReader.feedChunk, StreamReader.start, hpush, StreamReader.takeLines, hframes,
      Delivery.ofFrames, List.filterMap_cons, List.filterMap_nil, hframe]
    rfl
  rw [StreamReader.run_cons, hfeed]
  rfl

/-- A reset, a body that breaks off, and then bodies that answer and stay open. -/
def hesitant : Nat → Except TransportError Body
  | 0 => .error (.connectionReset "gone")
  | 1 => .ok ⟨[(.zero, .chunk (Utf8.encode "data: \x7b\x7d\n\n"))], .closes .zero⟩
  | _ => .ok ⟨[(.zero, .chunk (Utf8.encode ("data: " ++ answering ++ "\n\n")))], .never⟩

theorem settles_hesitant (i : Nat) (body : Body) (h : hesitant i = .ok body) : body.Settles := by
  match i with
  | 0 => cases h
  | 1 =>
    cases h
    rintro ⟨⟩
  | _ + 2 =>
    cases h
    intro _
    refine ⟨.ok answered, ?_, rfl⟩
    rw [List.map_singleton, run_answering]
    exact List.mem_singleton.mpr rfl

theorem outcome_hesitant_one : outcome (hesitant 1) = .error .incompleteStream := by
  decide +kernel

theorem outcome_hesitant_two : outcome (hesitant 2) = .ok ⟨"yes", [], "pending", none⟩ := by
  have hheard : messages [.chunk (Utf8.encode ("data: " ++ answering ++ "\n\n"))] =
      [.ok answered] := by
    rw [messages, run_answering]
    rfl
  simp only [outcome, hesitant, Body.deliveries, List.map_singleton, hheard]
  decide +kernel

/-- A transport that counts its requests and answers them from a script. -/
def counting (script : Nat → Except TransportError Body) : Transport Nat where
  post n _ := (n + 1, .never)
  stream n _ := (n + 1, .now (script n))

theorem after_counting (script : Nat → Except TransportError Body) (r : Request) (n : Nat) :
    (counting script).after r 0 n = n := by
  induction n with
  | zero => rfl
  | succ n ih => rw [Transport.after, ih]; rfl

/-- Three attempts are enough for the hesitant server, two are not. -/
theorem run_outcome_hesitant :
    let w : Surroundings Nat := ⟨counting hesitant, id, none, fun _ => false, .all⟩
    let patient : Client := ⟨.standard, .of 3 .zero .zero, "token"⟩
    let hasty : Client := ⟨.standard, .of 2 .zero .zero, "token"⟩
    let q : Query := .ofText "why"
    let ids : FreshIds := ⟨"front", "context"⟩
    (∃ events, Yields (patient.run w q ids) 0 (.ok ⟨"yes", [], "pending", none⟩) 3 events ∧
      requests events = List.replicate 3 (patient.queryRequest q ids)) ∧
    ∃ events, Yields (hasty.run w q ids) 0 (.error (.retryExhausted 2 .incompleteStream)) 2 events ∧
      requests events = List.replicate 2 (hasty.queryRequest q ids) := by
  intro w patient hasty q ids
  have hw : w.Calm := ⟨rfl, fun _ => rfl⟩
  have hserves (r : Request) (n : Nat) : w.transport.Serves r 0 n hesitant :=
    fun i _ => ⟨.zero, by rw [show w.transport = counting hesitant from rfl, after_counting]; rfl⟩
  have hfirst : Transient (outcome (hesitant 0)) := ⟨_, rfl, rfl⟩
  have hsecond : Transient (outcome (hesitant 1)) := ⟨_, outcome_hesitant_one, rfl⟩
  have htwo : ∀ i < 2, Transient (outcome (hesitant i)) := by
    intro i hi
    match i with
    | 0 => exact hfirst
    | 1 => exact hsecond
  constructor
  · obtain ⟨hanswer, -⟩ := @run_outcome Nat patient w q ids 0 hesitant hw (by decide)
      (hserves _ _) fun i _ => settles_hesitant i
    have hfinal : ¬ Transient (outcome (hesitant 2)) := by
      rintro ⟨e, he, -⟩
      rw [outcome_hesitant_two] at he
      cases he
    obtain ⟨events, hrun, hsent⟩ := hanswer 2 (by decide) htwo hfinal
    rw [outcome_hesitant_two] at hrun
    exact ⟨events, hrun, hsent⟩
  · obtain ⟨-, hgiveUp, -⟩ := @run_outcome Nat hasty w q ids 0 hesitant hw (by decide)
      (hserves _ _) fun i _ => settles_hesitant i
    obtain ⟨e, events, he, -, hrun, hsent⟩ := hgiveUp htwo
    have hsource : outcome (hesitant 1) = .error e := he
    rw [outcome_hesitant_one] at hsource
    cases hsource
    exact ⟨events, hrun, hsent⟩

end Client
end AnswerStream
