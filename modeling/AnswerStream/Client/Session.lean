import AnswerStream.Answer.Basic
import AnswerStream.Limiter.Bucket
import AnswerStream.Retry
import AnswerStream.Transport.Basic

/-!
Calls and the time that they take. A call waits, takes tokens of the limiter, and sends requests;
all that happens to it is written into the trace of its session, the latest first. It can be
cancelled at a given instant or by what its observers see. A call looks for this before every
attempt, before every repetition, and wherever it has to wait; what needs no waiting runs to its
end.
-/

namespace AnswerStream

/-- The stages of a query. -/
inductive Stage
  | idle
  /-- Waits for a token of the limiter. -/
  | rateLimited
  | connecting
  | streaming
  | complete
  | failed
  deriving DecidableEq, Repr

def Stage.label : Stage → String
  | .idle => "idle"
  | .rateLimited => "rate_limited"
  | .connecting => "connecting"
  | .streaming => "streaming"
  | .complete => "complete"
  | .failed => "failed"

inductive Event
  | entered (stage : Stage)
  /-- The limiter let one request pass. -/
  | admitted
  | sent (request : Request)
  | progressed (progress : Progress)
  | paged (fetched total : Nat)
  deriving DecidableEq, Repr

/-- What the observers of a call want to see. -/
structure Watch where
  stages : Bool
  progress : Bool
  pages : Bool
  deriving DecidableEq, Repr

namespace Watch

def all : Watch := ⟨true, true, true⟩

def none : Watch := ⟨false, false, false⟩

end Watch

/-- What stays the same during a call. -/
structure Surroundings (σ : Type) where
  transport : Transport σ
  /-- The numbers drawn for delays, one after the other. -/
  draw : Nat → Nat
  cancelAt : Option Duration
  /-- Whether observers cancel the call when they have seen this trace. -/
  cancelOn : List Event → Bool
  watch : Watch

structure Session (σ : Type) where
  now : Duration
  limiter : Limiter
  transport : σ
  cancelled : Bool
  /-- Numbers drawn so far. -/
  drawn : Nat
  /-- The latest first. -/
  trace : List Event

/-- Why a call ends without a result. -/
inductive Stop
  | failed (failure : Failure)
  /-- It waits for what never comes. -/
  | stuck
  deriving DecidableEq, Repr

abbrev Call (σ : Type) := EStateM Stop (Session σ)

namespace Call

variable {σ α : Type}

def fail (e : Failure) : Call σ α := throw (.failed e)

def ofExcept : Except Failure α → Call σ α
  | .ok a => pure a
  | .error e => fail e

/-- Ends the call here if it has been cancelled. -/
def poll : Call σ Unit := do
  if (← get).cancelled then fail .cancelled

/-- Ends the call at an instant at which it is found waiting. -/
def cancel (instant : Duration) : Call σ α := do
  modify fun s => { s with now := max s.now instant, cancelled := true }
  fail .cancelled

end Call

namespace Surroundings

variable {σ α : Type} (w : Surroundings σ)

def emit (e : Event) : Call σ Unit :=
  modify fun s =>
    let trace := e :: s.trace
    { s with trace, cancelled := s.cancelled || w.cancelOn trace }

def enter (stage : Stage) : Call σ Unit := do
  if w.watch.stages then w.emit (.entered stage)

/-- Waits for a span of time, unless there is none to wait for. A cancellation at the instant at
which the wait would end still comes first. -/
def pause (span : Duration) : Call σ Unit := do
  if !span.isZero then
    Call.poll
    let wake := (← get).now + span
    match w.cancelAt with
    | some instant =>
      if instant ≤ wake then Call.cancel instant else modify fun s => { s with now := wake }
    | none => modify fun s => { s with now := wake }

/-- Waits for ever. -/
def hang : Call σ α := do
  Call.poll
  match w.cancelAt with
  | some instant => Call.cancel instant
  | none => throw .stuck

/-- Takes a token of the limiter. -/
def acquire : Call σ Unit := do
  let s ← get
  match s.limiter.request s.now with
  | (limiter, .now) => set { s with limiter }
  | (limiter, .after wait) =>
    set { s with limiter }
    w.pause wait
    modify fun s => { s with limiter := s.limiter.complete s.now wait }
  w.emit .admitted

/-- Sends a request and waits for the reply. -/
def exchange (send : σ → Request → σ × Reply α) (r : Request) : Call σ α := do
  let s ← get
  let (transport, reply) := send s.transport r
  set { s with transport }
  w.emit (.sent r)
  match reply with
  | .never => w.hang
  | .after delay result =>
    w.pause delay
    Call.ofExcept (result.mapError .ofTransport)

/-- The next number drawn. -/
def drawNext : Call σ Nat := do
  let s ← get
  set { s with drawn := s.drawn + 1 }
  pure (w.draw s.drawn)

/-- Makes an attempt and, as long as the policy says so and `left` allows it, further ones. -/
def attempts (policy : RetryPolicy) (operation : Call σ α) : (left attempt : Nat) → Call σ α
  | left, attempt => do
    Call.poll
    tryCatch operation fun
      | .stuck => throw .stuck
      | .failed e => do
        match policy.decide e attempt (← w.drawNext), left with
        | .again delay, left + 1 =>
          Call.poll
          w.pause delay
          attempts policy operation left (attempt + 1)
        | _, _ => Call.fail (RetryPolicy.giveUp e attempt)

/-- Repeats an operation as the policy says. -/
def withRetries (policy : RetryPolicy) (operation : Call σ α) : Call σ α :=
  w.attempts policy operation (policy.maxAttempts - 1) 1

end Surroundings
end AnswerStream
