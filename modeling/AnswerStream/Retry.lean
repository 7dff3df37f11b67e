import AnswerStream.Config.Basic
import AnswerStream.Failure.Basic

/-!
When a failed attempt is repeated, and after how long. Only transient failures are repeated; the
delay doubles from attempt to attempt up to a cap, and a random part below the base delay is added.
-/

namespace AnswerStream

structure RetryPolicy where
  /-- The first attempt counts, so there is at least one. -/
  maxAttempts : Nat
  baseDelay : Duration
  maxDelay : Duration
  one_le_maxAttempts : 1 ≤ maxAttempts
  deriving DecidableEq, Repr

inductive RetryDecision
  | stop
  | again (delay : Duration)
  deriving DecidableEq, Repr

def RetryDecision.delay : RetryDecision → Duration
  | .stop => .zero
  | .again delay => delay

namespace RetryPolicy

def of (maxAttempts : Nat) (baseDelay maxDelay : Duration) : RetryPolicy :=
  ⟨max maxAttempts 1, baseDelay, maxDelay, Nat.le_max_right _ _⟩

def ofConfig (c : RetryConfig) : RetryPolicy :=
  of c.maxAttempts (.ofMillis c.baseDelayMs) (.ofMillis c.maxDelayMs)

def standard : RetryPolicy := ofConfig .standard

/-- Doublings stop here. -/
def maxDoublings : Nat := 31

/-- The delay after an attempt, without its random part. -/
def backoff (p : RetryPolicy) (attempt : Nat) : Duration :=
  let doubled := p.baseDelay.nanos * Nat.pow 2 (min (attempt - 1) maxDoublings)
  if doubled < Duration.limit then min ⟨doubled⟩ p.maxDelay else p.maxDelay

/-- The base delay in whole milliseconds, as a number of 64 bits. -/
def jitterRange (p : RetryPolicy) : Nat := p.baseDelay.wholeMillis % Nat.pow 2 64

/-- The random part that a draw gives: whole milliseconds below the base delay. -/
def jitter (p : RetryPolicy) (draw : Nat) : Duration := .ofMillis (draw % max p.jitterRange 1)

/-- What follows the failure of an attempt. -/
def decide (p : RetryPolicy) (e : Failure) (attempt draw : Nat) : RetryDecision :=
  if e.errorClass = .transient ∧ attempt < p.maxAttempts then
    .again (p.backoff attempt + p.jitter draw)
  else .stop

/-- What is reported of the failure that ended the last attempt. -/
def giveUp (e : Failure) (attempt : Nat) : Failure :=
  if e.errorClass = .transient then .retryExhausted attempt e else e

end RetryPolicy

/-- The attempts of one call so far. -/
structure RetryContext where
  operation : String
  attempt : Nat
  lastError : Option Failure
  totalDelay : Duration
  deriving DecidableEq, Repr

namespace RetryContext

def start (operation : String) : RetryContext := ⟨operation, 1, none, .zero⟩

def recordFailure (c : RetryContext) (e : Failure) (delay : Duration) : RetryContext :=
  { c with attempt := c.attempt + 1, lastError := some e, totalDelay := c.totalDelay + delay }

def describe (c : RetryContext) : String :=
  String.intercalate " "
    ([s!"operation={c.operation}", s!"attempt={c.attempt}"] ++
      c.lastError.toList.map (fun e => s!"last_error={e.code}") ++
      if c.totalDelay.isZero then [] else [s!"total_delay_ms={c.totalDelay.wholeMillis}"])

end RetryContext
end AnswerStream
