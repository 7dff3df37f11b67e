import AnswerStream.Config.Basic
import AnswerStream.Limiter.Metering

/-!
The token bucket that every request passes. It refills continuously up to its capacity. Asking for a
token either takes one at once or says how long to wait for the missing part of one; whoever waits
keeps the others out, and takes the token when the wait is over. A wait that is given up leaves
nothing behind but the refill.
-/

namespace AnswerStream

structure Bucket (α τ : Type) where
  enabled : Bool
  capacity : α
  /-- The time in which an empty bucket fills. -/
  period : τ
  tokens : α
  refilled : τ
  /-- Tokens handed out. -/
  admitted : Nat
  waited : τ

/-- What a bucket answers to a request for a token. -/
inductive Admission (τ : Type)
  | now
  | after (wait : τ)
  deriving DecidableEq, Repr

namespace Bucket

variable {α τ : Type} [Metering α τ]

/-- What the settings of a bucket have to meet. -/
def check (α : Type) {τ : Type} [Metering α τ] (capacity : Nat) (period : τ) :
    Except ConfigError Unit := do
  ClientConfig.require (capacity != 0) "rate limit capacity must be at least 1"
  ClientConfig.require (Metering.positive α period) "rate limit period must be positive"

def full (enabled : Bool) (capacity : Nat) (period now : τ) : Bucket α τ :=
  { enabled
    capacity := Metering.ofNat capacity
    period
    tokens := Metering.ofNat capacity
    refilled := now
    admitted := 0
    waited := Metering.none α }

/-- A full bucket, where the settings are sound. -/
def of (enabled : Bool) (capacity : Nat) (period now : τ) : Except ConfigError (Bucket α τ) := do
  check α capacity period
  pure (full enabled capacity period now)

/-- Tokens a second. -/
def rate (b : Bucket α τ) : α := Metering.div b.capacity (Metering.seconds b.period)

def refill (b : Bucket α τ) (now : τ) : Bucket α τ :=
  let elapsed : α := Metering.seconds (Metering.since α now b.refilled)
  { b with
    tokens := Metering.least (Metering.add b.tokens (Metering.mul elapsed b.rate)) b.capacity
    refilled := now }

def count (b : Bucket α τ) (wait : τ) : Bucket α τ :=
  { b with admitted := b.admitted + 1, waited := Metering.plus α b.waited wait }

/-- The first step of taking a token. -/
def request (b : Bucket α τ) (now : τ) : Bucket α τ × Admission τ :=
  if b.enabled then
    let b := b.refill now
    if Metering.whole b.tokens then
      (count { b with tokens := Metering.sub b.tokens (Metering.ofNat 1) } (Metering.none α), .now)
    else
      (b, .after (Metering.wait (Metering.div (Metering.sub (Metering.ofNat 1) b.tokens) b.rate)))
  else (b, .now)

/-- The second step, once the wait is over. -/
def complete (b : Bucket α τ) (now wait : τ) : Bucket α τ :=
  count { b with tokens := Metering.ofNat 0, refilled := now } wait

/-- Both steps, the clock moving by the wait: the bucket, the instant and the wait afterwards. -/
def acquire (b : Bucket α τ) (now : τ) : Bucket α τ × τ × τ :=
  match b.request now with
  | (b, .now) => (b, now, Metering.none α)
  | (b, .after wait) =>
    let later := Metering.plus α now wait
    (b.complete later wait, later, wait)

def setEnabled (b : Bucket α τ) (enabled : Bool) : Bucket α τ := { b with enabled }

/-- Changes capacity and period after a refill; tokens above the new capacity are lost. -/
def configure (b : Bucket α τ) (capacity : Nat) (period now : τ) :
    Except ConfigError (Bucket α τ) := do
  check α capacity period
  let b := b.refill now
  let size : α := Metering.ofNat capacity
  pure { b with capacity := size, period, tokens := Metering.least b.tokens size }

end Bucket

/-- A running limiter. -/
abbrev Limiter := Bucket Float Duration

namespace Limiter

/-- A limiter that never makes anyone wait. -/
def disabled (now : Duration) : Limiter := Bucket.full false 1 (.ofSecs 1) now

def ofConfig (c : RateLimitConfig) (now : Duration) : Except ConfigError Limiter :=
  Bucket.of c.enabled c.requestsPerPeriod c.period now

/-- The mean wait of those admitted. -/
def averageWait (b : Limiter) : Duration :=
  if b.admitted = 0 then .zero else b.waited.divide b.admitted.toUInt64.toFloat

end Limiter
end AnswerStream
