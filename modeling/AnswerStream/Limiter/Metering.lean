import AnswerStream.Duration

/-!
The arithmetic that a token bucket counts with. Tokens and seconds are numbers of one kind; spans of
time may be of another. A running limiter counts in double precision against a clock of nanoseconds;
an exact one counts in rationals for both.
-/

namespace AnswerStream

class Metering (α : Type) (τ : outParam Type) where
  ofNat : Nat → α
  add : α → α → α
  sub : α → α → α
  mul : α → α → α
  div : α → α → α
  least : α → α → α
  /-- Whether there is a whole token. -/
  whole : α → Bool
  /-- A span of time in seconds. -/
  seconds : τ → α
  /-- The span of a wait in seconds. -/
  wait : α → τ
  none : τ
  plus : τ → τ → τ
  /-- The span from the second instant to the first; none where that runs backwards. -/
  since : τ → τ → τ
  positive : τ → Bool

instance : Metering Float Duration where
  ofNat n := n.toUInt64.toFloat
  add := (· + ·)
  sub := (· - ·)
  mul := (· * ·)
  div := (· / ·)
  least a b := if a < b then a else b
  whole a := 1.0 ≤ a
  seconds := Duration.seconds
  wait a := (Duration.ofSeconds? a).getD .zero
  none := .zero
  plus := (· + ·)
  since now earlier := now - earlier
  positive d := !d.isZero

instance : Metering Rat Rat where
  ofNat n := n
  add := (· + ·)
  sub := (· - ·)
  mul := (· * ·)
  div := (· / ·)
  least a b := if a ≤ b then a else b
  whole a := 1 ≤ a
  seconds := id
  wait := id
  none := 0
  plus := (· + ·)
  since now earlier := if now ≤ earlier then 0 else now - earlier
  positive d := 0 < d

end AnswerStream
