/-!
Double precision numbers as exact quantities. A finite number is `significand * 2 ^ exponent` with a
sign; `roundDiv` rounds an exact quotient to the nearest whole number.
-/

namespace AnswerStream.Decimal

/-- The exact value of a finite number. -/
structure Binary where
  negative : Bool
  significand : Nat
  exponent : Int
  deriving DecidableEq, Repr

inductive Magnitude
  | finite (value : Binary)
  | infinite (negative : Bool)
  | undefined
  deriving DecidableEq, Repr

/-- The quantity that the 64 bits of a number denote. -/
def Magnitude.ofBits (bits : UInt64) : Magnitude :=
  let n := bits.toNat
  let negative := Nat.pow 2 63 ≤ n
  let fraction := n % Nat.pow 2 52
  match n / Nat.pow 2 52 % 2048 with
  | 0 => .finite ⟨negative, fraction, -1074⟩
  | 2047 => if fraction = 0 then .infinite negative else .undefined
  | e => .finite ⟨negative, fraction + Nat.pow 2 52, e - 1075⟩

def Magnitude.ofFloat (x : Float) : Magnitude := .ofBits x.toBits

/-- Numerator and denominator of `significand * 2 ^ exponent`, the sign left out. -/
def Binary.ratio (b : Binary) : Nat × Nat :=
  match b.exponent with
  | .ofNat e => (b.significand * Nat.pow 2 e, 1)
  | .negSucc e => (b.significand, Nat.pow 2 (e + 1))

/-- The whole number nearest to `num / den`; a half goes to the even neighbour. -/
def roundDiv (num den : Nat) : Nat :=
  let q := num / den
  let r := 2 * (num % den)
  if r < den then q
  else if r = den then q + q % 2
  else q + 1

end AnswerStream.Decimal
