import AnswerStream.Decimal.Reading
import AnswerStream.Decimal.Shortest

/-!
Numbers of a JSON text. A literal keeps what was written; its value is a whole number where it is
written as one that fits 64 bits, and a double precision number otherwise. `Literal.ofChars?` is the
grammar: no leading zeros, digits on both sides of a point, digits in an exponent.
-/

namespace AnswerStream.Json

structure Literal where
  negative : Bool
  whole : List Nat
  fraction : List Nat
  exponent : Option Int
  deriving DecidableEq, Repr

namespace Literal

def exponentPart? : List Char → Option (Option Int)
  | [] => some none
  | cs => (Decimal.exponent? cs).map some

def ofChars? (cs : List Char) : Option Literal := do
  let (negative, body) := match cs with
    | '-' :: rest => (true, rest)
    | _ => (false, cs)
  let (whole, afterWhole) := Decimal.digitRun body
  if whole.isEmpty || (whole.head? == some 0 && whole.length != 1) then none
  else
    let (fraction, tail) ← match afterWhole with
      | '.' :: rest =>
        match Decimal.digitRun rest with
        | ([], _) => none
        | run => some run
      | _ => some ([], afterWhole)
    let exponent ← exponentPart? tail
    some ⟨negative, whole, fraction, exponent⟩

/-- A whole number without fraction and exponent. -/
def ofInt (n : Int) : Literal :=
  ⟨n < 0, (Decimal.render n.natAbs).filterMap Decimal.digit?, [], none⟩

/-- The whole number, where it fits a signed or unsigned 64-bit word. Minus zero does not. -/
def int? (l : Literal) : Option Int :=
  if l.fraction.isEmpty && l.exponent.isNone then
    let n := Decimal.ofDigits l.whole
    if l.negative then
      if 0 < n && n ≤ Nat.pow 2 63 then some (-(n : Int)) else none
    else if n < Nat.pow 2 64 then some n else none
  else none

/-- A decimal being read: digits are taken up while they fit 64 bits. -/
structure Scaled where
  significand : Nat
  exponent : Int
  full : Bool
  deriving DecidableEq, Repr

def Scaled.take? (s : Scaled) (d : Nat) : Option Nat :=
  let n := s.significand * 10 + d
  if s.full || Nat.pow 2 64 ≤ n then none else some n

/-- A digit of the whole part that no longer fits still counts as a power of ten. -/
def Scaled.pushWhole (s : Scaled) (d : Nat) : Scaled :=
  match s.take? d with
  | some n => { s with significand := n }
  | none => ⟨s.significand, s.exponent + 1, true⟩

/-- A digit of the fraction that no longer fits is dropped, with all after it. -/
def Scaled.pushFraction (s : Scaled) (d : Nat) : Scaled :=
  match s.take? d with
  | some n => ⟨n, s.exponent - 1, false⟩
  | none => { s with full := true }

def scaled (l : Literal) : Scaled :=
  let whole := l.whole.foldl Scaled.pushWhole ⟨0, 0, false⟩
  l.fraction.foldl Scaled.pushFraction { whole with full := false }

/-- `10 ^ e` for `e ≤ 308`, correctly rounded. -/
def powerOfTen (e : Nat) : Float := Float.ofScientific 1 false e

/-- Divides by `10 ^ e` in steps of at most 308. -/
def scaleDown (x : Float) (e : Nat) : Float :=
  if e ≤ 308 then x / powerOfTen e
  else if x == 0 then x
  else scaleDown (x / powerOfTen 308) (e - 308)
  termination_by e

/-- The magnitude `significand * 10 ^ exponent`, computed with one rounding for the significand and
one for the scaling; nothing where it exceeds the largest finite number. -/
def magnitude? (significand : Nat) (exponent : Int) : Option Float :=
  let x := significand.toUInt64.toFloat
  match exponent with
  | .negSucc e => some (scaleDown x (e + 1))
  | .ofNat e =>
    if e ≤ 308 then
      let y := x * powerOfTen e
      if y.isInf then none else some y
    else if significand = 0 then some 0
    else none

/-- The double precision number; nothing where it would be infinite. -/
def float? (l : Literal) : Option Float :=
  let s := l.scaled
  let e := l.exponent.getD 0
  let magnitude := magnitude? s.significand (s.exponent + e)
  magnitude.map (Decimal.signed l.negative)

end Literal

inductive Number
  | int (n : Int)
  | float (x : Float)

namespace Number

def ofLiteral? (l : Literal) : Option Number :=
  match l.int? with
  | some n => some (.int n)
  | none => l.float?.map .float

/-- Plain notation from `1e-5` up to below `1e16`, else an exponent that always has a sign. -/
def style : Decimal.Style := ⟨-5, 16, "+", ".0"⟩

/-- Infinities and the undefined value have no notation of their own. -/
def renderFloat (x : Float) : String :=
  match Decimal.Magnitude.ofFloat x with
  | .finite b =>
    (if b.negative then "-" else "") ++
      if b.significand = 0 then "0.0" else style.write (Decimal.shortest b)
  | .infinite _ | .undefined => "null"

def renderInt (n : Int) : List Char :=
  if n < 0 then '-' :: Decimal.render n.natAbs else Decimal.render n.natAbs

def render : Number → List Char
  | .int n => renderInt n
  | .float x => (renderFloat x).toList

end Number
end AnswerStream.Json
