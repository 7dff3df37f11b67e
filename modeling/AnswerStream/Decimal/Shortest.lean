import AnswerStream.Decimal.Binary

/-!
The shortest decimal of a double precision number: among all decimals that round to it, one with the
fewest digits, and of those the nearest. For each digit count the two neighbours of the number on
that decimal grid decide whether the count is enough: if a point of the grid lies in the interval
that rounds to the number, so does one of these two.
-/

namespace AnswerStream.Decimal

/-- The decimal `digits * 10 ^ exponent`. -/
structure Scientific where
  digits : Nat
  exponent : Int
  deriving DecidableEq, Repr

/-- The reals that round to a number, in units of `1 / den`: from `low` to `high` with the ends
when `closed`, around `value`. -/
structure Interval where
  low : Nat
  value : Nat
  high : Nat
  den : Nat
  closed : Bool

/-- The lower gap is half as wide below a power of two, except below the smallest of them. -/
def Interval.of (b : Binary) : Interval :=
  let narrow := b.significand = Nat.pow 2 52 ∧ -1074 < b.exponent
  let scale (n : Nat) : Nat × Nat := Binary.ratio ⟨false, n, b.exponent - 2⟩
  { low := (scale (4 * b.significand - if narrow then 1 else 2)).1
    value := (scale (4 * b.significand)).1
    high := (scale (4 * b.significand + 2)).1
    den := (scale 1).2
    closed := b.significand % 2 = 0 }

/-- Whether `num / den` lies in the interval. -/
def Interval.contains (i : Interval) (num den : Nat) : Bool :=
  let n := num * i.den
  if i.closed then i.low * den ≤ n && n ≤ i.high * den else i.low * den < n && n < i.high * den

/-- `num / den` of `n * 10 ^ e`. -/
def tenPower (n : Nat) : Int → Nat × Nat
  | .ofNat e => (n * Nat.pow 10 e, 1)
  | .negSucc e => (n, Nat.pow 10 (e + 1))

/-- The exponent of the leading digit of `num / den`, at least `-fuel`. -/
def leadingExponent (num den : Nat) : (fuel : Nat) → Int
  | 0 => 0
  | fuel + 1 =>
    if den ≤ num then ((Nat.toDigits 10 (num / den)).length : Int) - 1
    else leadingExponent (num * 10) den fuel - 1

/-- The point of the grid `10 ^ e` nearest to the middle of the interval, if it has one inside. -/
def Interval.pick (i : Interval) (e : Int) : Option Nat :=
  let (unit, unitDen) := tenPower 1 e
  let below := i.value * unitDen / (i.den * unit)
  let inside (k : Nat) : Bool := i.contains (k * unit) unitDen
  let rest := i.value * unitDen - below * (i.den * unit)
  match inside below, inside (below + 1) with
  | true, true =>
    if 2 * rest < i.den * unit then some below
    else if 2 * rest = i.den * unit then some (below + below % 2)
    else some (below + 1)
  | true, false => some below
  | false, true => some (below + 1)
  | false, false => none

/-- Tries ever finer grids, from `e` downwards. -/
def Interval.search (i : Interval) (e : Int) : (fuel : Nat) → Scientific
  | 0 => ⟨0, 0⟩
  | fuel + 1 =>
    match i.pick e with
    | some k => ⟨k, e⟩
    | none => i.search (e - 1) fuel

/-- Moves trailing zeros of the digits into the exponent. -/
def Scientific.strip (d : Scientific) : (fuel : Nat) → Scientific
  | 0 => d
  | fuel + 1 =>
    if d.digits ≠ 0 ∧ d.digits % 10 = 0 then strip ⟨d.digits / 10, d.exponent + 1⟩ fuel else d

/-- Seventeen digits always suffice. The sign is left out; the number is not zero. -/
def shortest (b : Binary) : Scientific :=
  let i := Interval.of b
  ((i.search (leadingExponent i.value i.den 400) 18).strip 18)

/-- How a number is written. -/
structure Style where
  /-- The exponents of the leading digit that are written without an exponent. -/
  plainFrom : Int
  plainBelow : Int
  /-- What an exponent that is not negative carries in front. -/
  exponentSign : String
  /-- What closes a number without fraction and exponent. -/
  wholeTail : String

def Style.write (style : Style) (d : Scientific) : String :=
  let ds := Nat.toDigits 10 d.digits
  let lead : Int := d.exponent + ds.length - 1
  if style.plainFrom ≤ lead ∧ lead < style.plainBelow then
    match d.exponent with
    | .ofNat e => String.ofList (ds ++ List.replicate e '0') ++ style.wholeTail
    | .negSucc _ =>
      if 0 ≤ lead then
        let whole := (lead + 1).toNat
        String.ofList (ds.take whole) ++ "." ++ String.ofList (ds.drop whole)
      else
        "0." ++ String.ofList (List.replicate (-lead - 1).toNat '0' ++ ds)
  else
    let mantissa := match ds with
      | [] => ""
      | [c] => String.ofList [c]
      | c :: rest => String.ofList (c :: '.' :: rest)
    mantissa ++ "e" ++ (if 0 ≤ lead then style.exponentSign else "") ++ toString lead

end AnswerStream.Decimal
