import AnswerStream.Decimal.Digits

/-!
Reading a real number as a double precision number. `nearest` rounds the exact decimal once;
`real?` is the free notation of settings, with words for the infinities and for the undefined value.
-/

namespace AnswerStream.Decimal

/-- The number nearest to `digits * 10 ^ exponent`. Decimals far outside the range are settled by
their magnitude alone, so the cost does not follow the exponent. -/
def nearest (digits : Nat) (exponent : Int) : Float :=
  let magnitude : Int := exponent + (render digits).length
  if digits = 0 ∨ magnitude < -400 then 0
  else if 400 < magnitude then 1 / 0
  else match exponent with
    | .ofNat e => Float.ofScientific digits false e
    | .negSucc e => Float.ofScientific digits true (e + 1)

def infinity : Float := 1 / 0

def undefined : Float := 0 / 0

def signed (negative : Bool) (x : Float) : Float := if negative then -x else x

/-- An exponent part, or nothing. -/
def exponent? : List Char → Option Int
  | [] => some 0
  | mark :: rest =>
    if mark = 'e' ∨ mark = 'E' then
      match rest with
      | '-' :: ds => (natural? ds).map (fun n => -(n : Int))
      | '+' :: ds => (natural? ds).map (fun n => (n : Int))
      | ds => (natural? ds).map (fun n => (n : Int))
    else none

/-- Digits with an optional point among or around them, then an optional exponent. -/
def unsigned? (cs : List Char) : Option Float :=
  let (whole, afterWhole) := digitRun cs
  let (fraction, tail) := match afterWhole with
    | '.' :: rest => digitRun rest
    | _ => ([], afterWhole)
  if whole.isEmpty && fraction.isEmpty then none
  else (exponent? tail).map fun e => nearest (ofDigits (whole ++ fraction)) (e - fraction.length)

def real? (cs : List Char) : Option Float :=
  let (negative, body) := match cs with
    | '-' :: rest => (true, rest)
    | '+' :: rest => (false, rest)
    | _ => (false, cs)
  match String.ofList (body.map Char.toLower) with
  | "inf" | "infinity" => some (signed negative infinity)
  | "nan" => some (signed negative undefined)
  | _ => (unsigned? body).map (signed negative)

end AnswerStream.Decimal
