/-!
Whole numbers as decimal digits, and the numbers that a sign and digits denote.
-/

namespace AnswerStream.Decimal

def digit? (c : Char) : Option Nat :=
  if c.isDigit then some (c.toNat - '0'.toNat) else none

/-- The value of a run of digits, the most significant first. -/
def ofDigits (ds : List Nat) : Nat := ds.foldl (fun n d => 10 * n + d) 0

@[simp] theorem ofDigits_nil : ofDigits [] = 0 := rfl

theorem ofDigits_append_singleton (ds : List Nat) (d : Nat) :
    ofDigits (ds ++ [d]) = 10 * ofDigits ds + d := by simp [ofDigits]

/-- The digits at the start of a text, and what follows them. -/
def digitRun (cs : List Char) : List Nat × List Char :=
  ((cs.takeWhile Char.isDigit).filterMap digit?, cs.dropWhile Char.isDigit)

/-- Reads a text of one or more digits. -/
def natural? (cs : List Char) : Option Nat :=
  match digitRun cs with
  | ([], _) => none
  | (ds, []) => some (ofDigits ds)
  | (_, _ :: _) => none

/-- Reads digits after an optional plus sign; the value has to be below `bound`. -/
def bounded? (bound : Nat) (cs : List Char) : Option Nat := do
  let n ← natural? (match cs with | '+' :: rest => rest | _ => cs)
  if n < bound then some n else none

def render (n : Nat) : List Char := Nat.toDigits 10 n

/-- Left-padded with zeros to at least `width` digits. -/
def padded (width n : Nat) : List Char :=
  List.replicate (width - (render n).length) '0' ++ render n

end AnswerStream.Decimal
