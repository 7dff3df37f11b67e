/-!
Hexadecimal digits in either case.
-/

namespace AnswerStream.Text

def hexDigit? (c : Char) : Option Nat :=
  if c.isDigit then some (c.toNat - '0'.toNat)
  else if 'a' ≤ c ∧ c ≤ 'f' then some (c.toNat - 'a'.toNat + 10)
  else if 'A' ≤ c ∧ c ≤ 'F' then some (c.toNat - 'A'.toNat + 10)
  else none

/-- The number that a text of hexadecimal digits denotes; nothing for any other text. -/
def hexValue? (cs : List Char) : Option Nat :=
  if cs.isEmpty then none else cs.foldlM (fun n c => (hexDigit? c).map (16 * n + ·)) 0

def hexDigit (n : Nat) : Char := Nat.digitChar n

/-- The capital digit of a number below sixteen. -/
def hexCapital (n : Nat) : Char := (hexDigit n).toUpper

end AnswerStream.Text
