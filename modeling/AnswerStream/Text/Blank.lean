/-!
Blank characters and trimming: a character is blank when it has the White_Space property, and
trimming drops the blank characters at both ends of a text. `after?` reads a fixed beginning off
a text; it answers exactly on the texts that have it.
-/

namespace AnswerStream.Text

/-- The White_Space property, which reaches beyond ASCII. -/
def blank (c : Char) : Bool :=
  let n := c.toNat
  (9 ≤ n && n ≤ 13) || n == 0x20 || n == 0x85 || n == 0xA0 || n == 0x1680 ||
    (0x2000 ≤ n && n ≤ 0x200A) || n == 0x2028 || n == 0x2029 || n == 0x202F || n == 0x205F ||
    n == 0x3000

def trimStart (cs : List Char) : List Char := cs.dropWhile blank

def trimEnd (cs : List Char) : List Char := (cs.reverse.dropWhile blank).reverse

def trimChars (cs : List Char) : List Char := trimEnd (trimStart cs)

def trim (s : String) : String := String.ofList (trimChars s.toList)

/-- Trimming such a text leaves nothing. -/
def isBlank (s : String) : Bool := s.toList.all blank

/-- What follows `lead`, where the text starts with it. -/
def after? : (lead cs : List Char) → Option (List Char)
  | [], cs => some cs
  | _ :: _, [] => none
  | l :: lead, c :: cs => if l = c then after? lead cs else none

@[simp] theorem after?_append (lead cs : List Char) : after? lead (lead ++ cs) = some cs := by
  induction lead with
  | nil => rfl
  | cons l lead ih => simp [after?, ih]

theorem after?_eq_some_iff {lead cs rest : List Char} :
    after? lead cs = some rest ↔ cs = lead ++ rest := by
  induction lead generalizing cs with
  | nil => simp [after?, eq_comm]
  | cons l lead ih =>
    cases cs with
    | nil => simp [after?]
    | cons c cs =>
      by_cases h : l = c
      · simp [after?, h, ih]
      · simp [after?, h, Ne.symm h]

def startsWith (s lead : String) : Bool := (after? lead.toList s.toList).isSome

/-- ASCII letters become capitals; every other character stays. -/
def upperAscii (s : String) : String := s.map Char.toUpper

/-- ASCII letters become small; every other character stays. -/
def lowerAscii (s : String) : String := s.map Char.toLower

def dropLeading (d : Char) (s : String) : String := String.ofList (s.toList.dropWhile (· == d))

def dropTrailing (d : Char) (s : String) : String :=
  String.ofList (s.toList.reverse.dropWhile (· == d)).reverse

end AnswerStream.Text
