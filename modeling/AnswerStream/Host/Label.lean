import AnswerStream.Host.Punycode
import AnswerStream.Unicode.Composition
import AnswerStream.Unicode.Direction
import AnswerStream.Unicode.HostMapping
import AnswerStream.Unicode.Joining

/-!
The labels of a domain, the parts between its dots. A label beyond ASCII is written in ASCII behind
a fixed lead. It does not begin with a mark, its joiners stand where scripts need them, and its
directions do not mix.
-/

namespace AnswerStream.Host.Label
open Unicode

def isAscii (label : List Char) : Bool := label.all (·.toNat < 128)

/-- What encoded labels begin with. -/
def lead : List Char := "xn--".toList

/-- The most characters of an encoded label behind its lead. -/
def encodedLimit : Nat := 2000

/-- The most characters of a label that has to be encoded. -/
def decodedLimit : Nat := 1000

/-- Whether the mapping and composition of a text give the text again. -/
def isStable (label : List Char) : Bool :=
  label.all (fun c => HostMapping.ofChar c = .kept) && Composition.normalize label == label

/-- The label that an encoded one stands for; any other label stands for itself. -/
def decode? (label : List Char) : Option (List Char) :=
  match Text.after? lead label with
  | none => some label
  | some encoded =>
    if isAscii encoded ∧ label.getLast? ≠ some '-' ∧ encoded.length ≤ encodedLimit then
      (Punycode.decode? encoded).filter isStable
    else none

def toAscii (label : List Char) : List Char :=
  if isAscii label then label else lead ++ Punycode.encode label

def nonJoiner : Char := '\u200C'

def joiner : Char := '\u200D'

/-- Whether the first letter that is not transparent joins to this side. -/
def joins (side : Joining) (cs : List Char) : Bool :=
  match cs.find? fun c => Joining.ofChar c ≠ .transparent with
  | none => false
  | some c => Joining.ofChar c = side || Joining.ofChar c = .dual

/-- Joiners stand behind a cut-off vowel; the one that keeps letters apart also between letters that
would join. The text before is in reverse. -/
def joinersFit (before : List Char) : List Char → Bool
  | [] => true
  | c :: rest =>
    let fits :=
      if c = joiner ∨ c = nonJoiner then
        match before with
        | [] => false
        | b :: _ => Mark.isVirama b || (c = nonJoiner && joins .left before && joins .right rest)
      else true
    fits && joinersFit (c :: before) rest

/-- What holds of every label, empty ones included. -/
def isSound (label : List Char) : Bool :=
  !(label.head?.any Mark.isMark) && joinersFit [] label &&
    (isAscii label || label.length ≤ decodedLimit)

/-- Whether a label holds what is written from the right. -/
def hasRight (label : List Char) : Bool :=
  label.any fun c => [Direction.right, .arabicLetter, .arabicNumber].contains (Direction.ofChar c)

/-- What labels of either direction may hold. -/
def shared : List Direction :=
  [.europeanNumber, .europeanSeparator, .commonSeparator, .europeanTerminator, .neutral,
    .boundaryNeutral, .nonspacingMark]

/-- What a label of one direction may hold and end with, marks at its end not counted. -/
def keepsTo (inside atEnd : List Direction) (directions : List Direction) : Bool :=
  directions.all inside.contains &&
    (directions.reverse.find? (· ≠ .nonspacingMark)).all atEnd.contains

/-- Where a domain holds what is written from the right, each of its labels keeps to the direction
of its first character, and to one kind of digits. -/
def keepsDirection (label : List Char) : Bool :=
  let directions := label.map Direction.ofChar
  match directions.head? with
  | none => true
  | some .left => keepsTo (.left :: shared) [.left, .europeanNumber] directions
  | some .right | some .arabicLetter =>
    keepsTo (.right :: .arabicLetter :: .arabicNumber :: shared)
        [.right, .arabicLetter, .europeanNumber, .arabicNumber] directions &&
      !(directions.contains .europeanNumber && directions.contains .arabicNumber)
  | some _ => false

end AnswerStream.Host.Label
