import AnswerStream.Decimal.Digits
import AnswerStream.Text.Hex
import AnswerStream.Text.Pieces

/-!
Hosts that are given by an address: one of 32 bits as up to four numbers with dots between them, one
of 128 bits as eight groups of hexadecimal digits with colons between them, of which one run of
zeros may be left out.
-/

namespace AnswerStream.Host

namespace Address4

/-- The number of digits in a base; no digits are none. -/
def digits? (digit? : Char → Option Nat) (base : Nat) (cs : List Char) : Option Nat :=
  cs.foldlM (fun n c => (digit? c).bind fun d => if d < base then some (base * n + d) else none) 0

/-- Numbers are decimal, octal behind a zero, and hexadecimal behind a zero and an x. -/
def number? : List Char → Option Nat
  | [] => none
  | '0' :: 'x' :: rest => digits? Text.hexDigit? 16 rest
  | '0' :: 'X' :: rest => digits? Text.hexDigit? 16 rest
  | '0' :: c :: rest => digits? Decimal.digit? 8 (c :: rest)
  | cs => digits? Decimal.digit? 10 cs

/-- The parts of a name; one dot at the end does not count. -/
def parts (name : List Char) : List (List Char) :=
  let ps := Text.pieces (· = '.') name
  if 1 < ps.length ∧ ps.getLast? = some [] then ps.dropLast else ps

/-- Whether the last part of a name is a number or all digits; such a name has to be an address. -/
def isMeant (name : List Char) : Bool :=
  match (parts name).getLast? with
  | none | some [] => false
  | some part => part.all Char.isDigit || (number? part).isSome

/-- The address that numbers make up: each takes an octet, and the last all that are left. -/
def ofNumbers? (ns : List Nat) : Option Nat :=
  match ns.reverse with
  | [] => none
  | last :: front =>
    if front.length ≤ 3 ∧ front.all (· < 256) ∧ last < Nat.pow 256 (4 - front.length) then
      some (ns.dropLast.foldl (fun n d => 256 * n + d) 0 * Nat.pow 256 (4 - front.length) + last)
    else none

def parse? (name : List Char) : Option Nat := ((parts name).mapM number?).bind ofNumbers?

def render (address : Nat) : List Char :=
  List.intercalate ['.'] ([3, 2, 1, 0].map fun i => Decimal.render (address / Nat.pow 256 i % 256))

end Address4

namespace Address6

def groupCount : Nat := 8

/-- A group of one to four digits. -/
def group? (cs : List Char) : Option Nat := if cs.length ≤ 4 then Text.hexValue? cs else none

/-- A number below 256 without leading zeros. -/
def octet? (cs : List Char) : Option Nat :=
  if cs.head? = some '0' ∧ cs.length ≠ 1 then none
  else (Decimal.natural? cs).filter (· < 256)

/-- Four octets with dots between them stand for two groups. -/
def embedded? (cs : List Char) : Option (List Nat) := do
  let octets ← (Text.pieces (· = '.') cs).mapM octet?
  match octets with
  | [a, b, c, d] => some [256 * a + b, 256 * c + d]
  | _ => none

/-- Groups, the last of them perhaps as four octets. -/
def groups? : List (List Char) → Option (List Nat)
  | [] => some []
  | [last] => if last.contains '.' then embedded? last else (group? last).map fun g => [g]
  | cs :: rest => do
    let g ← group? cs
    let gs ← groups? rest
    some (g :: gs)

/-- The groups of a text; an empty text has none. -/
def side? (cs : List Char) : Option (List Nat) :=
  if cs.isEmpty then some [] else groups? (Text.pieces (· = ':') cs)

/-- The texts before and behind the first two colons in a row. -/
def splitGap : (before cs : List Char) → Option (List Char × List Char)
  | _, [] => none
  | before, ':' :: ':' :: rest => some (before.reverse, rest)
  | before, c :: rest => splitGap (c :: before) rest

/-- The eight groups of an address. Two colons in a row leave out at least one. -/
def parse? (cs : List Char) : Option (List Nat) :=
  match splitGap [] cs with
  | none => (side? cs).filter (·.length = groupCount)
  | some (before, behind) => do
    if before.contains '.' then none
    else
      let front ← side? before
      let back ← side? behind
      let known := front.length + back.length
      if known < groupCount then
        some (front ++ List.replicate (groupCount - known) 0 ++ back)
      else none

/-- How many of the first groups are zero. -/
def zeros (groups : List Nat) : Nat := (groups.takeWhile (· = 0)).length

/-- The longest run of zeros, as its place and length; the first of several. -/
def longestGap (groups : List Nat) : Nat × Nat :=
  (List.range groups.length).foldl
    (fun best i => if best.2 < zeros (groups.drop i) then (i, zeros (groups.drop i)) else best)
    (0, 0)

def renderGroups (groups : List Nat) : List Char :=
  List.intercalate [':'] (groups.map (Nat.toDigits 16))

/-- Written with the longest run of two zeros or more left out. -/
def render (groups : List Nat) : List Char :=
  let (place, length) := longestGap groups
  if length < 2 then renderGroups groups
  else renderGroups (groups.take place) ++ [':', ':'] ++ renderGroups (groups.drop (place + length))

end Address6
end AnswerStream.Host
