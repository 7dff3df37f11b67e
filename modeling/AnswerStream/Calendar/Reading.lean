import AnswerStream.Calendar.Timestamp
import AnswerStream.Text.Blank

/-!
Reading dates and instants. There are three notations of an instant: the strict one of the internet
with an offset, a plain local one without an offset, and a loose one that allows blanks around its
parts.
-/

namespace AnswerStream.Calendar

/-- A reader of the start of a text. -/
abbrev Part (α : Type) := List Char → Option (α × List Char)

/-- Between `least` and `most` digits, as many as there are. -/
def digits (least most : Nat) : Part Nat := fun cs =>
  let run := (cs.take most).takeWhile Char.isDigit
  if least ≤ run.length then
    some (Decimal.ofDigits (run.filterMap Decimal.digit?), cs.drop run.length)
  else none

def exactly (c : Char) : Part Unit
  | d :: rest => if c = d then some ((), rest) else none
  | [] => none

/-- A digit or more after a point, read as nanoseconds; digits after the ninth are dropped. -/
def fraction : Part Nat
  | '.' :: rest => do
    let run := (rest.take 9).takeWhile Char.isDigit
    let (n, tail) ← digits 1 9 rest
    some (n * Nat.pow 10 (9 - run.length), tail.dropWhile Char.isDigit)
  | cs => some (0, cs)

/-- Hours and minutes east of Greenwich in seconds, `gap` reading what stands between them. -/
def offset (gap : Part Unit) : Part Int
  | 'Z' :: rest | 'z' :: rest => some (0, rest)
  | sign :: rest =>
    if sign = '+' ∨ sign = '-' ∨ sign = '\u2212' then do
      let (hours, rest) ← digits 2 2 rest
      let (_, rest) ← gap rest
      let (minutes, rest) ← digits 2 2 rest
      let seconds : Int := (hours * 3600 + minutes * 60 : Nat)
      if hours < 24 ∧ minutes < 60 then some (if sign = '+' then seconds else -seconds, rest)
      else none
    else none
  | [] => none

/-- Date and time as they are written. -/
structure Written where
  year : Int
  month : Nat
  day : Nat
  time : TimeOfDay
  deriving DecidableEq, Repr

def Written.instant? (w : Written) (offset : Int) : Option Timestamp := do
  let date ← Date.ofParts? w.year w.month w.day
  if w.time.valid then Timestamp.ofLocal? date w.time offset else none

/-- Digits of fixed width throughout. -/
def strict? (cs : List Char) : Option Timestamp := do
  let (year, cs) ← digits 4 4 cs
  let (_, cs) ← exactly '-' cs
  let (month, cs) ← digits 2 2 cs
  let (_, cs) ← exactly '-' cs
  let (day, cs) ← digits 2 2 cs
  let cs ← match cs with
    | 'T' :: rest | 't' :: rest | ' ' :: rest => some rest
    | _ => none
  let (hour, cs) ← digits 2 2 cs
  let (_, cs) ← exactly ':' cs
  let (minute, cs) ← digits 2 2 cs
  let (_, cs) ← exactly ':' cs
  let (second, cs) ← digits 2 2 cs
  let (nano, cs) ← fraction cs
  let (east, cs) ← offset (exactly ':') cs
  if cs.isEmpty then Written.instant? ⟨year, month, day, ⟨hour, minute, second, nano⟩⟩ east
  else none

/-- A year may have a sign, and then any number of digits. -/
def year : Part Int := fun cs =>
  match Text.trimStart cs with
  | '-' :: rest => (digits 1 rest.length rest).map fun p => (-(p.1 : Int), p.2)
  | '+' :: rest => (digits 1 rest.length rest).map fun p => ((p.1 : Int), p.2)
  | rest => (digits 1 4 rest).map fun p => ((p.1 : Int), p.2)

/-- One or two digits after any blanks. -/
def twoDigits : Part Nat := fun cs => digits 1 2 (Text.trimStart cs)

def blanks : Part Unit := fun cs => some ((), Text.trimStart cs)

def noGap : Part Unit := fun cs => some ((), cs)

/-- Year, month and day with dashes; `gap` may stand before a dash. -/
def datePart (gap : Part Unit) : Part (Int × Nat × Nat) := fun cs => do
  let (y, cs) ← year cs
  let (_, cs) ← gap cs
  let (_, cs) ← exactly '-' cs
  let (m, cs) ← twoDigits cs
  let (_, cs) ← gap cs
  let (_, cs) ← exactly '-' cs
  let (d, cs) ← twoDigits cs
  some ((y, m, d), cs)

/-- Hour, minute, second and fraction with colons; `gap` may stand before a colon. -/
def timePart (gap : Part Unit) : Part TimeOfDay := fun cs => do
  let (hour, cs) ← twoDigits cs
  let (_, cs) ← gap cs
  let (_, cs) ← exactly ':' cs
  let (minute, cs) ← twoDigits cs
  let (_, cs) ← gap cs
  let (_, cs) ← exactly ':' cs
  let (second, cs) ← twoDigits cs
  let (nano, cs) ← fraction cs
  some (⟨hour, minute, second, nano⟩, cs)

/-- A time without an offset, read as Coordinated Universal Time. -/
def plain? (cs : List Char) : Option Timestamp := do
  let ((y, m, d), cs) ← datePart noGap cs
  let (_, cs) ← exactly 'T' cs
  let (time, cs) ← timePart noGap cs
  if cs.isEmpty then Written.instant? ⟨y, m, d, time⟩ 0 else none

/-- Colons and blanks in any number. -/
def looseGap : Part Unit := fun cs => some ((), cs.dropWhile fun c => c == ':' || Text.blank c)

def looseOffset : Part Int := fun cs =>
  match cs with
  | a :: b :: c :: rest =>
    if a.toUpper = 'U' ∧ b.toUpper = 'T' ∧ c.toUpper = 'C' then some (0, rest)
    else offset looseGap cs
  | _ => offset looseGap cs

def loose? (cs : List Char) : Option Timestamp := do
  let ((y, m, d), cs) ← datePart blanks cs
  let cs ← match cs with
    | 'T' :: rest | 't' :: rest | ' ' :: rest => some rest
    | _ => none
  let (time, cs) ← timePart blanks cs
  let (east, cs) ← looseOffset (Text.trimStart cs)
  if (Text.trimStart cs).isEmpty then Written.instant? ⟨y, m, d, time⟩ east else none

/-- A date alone. -/
def Date.parse? (s : String) : Option Date := do
  let ((y, m, d), cs) ← datePart noGap s.toList
  if cs.isEmpty then Date.ofParts? y m d else none

end AnswerStream.Calendar
