import AnswerStream.Text.Pieces

/-!
Labels beyond ASCII as ASCII. The ASCII characters come first, and behind the last hyphen stand
numbers that say which characters are inserted where. A number is a run of digits, the least first;
how large a digit has to be for another to follow depends on the numbers before it.
-/

namespace AnswerStream.Host.Punycode

def base : Nat := 36

/-- The first character that is inserted. -/
def firstInserted : Nat := 128

def firstBias : Nat := 72

/-- Numbers stay below. -/
def limit : Nat := Nat.pow 2 32

/-- Letters are the digits below 26, in either case. -/
def digit? (c : Char) : Option Nat :=
  if 'a' ≤ c ∧ c ≤ 'z' then some (c.toNat - 'a'.toNat)
  else if 'A' ≤ c ∧ c ≤ 'Z' then some (c.toNat - 'A'.toNat)
  else if c.isDigit then some (c.toNat - '0'.toNat + 26)
  else none

def digitChar (d : Nat) : Char :=
  if d < 26 then Char.ofNat ('a'.toNat + d) else Char.ofNat ('0'.toNat + d - 26)

/-- The smallest digit behind which another one follows, `k` being `base` times its place. -/
def threshold (k bias : Nat) : Nat := min (max (k - bias) 1) 26

theorem threshold_pos (k bias : Nat) : 0 < threshold k bias := by
  unfold threshold
  omega

/-- Divides until what is left is small, and counts the divisions by `base`. -/
def shrink (delta k : Nat) : Nat × Nat :=
  if 455 < delta then shrink (delta / 35) (k + base) else (delta, k)
  termination_by delta
  decreasing_by exact Nat.div_lt_self (by omega) (by omega)

/-- The bias behind a number, `points` being the length of the text with what it inserts. -/
def adapt (delta points : Nat) (isFirst : Bool) : Nat :=
  let scaled := if isFirst then delta / 700 else delta / 2
  let (rest, k) := shrink (scaled + scaled / points) 0
  k + base * rest / (rest + 38)

/-- Reads a number on top of `value`, and what follows it. -/
def readNumber (bias : Nat) : (cs : List Char) → (k weight value : Nat) → Option (Nat × List Char)
  | [], _, _, _ => none
  | c :: rest, k, weight, value => do
    let d ← digit? c
    let value := value + d * weight
    let next := weight * (base - threshold k bias)
    if limit ≤ value then none
    else if d < threshold k bias then some (value, rest)
    else if limit ≤ next then none
    else readNumber bias rest (k + base) next value

theorem length_of_readNumber {bias : Nat} {cs : List Char} {k weight value : Nat}
    {read : Nat × List Char} (h : readNumber bias cs k weight value = some read) :
    read.2.length < cs.length := by
  induction cs generalizing k weight value with
  | nil => simp [readNumber] at h
  | cons c rest ih =>
    simp only [readNumber, Option.bind_eq_bind] at h
    obtain ⟨d, _, h⟩ := Option.bind_eq_some_iff.mp h
    split at h
    · simp at h
    · split at h
      · obtain rfl := Option.some.inj h
        simp
      · split at h
        · simp at h
        · exact Nat.lt_succ_of_lt (ih h)

/-- Inserts a character for every number, `last` being the one inserted before. -/
def insertAll (bias last place : Nat) (done cs : List Char) : Option (List Char) :=
  match cs with
  | [] => some done
  | c :: rest =>
    match _h : readNumber bias (c :: rest) base 1 place with
    | none => none
    | some (value, behind) =>
      let points := done.length + 1
      let n := last + value / points
      if n.isValidChar then
        insertAll (adapt (value - place) points (place == 0)) n (value % points + 1)
          (done.insertIdx (value % points) (Char.ofNat n)) behind
      else none
  termination_by cs.length
  decreasing_by exact length_of_readNumber ‹_›

/-- What stands before the last hyphen and behind it. A hyphen in front of all belongs to the
numbers. -/
def splitLast (cs : List Char) : List Char × List Char :=
  let behind := (cs.reverse.takeWhile (· ≠ '-')).reverse
  match cs.length - behind.length with
  | 0 | 1 => ([], cs)
  | n + 1 => (cs.take n, behind)

/-- The text that is written as `cs`. -/
def decode? (cs : List Char) : Option (List Char) :=
  let (kept, numbers) := splitLast cs
  insertAll firstBias firstInserted 0 kept numbers

/-- The digits of a number. -/
def writeNumber (bias k value : Nat) : List Char :=
  let t := threshold k bias
  if value < t then [digitChar value]
  else
    digitChar (t + (value - t) % (base - t)) ::
      writeNumber bias (k + base) ((value - t) / (base - t))
  termination_by value
  decreasing_by
    have hp := threshold_pos k bias
    exact Nat.lt_of_le_of_lt (Nat.div_le_self _ _) (by omega)

/-- The digits written so far, the number that grows until the next insertion, the bias, and the
length of the text so far. -/
structure Writer where
  written : List Char
  delta : Nat
  bias : Nat
  length : Nat

/-- Passes a character by while the character `n` is inserted. -/
def Writer.pass (kept n : Nat) (w : Writer) (c : Char) : Writer :=
  if c.toNat < n then { w with delta := w.delta + 1 }
  else if c.toNat = n then
    { written := w.written ++ writeNumber w.bias base w.delta
      delta := 0
      bias := adapt w.delta (w.length + 1) (w.length == kept)
      length := w.length + 1 }
  else w

/-- Inserts the characters of a sorted list, `last` being the first that could come. -/
def Writer.insertAll (cs : List Char) (kept : Nat) (w : Writer) (last : Nat) : List Nat → Writer
  | [] => w
  | n :: rest =>
    let w := { w with delta := w.delta + (n - last) * (w.length + 1) }
    let w := cs.foldl (Writer.pass kept n) w
    insertAll cs kept { w with delta := w.delta + 1 } (n + 1) rest

def encode (cs : List Char) : List Char :=
  let kept := cs.filter (·.toNat < firstInserted)
  let inserted := ((cs.map Char.toNat).filter (firstInserted ≤ ·)).mergeSort.eraseDups
  let w := Writer.insertAll cs kept.length ⟨[], 0, firstBias, kept.length⟩ firstInserted inserted
  kept ++ (if kept.isEmpty then [] else ['-']) ++ w.written

end AnswerStream.Host.Punycode
