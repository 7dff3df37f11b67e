/-!
Texts as octets. `decode?` accepts well-formed UTF-8 only; `lossy` reads any octets and writes one
replacement character for each maximal ill-formed part, so it agrees with `decode?` where that
answers.
-/

namespace AnswerStream.Utf8

def encode (s : String) : List UInt8 := s.toUTF8.data.toList

def decode? (bytes : List UInt8) : Option String := String.fromUTF8? ⟨bytes.toArray⟩

/-- Octets that may follow the lead octet: how many, and the range of the first of them. -/
structure Sequence where
  trailing : Nat
  low : UInt8
  high : UInt8

/-- Lead octets of sequences longer than one octet. The narrowed ranges keep out overlong forms,
surrogates and code points past U+10FFFF. -/
def Sequence.ofLead? (b : UInt8) : Option Sequence :=
  if 0xC2 ≤ b && b ≤ 0xDF then some ⟨1, 0x80, 0xBF⟩
  else if b == 0xE0 then some ⟨2, 0xA0, 0xBF⟩
  else if b == 0xED then some ⟨2, 0x80, 0x9F⟩
  else if 0xE1 ≤ b && b ≤ 0xEF then some ⟨2, 0x80, 0xBF⟩
  else if b == 0xF0 then some ⟨3, 0x90, 0xBF⟩
  else if 0xF1 ≤ b && b ≤ 0xF3 then some ⟨3, 0x80, 0xBF⟩
  else if b == 0xF4 then some ⟨3, 0x80, 0x8F⟩
  else none

/-- How many octets of `rest` continue a sequence that wants `wanted` more, the first of them
within `low` and `high`. -/
def continued : (wanted : Nat) → (low high : UInt8) → (rest : List UInt8) → Nat
  | 0, _, _, _ => 0
  | _ + 1, _, _, [] => 0
  | wanted + 1, low, high, b :: rest =>
    if low ≤ b && b ≤ high then continued wanted 0x80 0xBF rest + 1 else 0

def replacement : Char := '\uFFFD'

/-- The code point of a complete sequence. -/
def codePoint (lead : UInt8) (tail : List UInt8) : Nat :=
  let high := match tail.length with
    | 1 => lead.toNat % 32
    | 2 => lead.toNat % 16
    | _ => lead.toNat % 8
  tail.foldl (fun n b => n * 64 + b.toNat % 64) high

/-- Reads the octets from the left, `done` holding the characters so far in reverse. -/
def lossyFrom (done : List Char) : List UInt8 → List Char
  | [] => done.reverse
  | b :: rest =>
    if b < 0x80 then lossyFrom (Char.ofNat b.toNat :: done) rest
    else
      match Sequence.ofLead? b with
      | none => lossyFrom (replacement :: done) rest
      | some shape =>
        let n := continued shape.trailing shape.low shape.high rest
        let c := if n = shape.trailing then Char.ofNat (codePoint b (rest.take n)) else replacement
        lossyFrom (c :: done) (rest.drop n)
  termination_by bytes => bytes.length
  decreasing_by
    all_goals simp only [List.length_cons, List.length_drop]
    all_goals omega

def lossy (bytes : List UInt8) : String := String.ofList (lossyFrom [] bytes)

end AnswerStream.Utf8
