import AnswerStream.Json.Token
import Mathlib.Data.List.Basic

/-!
The strings of JSON. Between its quotes a string is written in pieces: characters that stand for
themselves or are escaped, and code units in four hexadecimal digits. The code units of a surrogate
pair are one character, and a string with a lone surrogate has no text. The reader takes just these
strings, piece by piece.
-/

namespace AnswerStream.Json

/-- What is written in one go. -/
inductive Piece
  | char (c : Char)
  | unit (n : Nat)
  deriving DecidableEq, Repr

namespace Piece

inductive Writes : Piece → List Char → Prop
  | plain {c : Char} (hquote : c ≠ '"') (hslash : c ≠ '\\') (hcontrol : 0x20 ≤ c.toNat) :
      Writes (.char c) [c]
  | escaped {e c : Char} (h : Token.simpleEscape? e = some c) : Writes (.char c) ['\\', e]
  | unit {ds : List Char} {n : Nat} (hlength : ds.length = 4) (h : Text.hexValue? ds = some n) :
      Writes (.unit n) ('\\' :: 'u' :: ds)

/-- Pieces one after the other. -/
inductive WritesAll : List Piece → List Char → Prop
  | nil : WritesAll [] []
  | snoc {ps : List Piece} {cs part : List Char} {p : Piece} (h : WritesAll ps cs)
      (hp : p.Writes part) : WritesAll (ps ++ [p]) (cs ++ part)

/-- The characters that pieces stand for, if every surrogate among them has its partner next to it.
-/
def chars? : List Piece → Option (List Char)
  | [] => some []
  | .char c :: ps => (chars? ps).map (c :: ·)
  | .unit n :: ps =>
    if TextScan.isLeading n then
      match ps with
      | .unit m :: rest =>
        if TextScan.isTrailing m then
          (chars? rest).map (Char.ofNat ((n - 0xD800) * 0x400 + (m - 0xDC00) + 0x10000) :: ·)
        else none
      | _ => none
    else if TextScan.isTrailing n then none
    else (chars? ps).map (Char.ofNat n :: ·)

def text? (ps : List Piece) : Option String := (chars? ps).map String.ofList

end Piece

namespace TextScan

def take (t : TextScan) : Piece → TextScan
  | .char c => t.push c
  | .unit n => t.pushUnit n

/-- A surrogate without a partner is never made good. -/
theorem finish_foldl_of_not_sound (ps : List Piece) {t : TextScan} (h : t.sound = false) :
    (ps.foldl take t).finish = none := by
  induction ps generalizing t with
  | nil => simp [finish, h]
  | cons p ps ih =>
    apply ih
    cases p with
    | char c => simp [take, push, h]
    | unit n =>
      rw [take, pushUnit]
      split <;> split_ifs <;> simp [push, h]

theorem finish_foldl (ps : List Piece) (done : List Char) :
    (ps.foldl take ⟨done, none, true⟩).finish =
      (Piece.chars? ps).map fun cs => String.ofList (done.reverse ++ cs) := by
  fun_induction Piece.chars? ps generalizing done with
  | case1 => simp [finish]
  | case2 c ps ih => simpa [take, push, Function.comp_def] using ih (c :: done)
  | case3 n hlead m rest htrail ih =>
    simpa [take, pushUnit, hlead, htrail, Function.comp_def] using ih (_ :: done)
  | case4 n hlead m rest htrail =>
    have hlone := @finish_foldl_of_not_sound rest ⟨done, none, false⟩ rfl
    simpa [take, pushUnit, hlead, htrail] using hlone
  | case5 n ps hlead hnext =>
    cases ps with
    | nil => simp [take, pushUnit, hlead, finish]
    | cons p rest =>
      cases p with
      | char c =>
        have hlone := @finish_foldl_of_not_sound rest ⟨c :: done, none, false⟩ rfl
        simpa [take, pushUnit, push, hlead] using hlone
      | unit m => exact absurd rfl (hnext m rest)
  | case6 n ps hlead htrail =>
    have hlone := @finish_foldl_of_not_sound ps ⟨done, none, false⟩ rfl
    simpa [take, pushUnit, hlead, htrail] using hlone
  | case7 n ps hlead htrail ih =>
    simpa [take, pushUnit, push, hlead, htrail, Function.comp_def] using ih (Char.ofNat n :: done)

theorem finish_foldl_start (ps : List Piece) : (ps.foldl take start).finish = Piece.text? ps := by
  rw [start, finish_foldl]
  rfl

end TextScan
end AnswerStream.Json
