import AnswerStream.Text.Hex
import AnswerStream.Text.Utf8

/-!
Octets as a percent sign and two digits. Writing escapes all octets beyond printable ASCII and those
of a given set; reading takes a percent sign without two digits as it stands.
-/

namespace AnswerStream.Text.Percent

def octet (c : Char) : UInt8 := UInt8.ofNat c.toNat

/-- The value of two digits. -/
def pair? (a b : UInt8) : Option UInt8 := do
  let high ← hexDigit? (Char.ofNat a.toNat)
  let low ← hexDigit? (Char.ofNat b.toNat)
  some (UInt8.ofNat (16 * high + low))

def decode : List UInt8 → List UInt8
  | [] => []
  | p :: a :: b :: rest =>
    if p = octet '%' then
      match pair? a b with
      | some value => value :: decode rest
      | none => p :: decode (a :: b :: rest)
    else p :: decode (a :: b :: rest)
  | p :: rest => p :: decode rest

def escape (b : UInt8) : List Char := ['%', hexCapital (b.toNat / 16), hexCapital (b.toNat % 16)]

/-- Escapes what is not printable ASCII or lies in the set. -/
def encodeChar (escaped : List Char) (c : Char) : List Char :=
  if 0x20 ≤ c.toNat ∧ c.toNat < 0x7F ∧ ¬ escaped.contains c then [c]
  else (Utf8.encode (String.singleton c)).flatMap escape

def encode (escaped cs : List Char) : List Char := cs.flatMap (encodeChar escaped)

end AnswerStream.Text.Percent
