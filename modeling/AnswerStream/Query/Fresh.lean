import AnswerStream.Query.Basic

/-!
Fresh identifiers in the random form of the universally unique ones: 128 bits as hexadecimal digits
in five groups, six of the bits being fixed.
-/

namespace AnswerStream.FreshIds

/-- The digits of a number, the most significant first, in a field of fixed width. -/
def hexDigits (width n : Nat) : List Char :=
  (List.range width).reverse.map fun i => Nat.digitChar (n / Nat.pow 16 i % 16)

/-- The identifier of a random number. The third group begins with the version, the fourth with the
two bits of the variant. -/
def identifier (n : Nat) : String :=
  let group (width shift : Nat) : List Char := hexDigits width (n / Nat.pow 16 shift)
  let variant := 8 + n / Nat.pow 16 15 % 4
  String.ofList (group 8 24 ++ '-' :: group 4 20 ++ '-' :: '4' :: group 3 16 ++
    '-' :: Nat.digitChar variant :: group 3 12 ++ '-' :: group 12 0)

def ofRandom (a b : Nat) : FreshIds := ⟨identifier a, identifier b⟩

@[simp] theorem length_hexDigits (width n : Nat) : (hexDigits width n).length = width := by
  simp [hexDigits]

end AnswerStream.FreshIds
