import AnswerStream.Text.Blank

/-!
Cutting a text at separators. A text with `n` separators has `n + 1` pieces, some of them perhaps
empty; putting the separator back between them gives the text again.
-/

namespace AnswerStream.Text

/-- Puts a character in front of the first piece. -/
def extendFirst (c : Char) : List (List Char) → List (List Char)
  | [] => [[c]]
  | piece :: rest => (c :: piece) :: rest

/-- The pieces between the separators. -/
def pieces (separates : Char → Bool) (cs : List Char) : List (List Char) :=
  cs.foldr (fun c ps => if separates c then [] :: ps else extendFirst c ps) [[]]

/-- The pieces between blanks that hold something. -/
def words (cs : List Char) : List (List Char) := (pieces blank cs).filter (!·.isEmpty)

@[simp] theorem pieces_nil (separates : Char → Bool) : pieces separates [] = [[]] := rfl

theorem pieces_cons (separates : Char → Bool) (c : Char) (cs : List Char) :
    pieces separates (c :: cs) =
      if separates c then [] :: pieces separates cs else extendFirst c (pieces separates cs) := rfl

theorem pieces_ne_nil (separates : Char → Bool) (cs : List Char) : pieces separates cs ≠ [] := by
  cases cs with
  | nil => simp
  | cons c cs =>
    rw [pieces_cons]
    split
    · simp
    · cases pieces separates cs <;> simp [extendFirst]

end AnswerStream.Text
