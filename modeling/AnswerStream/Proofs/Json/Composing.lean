import AnswerStream.Json.Printer
import AnswerStream.Proofs.Json.Grammar

/-!
Texts put together. The texts of tokens, one behind the other, are a text of them all. So the texts
of items with commas between them and brackets around them are a text of the array, and the texts of
members likewise one of the object.
-/

namespace AnswerStream.Json

namespace Token

theorem WritesAll.append {ts us : List Token} {cs ds : List Char} (h : WritesAll ts cs)
    (hmore : WritesAll us ds) : WritesAll (ts ++ us) (cs ++ ds) := by
  induction hmore with
  | nil => simpa using h
  | blank _ hc ih =>
    rw [← List.append_assoc]
    exact ih.blank hc
  | snoc _ ht ih =>
    rw [← List.append_assoc, ← List.append_assoc]
    exact ih.snoc ht

theorem Writes.single {t : Token} {cs : List Char} (h : t.Writes cs) : WritesAll [t] cs :=
  WritesAll.nil.snoc h

theorem Writes.cons {t : Token} {ts : List Token} {lexeme cs : List Char} (ht : t.Writes lexeme)
    (h : WritesAll ts cs) : WritesAll (t :: ts) (lexeme ++ cs) :=
  ht.single.append h

end Token

theorem Value.separated_cons (sep part : List Char) (parts : List (List Char)) :
    separated sep (part :: parts) = part ++ parts.flatMap (sep ++ ·) := by
  induction parts generalizing part with
  | nil => simp [separated]
  | cons next parts ih => simp [separated, ih]

namespace Node
open Value (separated)

/-- The grammar of members. -/
def WritesMember (member : Option String × Node) (cs : List Char) : Prop :=
  Token.WritesAll (.text member.1 :: .colon :: member.2.tokens) cs

theorem writesAll_moreItems {items : List Node} {parts : List (List Char)}
    (h : List.Forall₂ Writes items parts) :
    Token.WritesAll (moreItems items) (parts.flatMap ([','] ++ ·)) := by
  induction h with
  | nil => exact .nil
  | cons hitem _ ih => exact Token.Writes.comma.cons (Token.WritesAll.append hitem ih)

theorem writesAll_moreMembers {members : List (Option String × Node)} {parts : List (List Char)}
    (h : List.Forall₂ WritesMember members parts) :
    Token.WritesAll (moreMembers members) (parts.flatMap ([','] ++ ·)) := by
  induction h with
  | nil => exact .nil
  | cons hmember _ ih => exact Token.Writes.comma.cons (Token.WritesAll.append hmember ih)

theorem writes_array {items : List Node} {parts : List (List Char)}
    (h : List.Forall₂ Writes items parts) :
    (Node.array items).Writes ('[' :: separated [','] parts ++ [']']) := by
  have hitems : Token.WritesAll (itemTokens items) (separated [','] parts) := by
    cases h with
    | nil => exact .nil
    | cons hitem hrest =>
      rw [Value.separated_cons]
      exact Token.WritesAll.append hitem (writesAll_moreItems hrest)
  exact Token.Writes.beginArray.cons (hitems.append Token.Writes.endArray.single)

theorem writes_object {members : List (Option String × Node)} {parts : List (List Char)}
    (h : List.Forall₂ WritesMember members parts) :
    (Node.object members).Writes ('{' :: separated [','] parts ++ ['}']) := by
  have hmembers : Token.WritesAll (memberTokens members) (separated [','] parts) := by
    cases h with
    | nil => exact .nil
    | cons hmember hrest =>
      rw [Value.separated_cons]
      exact Token.WritesAll.append hmember (writesAll_moreMembers hrest)
  exact Token.Writes.beginObject.cons (hmembers.append Token.Writes.endObject.single)

end Node
end AnswerStream.Json
