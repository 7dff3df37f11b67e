import AnswerStream.Text.Blank

/-!
One line of an event stream: the name of the event, a line of its data, the blank line that ends a
frame, or a line without meaning here.
-/

namespace AnswerStream.Sse

inductive Field
  | event (name : String)
  | data (value : String)
  | blank
  | ignored
  deriving DecidableEq, Repr

namespace Field

/-- At most one space after the colon is dropped from data. -/
def dropSpace : List Char → List Char
  | ' ' :: rest => rest
  | cs => cs

def ofChars (cs : List Char) : Field :=
  if cs.isEmpty then .blank
  else
    match Text.after? "event:".toList cs with
    | some rest => .event (String.ofList (Text.trimChars rest))
    | none =>
      match Text.after? "data:".toList cs with
      | some rest => .data (String.ofList (dropSpace rest))
      | none => .ignored

/-- Comments and unknown names are ignored. -/
def ofLine (line : String) : Field := ofChars line.toList

@[simp] theorem ofLine_empty : ofLine "" = .blank := rfl

end Field
end AnswerStream.Sse
