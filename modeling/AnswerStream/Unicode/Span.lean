import AnswerStream.Text.Hex
import AnswerStream.Text.Pieces

/-!
Properties of code points as tables of spans. A table is written as words, each a code point or the
first and last of a span in hexadecimal, and is searched by halves.
-/

namespace AnswerStream.Unicode

/-- Code points that share a value. -/
structure Span (α : Type) where
  first : Nat
  last : Nat
  value : α

namespace Span

variable {α : Type}

def number (cs : List Char) : Nat := (Text.hexValue? cs).getD 0

/-- Reads a code point, or the ends of a span with a hyphen between them. -/
def ofWord (value : α) (word : List Char) : Span α :=
  match Text.pieces (· = '-') word with
  | [first, last] => ⟨number first, number last, value⟩
  | _ => ⟨number word, number word, value⟩

def ofText (value : α) (text : String) : List (Span α) :=
  (Text.words text.toList).map (ofWord value)

/-- Spans sorted by their first code points. -/
def table (spans : List (Span α)) : Array (Span α) :=
  (spans.mergeSort fun s t => s.first ≤ t.first).toArray

/-- The table of a property that is given by the spans of each of its values. -/
def classes (values : List (α × String)) : Array (Span α) :=
  table (values.flatMap fun v => ofText v.1 v.2)

/-- Searches between two places of a table. -/
def search (spans : Array (Span α)) (n low high : Nat) : Option (Span α) :=
  if low < high then
    let middle := (low + high) / 2
    match spans[middle]? with
    | none => none
    | some s =>
      if n < s.first then search spans n low middle
      else if s.last < n then search spans n (middle + 1) high
      else some s
  else none
  termination_by high - low

/-- The span of a table that a code point lies in. -/
def find? (spans : Array (Span α)) (n : Nat) : Option (Span α) := search spans n 0 spans.size

def value? (spans : Array (Span α)) (n : Nat) : Option α := (find? spans n).map Span.value

end Span
end AnswerStream.Unicode
