import AnswerStream.Json.Printer
import AnswerStream.Json.Record

/-!
The answer to a query, its sources, and the progress of the research behind it, with their records
in JSON. Optional members of an answer or a source are left out where they hold nothing; those of a
progress report are written as null.
-/

namespace AnswerStream
open Json (Node Record Value)

/-- A source that an answer refers to. -/
structure Reference where
  title : String
  url : String
  snippet : Option String
  timestamp : Option String
  deriving DecidableEq, Repr

structure Answer where
  text : String
  references : List Reference
  status : String
  threadSlug : Option String
  deriving DecidableEq, Repr

/-- The state of a research plan. -/
structure Progress where
  step : Option String
  etaSeconds : Option Nat
  goals : List String
  percent : Option Nat
  deriving DecidableEq, Repr

/-- A member that is left out where it holds nothing. -/
def optionalMember (name : String) (s : Option String) : List (String × Value) :=
  match s with
  | none => []
  | some s => [(name, .text s)]

namespace Reference

def fieldNames : List String := ["title", "url", "snippet", "timestamp"]

def ofNode? (n : Node) : Option Reference := do
  let r ← Record.ofNode? fieldNames n
  let title ← r.required? "title" Node.text?
  let url ← r.required? "url" Node.text?
  let snippet ← r.default? "snippet" none (Node.nullable? Node.text?)
  let timestamp ← r.default? "timestamp" none (Node.nullable? Node.text?)
  some { title, url, snippet, timestamp }

def toValue (r : Reference) : Value :=
  .object ([("title", .text r.title), ("url", .text r.url)] ++
    optionalMember "snippet" r.snippet ++ optionalMember "timestamp" r.timestamp)

end Reference

namespace Answer

def fieldNames : List String := ["answer", "references", "status", "thread_slug"]

def ofNode? (n : Node) : Option Answer := do
  let r ← Record.ofNode? fieldNames n
  let text ← r.required? "answer" Node.text?
  let references ← r.required? "references" (Node.list? Reference.ofNode?)
  let status ← r.required? "status" Node.text?
  let threadSlug ← r.default? "thread_slug" none (Node.nullable? Node.text?)
  some { text, references, status, threadSlug }

def toValue (a : Answer) : Value :=
  .object ([("answer", .text a.text), ("references", .array (a.references.map Reference.toValue)),
    ("status", .text a.status)] ++ optionalMember "thread_slug" a.threadSlug)

end Answer

namespace Progress

def fieldNames : List String := ["progress", "eta_seconds", "goals", "pct_complete"]

def ofNode? (n : Node) : Option Progress := do
  let r ← Record.ofNode? fieldNames n
  let step ← r.named? "progress" (Node.nullable? Node.text?)
  let etaSeconds ← r.named? "eta_seconds" (Node.nullable? (Node.natural? (Nat.pow 2 64)))
  let goals ← r.required? "goals" (Node.list? Node.text?)
  let percent ← r.named? "pct_complete" (Node.nullable? (Node.natural? 256))
  some { step, etaSeconds, goals, percent }

def orNull {α : Type} (write : α → Value) : Option α → Value
  | none => .null
  | some a => write a

def toValue (p : Progress) : Value :=
  .object [("progress", orNull .text p.step),
    ("eta_seconds", orNull (fun n => .int n) p.etaSeconds),
    ("goals", .array (p.goals.map .text)),
    ("pct_complete", orNull (fun n => .int n) p.percent)]

end Progress
end AnswerStream
