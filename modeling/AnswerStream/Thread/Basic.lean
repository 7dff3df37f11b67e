import AnswerStream.Calendar.Reading
import AnswerStream.Json.Printer
import AnswerStream.Json.Record

/-!
Threads of a library: the entries of a page as the server sends them, the records made of them, and
the query that selects records by date.
-/

namespace AnswerStream
open Calendar (Date Timestamp)
open Json (Node Record Value)

/-- One entry of a page. The last two members mean something on the first entry only. -/
structure ThreadEntry where
  title : String
  slug : String
  lastQuery : Option String
  hasNextPage : Bool
  totalThreads : Option Nat
  deriving DecidableEq, Repr

namespace ThreadEntry

def fieldNames : List String :=
  ["title", "slug", "last_query_datetime", "has_next_page", "total_threads"]

def ofNode? (n : Node) : Option ThreadEntry := do
  let r ← Record.ofNode? fieldNames n
  let title ← r.default? "title" none (Node.nullable? Node.text?)
  let slug ← r.default? "slug" none (Node.nullable? Node.text?)
  let lastQuery ← r.default? "last_query_datetime" none (Node.nullable? Node.text?)
  let hasNextPage ← r.default? "has_next_page" false Node.bool?
  let totalThreads ← r.default? "total_threads" none (Node.nullable? (Node.natural? (Nat.pow 2 64)))
  some { title := title.getD "", slug := slug.getD "", lastQuery, hasNextPage, totalThreads }

/-- With an offset or without one. -/
def createdAt? (e : ThreadEntry) : Option Timestamp := do
  let cs := Text.trimChars (← e.lastQuery).toList
  Calendar.strict? cs <|> Calendar.plain? cs

end ThreadEntry

structure ThreadRecord where
  title : String
  url : String
  createdAt : Timestamp
  deriving DecidableEq, Repr

namespace ThreadRecord

/-- An entry without a usable time gives no record. -/
def ofEntry? (baseUrl : String) (e : ThreadEntry) : Option ThreadRecord :=
  e.createdAt?.map fun createdAt =>
    { title := if e.title.isEmpty then "Untitled" else e.title
      url := Text.dropTrailing '/' baseUrl ++ "/search/" ++ e.slug
      createdAt }

def fieldNames : List String := ["title", "url", "created_at"]

def ofNode? (n : Node) : Option ThreadRecord := do
  let r ← Record.ofNode? fieldNames n
  let title ← r.required? "title" Node.text?
  let url ← r.required? "url" Node.text?
  let createdAt ← r.required? "created_at" fun n => n.text?.bind fun s => Calendar.loose? s.toList
  some { title, url, createdAt }

def toValue (t : ThreadRecord) : Value :=
  .object [("title", .text t.title), ("url", .text t.url), ("created_at", .text t.createdAt.render)]

end ThreadRecord

/-- The dates are inclusive bounds; the server itself applies the search term. -/
structure ThreadQuery where
  first : Option Date
  last : Option Date
  searchTerm : Option String
  deriving DecidableEq, Repr

def ThreadQuery.accepts (q : ThreadQuery) (t : ThreadRecord) : Bool :=
  let date := t.createdAt.date
  q.first.all (fun first => first.notAfter date) && q.last.all fun last => date.notAfter last

end AnswerStream
