import AnswerStream.Client.Basic
import AnswerStream.Thread.Basic

/-!
Listing threads. The library comes in pages of a fixed size, each asked for by the number of entries
before it and repeated on its own where it fails; the date bounds are applied to the whole.
-/

namespace AnswerStream
open Json (Node Value)

/-- Entries asked for at a time. -/
def pageSize : Nat := 100

namespace ThreadEntry

/-- The entries of a page. -/
def pageOf? (text : String) : Option (List ThreadEntry) :=
  (Node.parse? text).bind (Node.list? ofNode?)

/-- A response whose body is no text counts as an empty one. -/
def ofResponse (r : Response) : Except Failure (List ThreadEntry) :=
  let text := r.text?.getD ""
  if r.isSuccess then
    match pageOf? text with
    | some entries => .ok entries
    | none => .error (.malformed .notPage text)
  else .error (.ofTransport (.status r.status (Failure.excerpt text)))

end ThreadEntry

namespace Client

variable {σ : Type}

def pageBody (q : ThreadQuery) (offset : Nat) : Value :=
  .object [("ascending", .bool false), ("limit", .int pageSize), ("offset", .int offset),
    ("search_term", .text (q.searchTerm.getD ""))]

def pageRequest (c : Client) (q : ThreadQuery) (offset : Nat) : Request :=
  { url := c.config.threadsUrl
    headers := c.headers "application/json"
    body := (pageBody q offset).compact
    timeout := c.config.timeoutFor .standard }

/-- One attempt at a page. -/
def fetchPage (w : Surroundings σ) (r : Request) : Call σ (List ThreadEntry) := do
  w.acquire
  let response ← w.exchange w.transport.post r
  Call.ofExcept (ThreadEntry.ofResponse response)

/-- The number of pages whose offsets are numbers of 64 bits. -/
def mostPages : Nat := Nat.pow 2 64 / pageSize + 1

/-- The records of a page and, as long as there is a next one, of those after it. The first page
tells how many threads there are. -/
def pagesFrom (c : Client) (w : Surroundings σ) (q : ThreadQuery) (records : List ThreadRecord)
    (total : Option Nat) (offset : Nat) : (left : Nat) → Call σ (List ThreadRecord)
  | 0 => pure records
  | left + 1 => do
    let entries ← w.withRetries c.policy (fetchPage w (c.pageRequest q offset))
    match entries with
    | [] => pure records
    | first :: _ =>
      let count := total.getD (first.totalThreads.getD entries.length)
      let records := records ++ entries.filterMap (ThreadRecord.ofEntry? c.config.baseUrl)
      if w.watch.pages then w.emit (.paged records.length count)
      if first.hasNextPage then
        pagesFrom c w q records (some count) (offset + pageSize) left
      else pure records

/-- All threads within the bounds, in the order of the library. -/
def list (c : Client) (w : Surroundings σ) (q : ThreadQuery) : Call σ (List ThreadRecord) := do
  let records ← c.pagesFrom w q [] none 0 mostPages
  pure (records.filter q.accepts)

end Client
end AnswerStream
