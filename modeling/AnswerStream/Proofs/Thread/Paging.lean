import AnswerStream.Client.Listing
import AnswerStream.Proofs.Json.Recording
import AnswerStream.Proofs.Text.Encoding

/-!
What goes over the wire when a library is listed. The body of a request says which entries are asked
for, and a page is an array of entries; both are read from their text as they were meant.
-/

namespace AnswerStream
open Json (Node Record Value)
open Json.Literal (fits_of_lt)
open Json.Value (Plain)
open Progress (orNull)

/-- What a request for a page asks for. -/
structure PageAsk where
  /-- The number of entries in front of the page. -/
  offset : Nat
  /-- The most entries that the page may have. -/
  limit : Nat
  ascending : Bool
  searchTerm : String
  deriving DecidableEq, Repr

namespace PageAsk

def ofValue? (v : Value) : Option PageAsk :=
  match v.get? "offset", v.get? "limit", v.get? "ascending", v.get? "search_term" with
  | some (.number (.int (.ofNat offset))), some (.number (.int (.ofNat limit))),
    some (.bool ascending), some (.text searchTerm) =>
    some { offset, limit, ascending, searchTerm }
  | _, _, _, _ => none

/-- What the text of a body asks for. -/
def ofBody? (body : String) : Option PageAsk := (Value.parse? body).bind ofValue?

end PageAsk

theorem Client.ofBody?_pageBody (q : ThreadQuery) {offset : Nat} (hoffset : offset < 2 ^ 64) :
    PageAsk.ofBody? (pageBody q offset).compact =
      some ⟨offset, 100, false, q.searchTerm.getD ""⟩ := by
  have hlimit : Json.Literal.Fits 100 := fits_of_lt (n := 100) (by decide)
  have hplain : Plain Value.maxDepth (pageBody q offset) := by
    simp [pageBody, Value.maxDepth, Value.int, pageSize, fits_of_lt hoffset, hlimit]
  rw [PageAsk.ofBody?, hplain.parse?_compact, Option.bind_some, PageAsk.ofValue?]
  simp only [hplain.get?_sorted]
  rfl

namespace ThreadEntry

/-- How a server writes an entry. -/
def toValue (e : ThreadEntry) : Value :=
  .object [("title", .text e.title), ("slug", .text e.slug),
    ("last_query_datetime", orNull .text e.lastQuery), ("has_next_page", .bool e.hasNextPage),
    ("total_threads", orNull Value.int (e.totalThreads.bind fun k => some (k : Int)))]

/-- The response that carries a page. -/
def pageResponse (entries : List ThreadEntry) : Response :=
  ⟨200, [], Utf8.encode (Value.array (entries.map toValue)).compact⟩

variable {e : ThreadEntry} {entries : List ThreadEntry}

theorem plain_toValue (he : ∀ k ∈ e.totalThreads, k < 2 ^ 64) : Plain 1 e.toValue := by
  obtain ⟨title, slug, _ | lastQuery, hasNextPage, _ | totalThreads⟩ := e
  all_goals simp_all [toValue, orNull, Value.int, fits_of_lt]

theorem ofNode?_toValue (he : ∀ k ∈ e.totalThreads, k < 2 ^ 64) :
    ofNode? e.toValue.node = some e := by
  have htotal : Node.nullable? (Node.natural? (Nat.pow 2 64))
      (orNull Value.int (e.totalThreads.bind fun k => some (k : Int))).node = some e.totalThreads :=
    Node.nullable?_natural_node fun k hk => ⟨he k hk, he k hk⟩
  rw [ofNode?, toValue, Record.ofNode?_object (by simp) (by simp [fieldNames])]
  simp only [Option.bind_eq_bind, Option.bind_some, Record.default?_memberNodes,
    Json.Members.lookup_cons, String.reduceEq, if_true, if_false, Option.map_some, Option.getD_some,
    Node.nullable?_text_node, htotal]
  rfl

theorem ofResponse_pageResponse (h : ∀ e ∈ entries, ∀ k ∈ e.totalThreads, k < 2 ^ 64) :
    ofResponse (pageResponse entries) = .ok entries := by
  have hplain : Plain 2 (Value.array (entries.map toValue)) :=
    .array (List.forall_mem_map.mpr fun e he => plain_toValue (h e he))
  have hitems : Node.list? ofNode? (Value.array (entries.map toValue)).node = some entries :=
    Node.list?_node fun e he => ofNode?_toValue (h e he)
  have hpage : pageOf? (Value.array (entries.map toValue)).compact = some entries := by
    rw [pageOf?, hplain.nodeParse?_compact, Option.bind_some, hitems]
  have htext : (pageResponse entries).text? = some (Value.array (entries.map toValue)).compact :=
    Utf8.decode?_encode _
  rw [ofResponse, htext]
  simp only [Option.getD_some, hpage]
  rfl

end ThreadEntry
end AnswerStream
