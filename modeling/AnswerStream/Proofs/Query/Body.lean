import AnswerStream.Proofs.Json.Printing
import AnswerStream.Query.Fresh
import Mathlib.Tactic.MkIffOfInductiveProp

/-!
The body of a request, read again from its text. It holds the text of the query and its parameters
and nothing else. A parameter that the caller gave holds the last value given, whatever has been
generated under its name; every other one is generated: from the settings, from the mode, or as a
fresh identifier in the random form.
-/

namespace AnswerStream

namespace FreshIds

def isHexDigit (c : Char) : Prop := c ∈ "0123456789abcdef".toList

/-- The random form: five groups of hexadecimal digits with dashes between them, the third with the
version in front, the fourth with the variant. -/
def IsRandom (s : String) : Prop :=
  ∃ low mid high clock node : List Char, ∃ variant ∈ ['8', '9', 'a', 'b'],
    s.toList = low ++ '-' :: mid ++ '-' :: '4' :: high ++ '-' :: variant :: clock ++ '-' :: node ∧
      (low.length = 8 ∧ mid.length = 4 ∧ high.length = 3 ∧ clock.length = 3 ∧ node.length = 12) ∧
      ∀ c ∈ low ++ mid ++ high ++ clock ++ node, isHexDigit c

theorem isHexDigit_digitChar {n : Nat} (h : n < 16) : isHexDigit (Nat.digitChar n) := by
  revert n
  unfold isHexDigit
  decide

theorem isHexDigit_of_mem_hexDigits {width n : Nat} {c : Char} (h : c ∈ hexDigits width n) :
    isHexDigit c := by
  obtain ⟨i, -, rfl⟩ := List.mem_map.mp h
  exact isHexDigit_digitChar (Nat.mod_lt _ (by decide))

theorem digitChar_variant_mem {n : Nat} (h : n < 4) :
    Nat.digitChar (8 + n) ∈ ['8', '9', 'a', 'b'] := by
  revert n
  decide

theorem isRandom_identifier (n : Nat) : IsRandom (identifier n) := by
  have hvariant := digitChar_variant_mem (Nat.mod_lt (n / Nat.pow 16 15) (by decide))
  refine ⟨_, _, _, _, _, _, hvariant, String.toList_ofList, ?_, ?_⟩
  · simp only [length_hexDigits, and_self]
  · simp only [List.forall_mem_append]
    exact ⟨⟨⟨⟨fun _ => isHexDigit_of_mem_hexDigits, fun _ => isHexDigit_of_mem_hexDigits⟩,
      fun _ => isHexDigit_of_mem_hexDigits⟩, fun _ => isHexDigit_of_mem_hexDigits⟩,
      fun _ => isHexDigit_of_mem_hexDigits⟩

end FreshIds

namespace Query
open Json (Value)
open Json.Members (Sorted)
open Json.Value (Plain)

/-- Parameters that are the same in every request. -/
def fixed : List (String × Value) :=
  [("attachments", .array []), ("is_incognito", .bool false), ("is_related_query", .bool false),
    ("mode", .text "copilot"), ("prompt_source", .text "user"), ("query_source", .text "home"),
    ("search_focus", .text "internet"), ("send_back_text_in_streaming_api", .bool false),
    ("skip_search_enabled", .bool true), ("sources", .array [.text "web"]),
    ("use_schematized_api", .bool true)]

/-- What is generated under a key. -/
@[mk_iff]
inductive Generates (mode : QueryMode) (locale : LocaleConfig) : String → Value → Prop
  | fixed {key : String} {v : Value} (h : (key, v) ∈ fixed) : Generates mode locale key v
  | language : Generates mode locale "language" (.text locale.language)
  | timezone : Generates mode locale "timezone" (.text locale.timezone)
  | version : Generates mode locale "version" (.text locale.apiVersion)
  | model : Generates mode locale "model_preference" (.text locale.modelPreference)
  | search : Generates mode locale "search_implementation_mode" (.text mode.searchImplementation)
  | frontend {id : String} (h : FreshIds.IsRandom id) :
      Generates mode locale "frontend_uuid" (.text id)
  | context {id : String} (h : FreshIds.IsRandom id) :
      Generates mode locale "frontend_context_uuid" (.text id)

/-- A query as a caller puts it together. -/
def ofCaller (text : String) (mode : QueryMode) (given : List (String × String)) : Query :=
  given.foldl (fun q e => q.withIdentifier e.1 e.2) { ofText text with mode := mode }

theorem foldl_withIdentifier (q : Query) (given : List (String × String)) :
    given.foldl (fun q e => q.withIdentifier e.1 e.2) q =
      { q with
        identifiers :=
          given.foldl (fun ms e => Json.Members.insert e.1 e.2 ms) q.identifiers } := by
  induction given generalizing q with
  | nil => rfl
  | cons e given ih => rw [List.foldl_cons, ih, List.foldl_cons, withIdentifier]

theorem ofCaller_eq (text : String) (mode : QueryMode) (given : List (String × String)) :
    ofCaller text mode given = ⟨text, mode, Json.Members.ofList given⟩ := by
  rw [ofCaller, foldl_withIdentifier]
  rfl

theorem lookup_ofList_given (given : List (String × String)) (key : String) :
    (Json.Members.ofList given).lookup key = given.reverse.lookup key := by
  rw [Json.Members.ofList, Json.Members.lookup_foldl_insert, List.lookup_nil, Option.or_none]

section
variable {q : Query} {locale : LocaleConfig} {ids : FreshIds}

theorem params_eq_foldl (q : Query) (locale : LocaleConfig) (ids : FreshIds) :
    q.params locale ids = (q.identifiers.map fun e => (e.1, Value.text e.2)).foldl
      (fun ms e => Json.Members.insert e.1 e.2 ms) (q.generated locale ids) := by
  rw [params, List.foldl_map]

/-- An identifier of the caller hides what is generated under its key. -/
theorem lookup_params (h : Sorted q.identifiers) (key : String) :
    (q.params locale ids).lookup key =
      ((q.identifiers.lookup key).map .text).or ((q.generated locale ids).lookup key) := by
  rw [params_eq_foldl, Json.Members.lookup_foldl_insert, ← List.map_reverse,
    Json.Members.lookup_map, Json.Members.lookup_of_perm h.nodup (List.reverse_perm _).symm]

theorem sorted_generated : Sorted (q.generated locale ids) := by
  have hkeys : ((q.generated locale ids).map Prod.fst).Pairwise (· < ·) := by
    simp only [generated, List.map_cons, List.map_nil]
    decide +kernel
  exact List.pairwise_map.mp hkeys

theorem sorted_params : Sorted (q.params locale ids) := by
  rw [params_eq_foldl]
  exact Json.Members.sorted_foldl_insert sorted_generated _

theorem plain_params {depth : Nat} :
    ∀ m ∈ q.params locale ids, Plain (depth + 1) m.2 ∧ m.2.sorted = m.2 := by
  rw [params_eq_foldl]
  refine Json.Members.forall_mem_foldl_insert ?_ ?_
  · simp only [generated, List.forall_mem_cons]
    simp [Json.Value.sorted, Json.Value.sortedItems]
  · intro e he
    obtain ⟨e, -, rfl⟩ := List.mem_map.mp he
    exact ⟨.text e.2, rfl⟩

theorem parse?_compact (q : Query) (locale : LocaleConfig) (ids : FreshIds) :
    Value.parse? (q.body locale ids).compact = some (q.body locale ids) := by
  have hparams := @plain_params q locale ids 124
  have hplain : Plain Value.maxDepth (q.body locale ids) := by
    refine .object (by simp) ?_
    simp only [List.forall_mem_cons, List.not_mem_nil, false_imp_iff, implies_true, and_true]
    exact ⟨.object sorted_params.nodup fun m hm => (hparams m hm).1, .text q.text⟩
  have hsorted : (q.body locale ids).sorted = q.body locale ids := by
    have hkeys : "params" < "query_str" := by decide +kernel
    refine Value.sorted_object (List.pairwise_pair.mpr hkeys) ?_
    simp only [List.forall_mem_cons, List.not_mem_nil, false_imp_iff, implies_true, and_true]
    exact ⟨Value.sorted_object sorted_params fun m hm => (hparams m hm).2, rfl⟩
  rw [hplain.parse?_compact, hsorted]

/-- What is generated is what is to be generated, the identifiers being fresh. -/
theorem generates_of_mem (hfrontend : FreshIds.IsRandom ids.frontend)
    (hcontext : FreshIds.IsRandom ids.context) :
    ∀ m ∈ q.generated locale ids, Generates q.mode locale m.1 m.2 := by
  simp only [generated, List.forall_mem_cons]
  refine ⟨.fixed ?_, .context hcontext, .frontend hfrontend, .fixed ?_, .fixed ?_, .language,
    .fixed ?_, .model, .fixed ?_, .fixed ?_, .fixed ?_, .search, .fixed ?_, .fixed ?_, .fixed ?_,
    .timezone, .fixed ?_, .version, List.forall_mem_nil _⟩ <;> simp [fixed]

theorem exists_lookup_of_generates {key : String} {v : Value} (h : Generates q.mode locale key v) :
    ∃ v, (q.generated locale ids).lookup key = some v := by
  cases h with
  | fixed h =>
    have hfixed : ∀ m ∈ fixed, m ∈ q.generated locale ids := by simp [fixed, generated]
    exact ⟨v, (Json.Members.lookup_eq_some_iff_mem sorted_generated.nodup).mpr (hfixed _ h)⟩
  | language | timezone | version | model | search | frontend | context => exact ⟨_, rfl⟩

end

/-- The text of a body is read as an object of the parameters and the text of the query. Under a key
that the caller gave stands the last value given, as a text; the other keys are those that are
generated, each with what is generated under it. -/
theorem parse?_compact_body (text : String) (mode : QueryMode) (locale : LocaleConfig)
    (given : List (String × String)) (a b : Nat) :
    ∃ params, Value.parse? ((ofCaller text mode given).body locale (.ofRandom a b)).compact =
        some (.object [("params", .object params), ("query_str", .text text)]) ∧
      (params.map Prod.fst).Nodup ∧
      (∀ key value, given.reverse.lookup key = some value →
       params.lookup key = some (.text value)) ∧
      ∀ key, given.reverse.lookup key = none →
        ((∃ v, params.lookup key = some v) ↔ ∃ v, Generates mode locale key v) ∧
          ∀ v, params.lookup key = some v → Generates mode locale key v := by
  have hparse := parse?_compact (ofCaller text mode given) locale (.ofRandom a b)
  rw [ofCaller_eq] at hparse ⊢
  let q : Query := ⟨text, mode, Json.Members.ofList given⟩
  let ids : FreshIds := .ofRandom a b
  have hlookup (key : String) : (q.params locale ids).lookup key =
      ((given.reverse.lookup key).map .text).or ((q.generated locale ids).lookup key) := by
    rw [lookup_params (Json.Members.sorted_ofList given), lookup_ofList_given]
  have hgenerated : ∀ m ∈ q.generated locale ids, Generates mode locale m.1 m.2 :=
    generates_of_mem (FreshIds.isRandom_identifier a) (FreshIds.isRandom_identifier b)
  refine ⟨q.params locale ids, hparse, sorted_params.nodup, fun key value hgiven => ?_,
    fun key hnone => ?_⟩
  · rw [hlookup, hgiven]
    rfl
  · rw [hlookup, hnone, Option.map_none, Option.none_or]
    have hgenerates : ∀ v, (q.generated locale ids).lookup key = some v →
        Generates mode locale key v := fun v hv =>
      hgenerated _ ((Json.Members.lookup_eq_some_iff_mem sorted_generated.nodup).mp hv)
    exact ⟨⟨fun ⟨v, hv⟩ => ⟨v, hgenerates v hv⟩,
      fun ⟨v, hv⟩ => exists_lookup_of_generates (q := q) hv⟩, hgenerates⟩

/-- A key that is given twice, a key that is generated too, and texts that have to be escaped. -/
theorem parse?_compact_body_overriding :
    let text := "say \"hi\"\n\u0001"
    let given := [("mode", "first"), ("é\\", "\u0000😀"), ("mode", "last")]
    ∃ params, Value.parse?
      ((ofCaller text .deepResearch given).body .standard (.ofRandom 0 1)).compact =
        some (.object [("params", .object params), ("query_str", .text text)]) ∧
      params.lookup "mode" = some (.text "last") ∧ params.lookup "é\\" = some (.text "\u0000😀") ∧
      params.lookup "search_implementation_mode" = some (.text "multi_step") ∧
        params.lookup "query_str" = none := by
  intro text given
  obtain ⟨params, hparse, -, hgiven, hothers⟩ :=
    parse?_compact_body text .deepResearch .standard given 0 1
  refine ⟨params, hparse, hgiven _ _ rfl, hgiven _ _ rfl, ?_, ?_⟩
  · obtain ⟨hkeys, hgenerates⟩ := hothers "search_implementation_mode" rfl
    obtain ⟨v, hv⟩ := hkeys.mpr ⟨_, .search⟩
    obtain rfl : v = .text "multi_step" := by
      simpa [generates_iff, fixed, QueryMode.searchImplementation] using hgenerates v hv
    exact hv
  · obtain ⟨hkeys, -⟩ := hothers "query_str" rfl
    have hnone : ¬ ∃ v, Generates .deepResearch .standard "query_str" v := by
      simp [generates_iff, fixed]
    exact Option.eq_none_iff_forall_ne_some.mpr fun v hv => hnone (hkeys.mp ⟨v, hv⟩)

end Query
end AnswerStream
