import AnswerStream.Message.Basic
import AnswerStream.Proofs.Json.Grammar
import Mathlib.Data.List.Basic

/-!
Which payloads are read as messages. Besides objects there are arrays of no more items than a
message has fields: such an array stands for the object that gives its items under the names of the
fields, in their order. Every other payload is refused, and every refusal is that of a malformed
frame.
-/

namespace AnswerStream
open Json (Node Record Value)

/-- It fails only with a malformed frame. -/
def FailsClosed {α : Type} (x : Except Failure α) : Prop :=
  ∀ e, x = .error e → ∃ flaw excerpt, e = .malformedFrame flaw excerpt

namespace FailsClosed

variable {α β : Type}

theorem ok (a : α) : FailsClosed (.ok a) := by
  intro e h
  cases h

theorem malformed (flaw : Flaw) (payload : String) :
    FailsClosed (.error (.malformed flaw payload) : Except Failure α) := by
  intro e h
  cases h
  exact ⟨flaw, Failure.excerpt payload, rfl⟩

theorem bind {x : Except Failure α} {next : α → Except Failure β} (hx : FailsClosed x)
    (hnext : ∀ a, FailsClosed (next a)) : FailsClosed (x >>= next) := by
  intro e h
  cases x with
  | error e' =>
    cases h
    exact hx e rfl
  | ok a => exact hnext a e h

theorem mapM {read : α → Except Failure β} (h : ∀ a, FailsClosed (read a)) (as : List α) :
    FailsClosed (as.mapM read) := by
  induction as with
  | nil => exact ok []
  | cons a as ih =>
    rw [List.mapM_cons]
    exact (h a).bind fun _ => ih.bind fun _ => ok _

end FailsClosed

namespace Block

theorem failsClosed_readPatch (patch : Value) : FailsClosed (readPatch patch) := by
  unfold readPatch
  extract_lets
  split
  · exact .ok _
  · exact .malformed _ _

theorem failsClosed_readDiff (diff : Value) : FailsClosed (readDiff diff) := by
  unfold readDiff
  split
  · split
    · refine (FailsClosed.mapM failsClosed_readPatch _).bind fun values => ?_
      split
      · exact .ok _
      · exact .malformed _ _
    · exact .malformed _ _
  · exact .malformed _ _

theorem failsClosed_read (raw : Value) : FailsClosed (read raw) := by
  unfold read
  split
  · split
    · exact .ok _
    · exact .ok _
    · extract_lets
      split
      · exact (failsClosed_readDiff _).bind fun _ => .ok _
      · exact .ok _
  · exact .malformed _ _

end Block

namespace Message

theorem failsClosed_ofPayload (payload : String) : FailsClosed (ofPayload payload) := by
  unfold ofPayload
  split
  · exact (FailsClosed.mapM Block.failsClosed_read _).bind fun _ => .ok _
  · exact .malformed _ _

theorem ofFrame_eq {f : Sse.Frame} (hevent : f.event = none ∨ f.event = some eventName)
    (hblank : Text.isBlank f.data = false) : ofFrame f = (ofPayload f.data).map some := by
  simp [ofFrame, hevent, hblank]

theorem ofFrame_eq_some_iff {f : Sse.Frame} {m : Message}
    (hevent : f.event = none ∨ f.event = some eventName) (hblank : Text.isBlank f.data = false) :
    ofFrame f = .ok (some m) ↔ ofPayload f.data = .ok m := by
  rw [ofFrame_eq hevent hblank]
  cases ofPayload f.data <;> simp [Except.map]

theorem malformed_of_no_message {f : Sse.Frame}
    (hevent : f.event = none ∨ f.event = some eventName) (hblank : Text.isBlank f.data = false)
    (h : ∀ m, ofFrame f ≠ .ok (some m)) :
    ∃ flaw excerpt, ofFrame f = .error (.malformedFrame flaw excerpt) := by
  cases hresult : ofPayload f.data with
  | ok m => exact absurd ((ofFrame_eq_some_iff hevent hblank).mpr hresult) (h m)
  | error e =>
    obtain ⟨flaw, excerpt, rfl⟩ := failsClosed_ofPayload f.data e hresult
    refine ⟨flaw, excerpt, ?_⟩
    rw [ofFrame_eq hevent hblank, hresult]
    rfl

end Message

namespace Wire

/-- The object that gives items under the names of the fields, in their order. -/
def named (items : List Node) : Node :=
  .object ((fieldNames.zip items).map fun field => (some field.1, field.2))

end Wire

namespace Json.Record

theorem map_fst_zip_sublist (names : List String) (items : List Node) :
    ((names.zip items).map Prod.fst).Sublist names := by
  induction names generalizing items with
  | nil => exact List.Sublist.slnil
  | cons name names ih =>
    cases items with
    | nil => exact List.nil_sublist _
    | cons item items => exact (ih items).cons_cons name

theorem known?_zip {names : List String} (hnames : names.Nodup) (items : List Node) :
    known? names ((names.zip items).map fun field => (some field.1, field.2)) =
      some (names.zip items) := by
  have hkeyed : ((names.zip items).map fun field => (some field.1, field.2)).mapM
      (fun member : Option String × Node => member.1.map fun key => (key, member.2)) =
        some (names.zip items) := by
    rw [List.mapM_map]
    exact List.mapM_pure.trans (congrArg some (List.map_id _))
  have hknown : (names.zip items).filter (fun field => names.contains field.1) =
      names.zip items := by
    apply List.filter_eq_self.mpr
    intro field hfield
    exact List.contains_iff_mem.mpr (List.of_mem_zip hfield).1
  have hnodup : ((names.zip items).map Prod.fst).Nodup :=
    hnames.sublist (map_fst_zip_sublist names items)
  unfold known?
  rw [hkeyed]
  show (if (((names.zip items).filter fun field => names.contains field.1).map Prod.fst).Nodup then
    some ((names.zip items).filter fun field => names.contains field.1) else none) = _
  rw [hknown, if_pos hnodup]

end Json.Record

namespace Wire

theorem ofNode?_array {items : List Node} (h : items.length ≤ fieldNames.length) :
    ofNode? (.array items) = ofNode? (named items) := by
  have hnames : fieldNames.Nodup := by decide
  have harray : Record.ofNode? fieldNames (.array items) = some ⟨fieldNames.zip items, true⟩ :=
    if_pos h
  have hobject : Record.ofNode? fieldNames (named items) = some ⟨fieldNames.zip items, false⟩ := by
    rw [named, Record.ofNode?, Record.known?_zip hnames]
    rfl
  unfold ofNode?
  rw [harray, hobject]
  rfl

theorem ofNode?_array_of_long {items : List Node} (h : fieldNames.length < items.length) :
    ofNode? (.array items) = none := by
  have harray : Record.ofNode? fieldNames (.array items) = none := if_neg (by omega)
  unfold ofNode?
  rw [harray]
  rfl

/-- Only objects and short arrays are records. -/
theorem shape_of_ofNode? {n : Node} {w : Wire} (h : ofNode? n = some w) :
    (∃ members, n = .object members) ∨ ∃ items, n = .array items ∧
    items.length ≤ fieldNames.length := by
  cases n with
  | object members => exact .inl ⟨members, rfl⟩
  | array items =>
    refine .inr ⟨items, rfl, ?_⟩
    by_contra hlong
    rw [ofNode?_array_of_long (by omega)] at h
    cases h
  | null | bool | number | text => cases h

end Wire

namespace Message
open Json.Node (parse?_eq_some_iff)

/-- The message that a tree is read as, whatever its text. -/
def IsReadFrom (m : Message) (n : Node) : Prop := ∃ w, Wire.ofNode? n = some w ∧ ofWire w = .ok m

theorem ofPayload_eq_ok_iff {payload : String} {n : Node} {m : Message}
    (h : n.Writes payload.toList) : ofPayload payload = .ok m ↔ m.IsReadFrom n := by
  unfold ofPayload IsReadFrom
  rw [parse?_eq_some_iff.mpr h, Option.bind_some]
  cases Wire.ofNode? n with
  | none => simp
  | some w => simp

theorem ofPayload_of_no_record {payload : String}
    (h : ∀ n, n.Writes payload.toList → Wire.ofNode? n = none) :
    ofPayload payload = .error (.malformed .notJson payload) := by
  have hwire : (Node.parse? payload).bind Wire.ofNode? = none := by
    rw [Option.bind_eq_none_iff]
    exact fun n hn => h n (parse?_eq_some_iff.mp hn)
  rw [ofPayload, hwire]

/-- A payload that is no object is refused, but for an array of as many items as there are fields or
fewer: it is read as the object that names these items. -/
theorem ofFrame_of_not_object {f : Sse.Frame} (hevent : f.event = none ∨ f.event = some eventName)
    (hblank : Text.isBlank f.data = false)
    (hobject : ∀ members, ¬ (Node.object members).Writes f.data.toList) :
    ((∀ items, (Node.array items).Writes f.data.toList → Wire.fieldNames.length < items.length) →
      ofFrame f = .error (.malformed .notJson f.data)) ∧
    (∀ items, (Node.array items).Writes f.data.toList → items.length ≤ Wire.fieldNames.length →
      ∀ m, (ofFrame f = .ok (some m) ↔ m.IsReadFrom (Wire.named items)) ∧
        ∀ payload : String, (Wire.named items).Writes payload.toList →
          (ofFrame f = .ok (some m) ↔ ofPayload payload = .ok m)) ∧
    ((∀ m, ofFrame f ≠ .ok (some m)) →
      ∃ flaw excerpt, ofFrame f = .error (.malformedFrame flaw excerpt)) := by
  refine ⟨fun hlong => ?_, fun items hitems hshort m => ?_, malformed_of_no_message hevent hblank⟩
  · have hpayload : ofPayload f.data = .error (.malformed .notJson f.data) := by
      apply ofPayload_of_no_record
      intro n hn
      by_contra hrecord
      obtain ⟨w, hw⟩ := Option.ne_none_iff_exists'.mp hrecord
      rcases Wire.shape_of_ofNode? hw with ⟨members, rfl⟩ | ⟨items, rfl, hshort⟩
      · exact hobject members hn
      · exact absurd (hlong items hn) (not_lt.mpr hshort)
    rw [ofFrame_eq hevent hblank, hpayload]
    rfl
  · have hread : ofFrame f = .ok (some m) ↔ m.IsReadFrom (Wire.named items) := by
      rw [ofFrame_eq_some_iff hevent hblank, ofPayload_eq_ok_iff hitems, IsReadFrom,
        Wire.ofNode?_array hshort]
      rfl
    exact ⟨hread, fun payload hpayload => by rw [hread, ofPayload_eq_ok_iff hpayload]⟩

/-- A terminal message in an array. -/
theorem ofFrame_of_not_object_terminal :
    (∀ members, ¬ (Node.object members).Writes "[\"done\", \"c7\", true]".toList) ∧
      ofFrame ⟨none, "[\"done\", \"c7\", true]"⟩ =
        .ok (some ⟨.completed, some "c7", true, false, none, none, []⟩) := by
  have hitems : (Node.array [.text (some "done"), .text (some "c7"), .bool true]).Writes
      "[\"done\", \"c7\", true]".toList := parse?_eq_some_iff.mp rfl
  have hobject : ∀ members, ¬ (Node.object members).Writes "[\"done\", \"c7\", true]".toList := by
    intro members hmembers
    cases hitems.unique hmembers
  obtain ⟨-, hshort, -⟩ := @ofFrame_of_not_object ⟨none, "[\"done\", \"c7\", true]"⟩ (.inl rfl)
    (by decide) hobject
  obtain ⟨hread, -⟩ :=
    hshort _ hitems (by decide) ⟨.completed, some "c7", true, false, none, none, []⟩
  have hstatus : Status.parse "done" = .completed := by decide +kernel
  refine ⟨hobject, hread.mpr ⟨⟨"done", some "c7", true, false, none, none, none⟩, ?_, ?_⟩⟩
  · rw [← Wire.ofNode?_array (by decide)]
    rfl
  · rw [← hstatus]
    rfl

/-- The empty array is read as a message without anything. -/
theorem not_only_objects :
    ¬ ∀ f : Sse.Frame, (f.event = none ∨ f.event = some eventName) → Text.isBlank f.data = false →
      (∀ members, ¬ (Node.object members).Writes f.data.toList) →
        ∃ flaw excerpt, ofFrame f = .error (.malformedFrame flaw excerpt) := by
  intro h
  have hitems : (Node.array []).Writes "[]".toList := parse?_eq_some_iff.mp rfl
  have hobject : ∀ members, ¬ (Node.object members).Writes "[]".toList := by
    intro members hmembers
    cases hitems.unique hmembers
  have hframe : ofFrame ⟨none, "[]"⟩ =
      .ok (some ⟨.pending, none, false, false, none, none, []⟩) := by
    with_unfolding_all rfl
  obtain ⟨flaw, excerpt, herror⟩ := h ⟨none, "[]"⟩ (.inl rfl) (by decide) hobject
  rw [hframe] at herror
  cases herror

end Message
end AnswerStream
