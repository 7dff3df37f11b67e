import AnswerStream.Json.Record
import AnswerStream.Proofs.Json.Printing

/-!
The fields of a record among the members of an object. A record takes the members that it knows, in
whatever order they come and whatever others stand among them. From an object without others it
takes them all.
-/

namespace AnswerStream.Json.Record
open Value (memberNodes memberNodes_eq_map)

/-- A member with a text for a key. -/
def keyed? (member : Option String × Node) : Option (String × Node) :=
  member.1.map fun key => (key, member.2)

/-- Its key is a text, but names no field. -/
def Foreign (names : List String) (member : Option String × Node) : Prop :=
  ∃ key, member.1 = some key ∧ key ∉ names

theorem mapM_keyed?_eq_some_iff {members : List (Option String × Node)}
    {keyed : List (String × Node)} :
    members.mapM keyed? = some keyed ↔
      (∀ member ∈ members, member.1 ≠ none) ∧ keyed = members.filterMap keyed? := by
  induction members generalizing keyed with
  | nil => simp [eq_comm]
  | cons member members ih =>
    obtain ⟨key, n⟩ := member
    cases key with
    | none => simp [keyed?]
    | some key =>
      have hcons : ((some key, n) :: members).mapM keyed? =
          (members.mapM keyed?).map ((key, n) :: ·) := by
        rw [List.mapM_cons, keyed?, Option.map_some]
        cases members.mapM keyed? <;> rfl
      rw [hcons, Option.map_eq_some_iff]
      constructor
      · rintro ⟨rest, hrest, rfl⟩
        obtain ⟨hkeys, rfl⟩ := ih.mp hrest
        exact ⟨List.forall_mem_cons.mpr ⟨by simp, hkeys⟩, rfl⟩
      · rintro ⟨hkeys, rfl⟩
        exact ⟨_, ih.mpr ⟨(List.forall_mem_cons.mp hkeys).2, rfl⟩, rfl⟩

/-- The fields that members give, in their order. -/
def fieldsAmong (names : List String) (members : List (Option String × Node)) :
    List (String × Node) :=
  (members.filterMap keyed?).filter fun field => names.contains field.1

theorem known?_eq_some_iff {names : List String} {members : List (Option String × Node)}
    {fields : List (String × Node)} :
    known? names members = some fields ↔
      (∀ member ∈ members, member.1 ≠ none) ∧ fields = fieldsAmong names members ∧
        (fields.map Prod.fst).Nodup := by
  have hbind : known? names members = (members.mapM keyed?).bind fun keyed =>
      if ((keyed.filter fun field => names.contains field.1).map Prod.fst).Nodup then
        some (keyed.filter fun field => names.contains field.1) else none := rfl
  simp only [hbind, Option.bind_eq_some_iff, mapM_keyed?_eq_some_iff, Option.ite_none_right_eq_some,
    Option.some_inj, fieldsAmong]
  constructor
  · rintro ⟨keyed, ⟨hkeys, rfl⟩, hnodup, rfl⟩
    exact ⟨hkeys, rfl, hnodup⟩
  · rintro ⟨hkeys, rfl, hnodup⟩
    exact ⟨_, ⟨hkeys, rfl⟩, hnodup, rfl⟩

theorem fieldsAmong_of_foreign {names : List String} {members : List (Option String × Node)}
    (h : ∀ member ∈ members, Foreign names member) : fieldsAmong names members = [] := by
  rw [fieldsAmong, List.filter_eq_nil_iff]
  intro field hfield
  obtain ⟨member, hmember, hkeyed⟩ := List.mem_filterMap.mp hfield
  obtain ⟨key, hkey, hforeign⟩ := h member hmember
  rw [keyed?, hkey, Option.map_some, Option.some_inj] at hkeyed
  subst hkeyed
  simpa using hforeign

/-- The members of an object in any order, among foreign ones. -/
def Extends (names : List String) (members extended : List (Option String × Node)) : Prop :=
  ∃ added, (∀ member ∈ added, Foreign names member) ∧ extended.Perm (members ++ added)

theorem Extends.fieldsAmong_perm {names : List String}
    {members extended : List (Option String × Node)} (h : Extends names members extended) :
    (fieldsAmong names extended).Perm (fieldsAmong names members) := by
  obtain ⟨added, hforeign, hperm⟩ := h
  have hfields := (hperm.filterMap keyed?).filter fun field => names.contains field.1
  have hadded := fieldsAmong_of_foreign hforeign
  unfold fieldsAmong at hadded ⊢
  rwa [List.filterMap_append, List.filter_append, hadded, List.append_nil] at hfields

theorem Extends.known? {names : List String} {members extended : List (Option String × Node)}
    {fields : List (String × Node)} (h : Extends names members extended)
    (hknown : known? names members = some fields) :
    ∃ fields', Record.known? names extended = some fields' ∧
      ∀ name, fields'.lookup name = fields.lookup name := by
  have hperm := h.fieldsAmong_perm
  obtain ⟨added, hforeign, hmembers⟩ := h
  obtain ⟨hkeys, rfl, hnodup⟩ := known?_eq_some_iff.mp hknown
  refine ⟨fieldsAmong names extended, known?_eq_some_iff.mpr ⟨?_, rfl, ?_⟩, ?_⟩
  · intro member hmember
    rcases List.mem_append.mp (hmembers.mem_iff.mp hmember) with hold | hnew
    · exact hkeys member hold
    · obtain ⟨key, hkey, -⟩ := hforeign member hnew
      simp [hkey]
  · exact (hperm.map Prod.fst).nodup_iff.mpr hnodup
  · exact Members.lookup_of_perm hnodup hperm.symm

theorem known?_memberNodes {names : List String} {members : List (String × Value)}
    (hkeys : (members.map Prod.fst).Nodup) (hnames : ∀ m ∈ members, m.1 ∈ names) :
    known? names (memberNodes members) = some (members.map fun m => (m.1, m.2.node)) := by
  have hfields : fieldsAmong names (memberNodes members) = members.map fun m =>
      (m.1, m.2.node) := by
    have hkeyed : (memberNodes members).filterMap keyed? = members.map fun m =>
        (m.1, m.2.node) := by
      rw [memberNodes_eq_map, List.filterMap_map, ← List.filterMap_eq_map]
      rfl
    rw [fieldsAmong, hkeyed, List.filter_eq_self]
    intro field hfield
    obtain ⟨m, hm, rfl⟩ := List.mem_map.mp hfield
    simpa using hnames m hm
  rw [known?_eq_some_iff, hfields]
  refine ⟨fun member hmember => ?_, rfl, ?_⟩
  · rw [memberNodes_eq_map] at hmember
    obtain ⟨m, -, rfl⟩ := List.mem_map.mp hmember
    exact Option.some_ne_none _
  · rwa [List.map_map]

theorem default?_memberNodes {α : Type} (members : List (String × Value)) (name : String)
    (missing : α) (read : Node → Option α) :
    default? ⟨members.map fun m => (m.1, m.2.node), false⟩ name missing read =
      ((members.lookup name).map fun v => read v.node).getD (some missing) := by
  rw [default?, get?, Members.lookup_map]
  cases members.lookup name <;> rfl

theorem required?_memberNodes {α : Type} (members : List (String × Value)) (name : String)
    (read : Node → Option α) :
    required? ⟨members.map fun m => (m.1, m.2.node), false⟩ name read =
      (members.lookup name).bind fun v => read v.node := by
  rw [required?, get?, Members.lookup_map, Option.bind_map]
  rfl

theorem named?_memberNodes {α : Type} (members : List (String × Value)) (name : String)
    (read : Node → Option (Option α)) :
    named? ⟨members.map fun m => (m.1, m.2.node), false⟩ name read =
      ((members.lookup name).map fun v => read v.node).getD (some none) := by
  rw [named?, get?, Members.lookup_map]
  cases members.lookup name <;> rfl

theorem ofNode?_object {names : List String} {members : List (String × Value)}
    (hkeys : (members.map Prod.fst).Nodup) (hnames : ∀ m ∈ members, m.1 ∈ names) :
    ofNode? names (Value.object members).node =
      some ⟨members.map fun m => (m.1, m.2.node), false⟩ := by
  rw [Value.node, ofNode?, known?_memberNodes hkeys hnames, Option.map_some]

end AnswerStream.Json.Record
