import AnswerStream.Proofs.Json.Composing
import AnswerStream.Proofs.Json.Members

/-!
Values written compactly and read again. What is written of a value is a text of its tree, and a
value whose numbers are whole and whose depth is within the limit is read from that tree, with the
members of its objects sorted by key.
-/

namespace AnswerStream.Json

namespace Piece

theorem WritesAll.cons {p : Piece} {ps : List Piece} {part cs : List Char} (hp : p.Writes part)
    (h : WritesAll ps cs) : WritesAll (p :: ps) (part ++ cs) := by
  induction h with
  | nil => simpa using WritesAll.nil.snoc hp
  | snoc _ hlast ih =>
    rw [← List.append_assoc]
    exact ih.snoc hlast

/-- A character has a short escape, or it is a control character, or it stands for itself. -/
theorem escape_cases (c : Char) :
    (∃ e, Token.simpleEscape? e = some c ∧ escape c = ['\\', e]) ∨
      (c.toNat < 0x20 ∧
        escape c = ['\\', 'u', '0', '0', Text.hexDigit (c.toNat / 16),
          Text.hexDigit (c.toNat % 16)]) ∨
      (c ≠ '"' ∧ c ≠ '\\' ∧ 0x20 ≤ c.toNat ∧ escape c = [c]) := by
  unfold escape
  split
  · exact .inl ⟨_, rfl, rfl⟩
  · exact .inl ⟨_, rfl, rfl⟩
  · exact .inl ⟨'b', rfl, rfl⟩
  · exact .inl ⟨'f', rfl, rfl⟩
  · exact .inl ⟨'n', rfl, rfl⟩
  · exact .inl ⟨'r', rfl, rfl⟩
  · exact .inl ⟨'t', rfl, rfl⟩
  · next hquote hslash _ _ _ _ _ =>
    split
    · next hcontrol => exact .inr (.inl ⟨hcontrol, rfl⟩)
    · next hcontrol => exact .inr (.inr ⟨hquote, hslash, Nat.not_lt.mp hcontrol, rfl⟩)

theorem hexValue?_control {n : Nat} (h : n < 0x20) :
    Text.hexValue? ['0', '0', Text.hexDigit (n / 16), Text.hexDigit (n % 16)] = some n := by
  interval_cases n <;> rfl

theorem chars?_unit_control {n : Nat} (h : n < 0x20) (ps : List Piece) :
    chars? (.unit n :: ps) = (chars? ps).map (Char.ofNat n :: ·) := by
  have hlead : TextScan.isLeading n = false := by simp [TextScan.isLeading]; omega
  have htrail : TextScan.isTrailing n = false := by simp [TextScan.isTrailing]; omega
  rcases ps with _ | ⟨_ | _, _⟩ <;> simp [chars?, hlead, htrail]

theorem exists_writes_escape (c : Char) :
    ∃ p : Piece, p.Writes (escape c) ∧ ∀ ps, chars? (p :: ps) = (chars? ps).map (c :: ·) := by
  rcases escape_cases c with ⟨e, he, hc⟩ | ⟨hcontrol, hc⟩ | ⟨hquote, hslash, hplain, hc⟩
  · exact ⟨.char c, hc ▸ .escaped he, fun _ => rfl⟩
  · refine ⟨.unit c.toNat, hc ▸ .unit rfl (hexValue?_control hcontrol), fun ps => ?_⟩
    rw [chars?_unit_control hcontrol, Char.ofNat_toNat]
  · exact ⟨.char c, hc ▸ .plain hquote hslash hplain, fun _ => rfl⟩

theorem exists_writesAll_escaped (cs : List Char) :
    ∃ ps, WritesAll ps (cs.flatMap escape) ∧ chars? ps = some cs := by
  induction cs with
  | nil => exact ⟨[], .nil, rfl⟩
  | cons c cs ih =>
    obtain ⟨ps, hps, hchars⟩ := ih
    obtain ⟨p, hp, htake⟩ := exists_writes_escape c
    refine ⟨p :: ps, ?_, ?_⟩
    · rw [List.flatMap_cons]
      exact .cons hp hps
    · rw [htake, hchars, Option.map_some]

end Piece

theorem Token.writes_quoted (s : String) : (Token.text (some s)).Writes (quoted s) := by
  obtain ⟨ps, hps, hchars⟩ := Piece.exists_writesAll_escaped s.toList
  have htext : Piece.text? ps = some s := by
    rw [Piece.text?, hchars, Option.map_some, String.ofList_toList]
  have h := Token.Writes.text hps
  rwa [htext] at h

namespace Value

mutual

/-- The tree of a value. A number that is not whole has no tree of its own here, and stands for
null. -/
def node : Value → Node
  | .null => .null
  | .bool b => .bool b
  | .number (.int i) => .number (.ofInt i)
  | .number (.float _) => .null
  | .text s => .text (some s)
  | .array items => .array (itemNodes items)
  | .object members => .object (memberNodes members)

def itemNodes : List Value → List Node
  | [] => []
  | v :: rest => v.node :: itemNodes rest

def memberNodes : List (String × Value) → List (Option String × Node)
  | [] => []
  | (key, v) :: rest => (some key, v.node) :: memberNodes rest

end

mutual

/-- The value with the members of its objects in the order of their keys. -/
def sorted : Value → Value
  | .array items => .array (sortedItems items)
  | .object members => .object (Members.ofList (sortedMembers members))
  | v => v

def sortedItems : List Value → List Value
  | [] => []
  | v :: rest => v.sorted :: sortedItems rest

def sortedMembers : List (String × Value) → List (String × Value)
  | [] => []
  | (key, v) :: rest => (key, v.sorted) :: sortedMembers rest

end

/-- Its numbers are whole and fit 64 bits, no key comes twice in an object, and it nests at most
`depth` deep. -/
inductive Plain : (depth : Nat) → Value → Prop
  | null {depth : Nat} : Plain depth .null
  | bool {depth : Nat} (b : Bool) : Plain depth (.bool b)
  | int {depth : Nat} {i : Int} (h : Literal.Fits i) : Plain depth (.number (.int i))
  | text {depth : Nat} (s : String) : Plain depth (.text s)
  | array {depth : Nat} {items : List Value} (h : ∀ v ∈ items, Plain depth v) :
      Plain (depth + 1) (.array items)
  | object {depth : Nat} {members : List (String × Value)} (hkeys : (members.map Prod.fst).Nodup)
      (h : ∀ m ∈ members, Plain depth m.2) : Plain (depth + 1) (.object members)

attribute [simp] Plain.null Plain.bool Plain.text

@[simp]
theorem plain_int_iff {depth : Nat} {i : Int} :
    Plain depth (.number (.int i)) ↔ Literal.Fits i := by
  constructor
  · rintro ⟨⟩
    assumption
  · exact .int

@[simp]
theorem plain_array_iff {depth : Nat} {items : List Value} :
    Plain (depth + 1) (.array items) ↔ ∀ v ∈ items, Plain depth v := by
  constructor
  · rintro ⟨⟩
    assumption
  · exact .array

@[simp]
theorem plain_object_iff {depth : Nat} {members : List (String × Value)} :
    Plain (depth + 1) (.object members) ↔
      (members.map Prod.fst).Nodup ∧ ∀ m ∈ members, Plain depth m.2 := by
  constructor
  · rintro ⟨⟩
    constructor <;> assumption
  · rintro ⟨hkeys, hmembers⟩
    exact .object hkeys hmembers

theorem itemNodes_eq_map (items : List Value) : itemNodes items = items.map node := by
  induction items with
  | nil => rfl
  | cons v items ih => rw [itemNodes, ih, List.map_cons]

theorem memberNodes_eq_map (members : List (String × Value)) :
    memberNodes members = members.map fun m => (some m.1, m.2.node) := by
  induction members with
  | nil => rfl
  | cons m members ih => rw [memberNodes, ih, List.map_cons]

theorem sortedItems_eq_map (items : List Value) : sortedItems items = items.map sorted := by
  induction items with
  | nil => rfl
  | cons v items ih => rw [sortedItems, ih, List.map_cons]

theorem sortedMembers_eq_map (members : List (String × Value)) :
    sortedMembers members = members.map fun m => (m.1, m.2.sorted) := by
  induction members with
  | nil => rfl
  | cons m members ih => rw [sortedMembers, ih, List.map_cons]

theorem compactItems_eq_map (items : List Value) : compactItems items = items.map compactChars := by
  induction items with
  | nil => rfl
  | cons v items ih => rw [compactItems, ih, List.map_cons]

theorem compactMembers_eq_map (members : List (String × Value)) :
    compactMembers members = members.map fun m => quoted m.1 ++ ':' :: compactChars m.2 := by
  induction members with
  | nil => rfl
  | cons m members ih => rw [compactMembers, ih, List.map_cons]

theorem Plain.writes {depth : Nat} {v : Value} (h : Plain depth v) :
    v.node.Writes v.compactChars := by
  induction h with
  | null => exact Token.Writes.null.single
  | bool b =>
    cases b with
    | false => exact Token.Writes.false.single
    | true => exact Token.Writes.true.single
  | int _ => exact (Token.Writes.number (Literal.writes_ofInt _)).single
  | text s => exact (Token.writes_quoted s).single
  | @array _ items _ ih =>
    rw [node, compactChars, itemNodes_eq_map, compactItems_eq_map]
    refine Node.writes_array ?_
    rw [List.forall₂_map_left_iff, List.forall₂_map_right_iff, List.forall₂_same]
    exact ih
  | @object _ members _ _ ih =>
    rw [node, compactChars, memberNodes_eq_map, compactMembers_eq_map]
    refine Node.writes_object ?_
    rw [List.forall₂_map_left_iff, List.forall₂_map_right_iff, List.forall₂_same]
    exact fun m hm => (Token.writes_quoted m.1).cons (Token.Writes.colon.cons (ih m hm))

theorem mapM_eq_some_map {α β γ : Type} {read : β → Option γ} {f : α → β} {g : α → γ} {as : List α}
    (h : ∀ a ∈ as, read (f a) = some (g a)) : (as.map f).mapM read = some (as.map g) := by
  induction as with
  | nil => rfl
  | cons a as ih =>
    obtain ⟨ha, has⟩ := List.forall_mem_cons.mp h
    simp [ha, ih has]

theorem Plain.ofNode?_node {depth : Nat} {v : Value} (h : Plain depth v) :
    ofNode? depth v.node = some v.sorted := by
  induction h with
  | null | bool | text => simp [node, sorted, ofNode?]
  | int h => simp [node, sorted, ofNode?, Number.ofLiteral?, Literal.int?_ofInt h]
  | array _ ih =>
    rw [node, sorted, itemNodes_eq_map, sortedItems_eq_map, ofNode?, mapM_eq_some_map ih,
      Option.map_some]
  | @object depth members _ _ ih =>
    have hmembers : (members.map fun m => (some m.1, m.2.node)).mapM
        (fun m : Option String × Node => do
          let key ← m.1
          let v ← ofNode? depth m.2
          some (key, v)) = some (members.map fun m => (m.1, m.2.sorted)) :=
      mapM_eq_some_map fun m hm => by simp [ih m hm]
    rw [node, sorted, memberNodes_eq_map, sortedMembers_eq_map, ofNode?, hmembers]
    rfl

theorem Plain.nodeParse?_compact {depth : Nat} {v : Value} (h : Plain depth v) :
    Node.parse? v.compact = some v.node := by
  rw [Node.parse?_eq_some_iff, compact, String.toList_ofList]
  exact h.writes

theorem Plain.parse?_compact {v : Value} (h : Plain maxDepth v) :
    parse? v.compact = some v.sorted := by
  rw [parse?, h.nodeParse?_compact, Option.bind_some, h.ofNode?_node]

theorem Plain.keys_nodup {depth : Nat} {members : List (String × Value)}
    (h : Plain depth (.object members)) : (members.map Prod.fst).Nodup := by
  cases h with
  | object hkeys _ => exact hkeys

theorem map_fst_sortedMembers (members : List (String × Value)) :
    (sortedMembers members).map Prod.fst = members.map Prod.fst := by
  rw [sortedMembers_eq_map, List.map_map]
  rfl

theorem Plain.get?_sorted {depth : Nat} {v : Value} (h : Plain depth v) (key : String) :
    v.sorted.get? key = (v.get? key).map sorted := by
  cases h with
  | @object _ members hkeys _ =>
    have hsorted : ((sortedMembers members).map Prod.fst).Nodup := by rwa [map_fst_sortedMembers]
    rw [sorted, get?, Members.lookup_ofList hsorted, sortedMembers_eq_map, Members.lookup_map, get?]
  | _ => rfl

theorem Plain.filter_sorted {depth : Nat} {members : List (String × Value)}
    (h : Plain depth (.object members)) (p : String → Bool) :
    Value.object ((Members.ofList (sortedMembers members)).filter fun m => p m.1) =
      (Value.object (members.filter fun m => p m.1)).sorted := by
  have hsorted : ((sortedMembers members).map Prod.fst).Nodup := by
    rw [map_fst_sortedMembers]
    exact h.keys_nodup
  rw [Members.filter_ofList hsorted, sorted, sortedMembers_eq_map, sortedMembers_eq_map,
    List.filter_map]
  rfl

theorem sorted_eq_text_iff {v : Value} {s : String} : v.sorted = .text s ↔ v = .text s := by
  cases v <;> simp [sorted]

theorem Plain.of_get? {depth : Nat} {v member : Value} {key : String} (h : Plain depth v)
    (hmember : v.get? key = some member) : Plain (depth - 1) member := by
  cases h with
  | @object _ members hkeys hmembers =>
    exact hmembers _ ((Members.lookup_eq_some_iff_mem hkeys).mp hmember)
  | _ => cases hmember

theorem Plain.of_mem_items {depth : Nat} {items : List Value} (h : Plain depth (.array items)) :
    ∀ v ∈ items, Plain (depth - 1) v := by
  cases h with
  | array hitems => exact hitems

theorem sorted_object {members : List (String × Value)} (hsorted : Members.Sorted members)
    (h : ∀ m ∈ members, m.2.sorted = m.2) : (Value.object members).sorted = .object members := by
  have hmembers : sortedMembers members = members := by
    rw [sortedMembers_eq_map]
    conv_rhs => rw [← List.map_id members]
    exact List.map_congr_left fun m hm => Prod.ext rfl (h m hm)
  rw [sorted, hmembers, Members.ofList_of_sorted hsorted]

theorem sorted_array (items : List Value) :
    (Value.array items).sorted = .array (items.map sorted) := by
  rw [sorted, sortedItems_eq_map]

end Value
end AnswerStream.Json
