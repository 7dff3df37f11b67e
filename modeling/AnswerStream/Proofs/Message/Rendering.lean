import AnswerStream.Answer.Basic
import AnswerStream.Proofs.Json.Printing
import AnswerStream.Proofs.Message.Extending
import AnswerStream.Proofs.Message.Patches

/-!
Messages as they are written. What a sender has to say is written compactly as one object, its
members in any order, and is read again as it was said: the status by its meaning, the cursor as a
text, null flags as false, and of the blocks those that name a field, with the content that they
set.
-/

namespace AnswerStream
open Json (Node Record Value)
open Progress (orNull)

namespace Block
open Json.Value (Plain sorted)

/-- The field that a block names, if it names one. -/
def usage? (members : List (String × Value)) : Option String :=
  ((members.lookup "intended_usage").bind Value.text?).filter fun field => field ≠ ""

/-- A block is read as it is written: its field is the one it names, and holds the last replacement
of its diff or else all its other members. -/
structure Shows (members : List (String × Value)) (b : Block) : Prop where
  usage_eq : usage? members = some b.field
  kind_eq : b.kind = .ofUsage b.field
  content_of_diff : ∀ diff key value, members.lookup "diff_block" = some diff →
    Replaces Documented diff key value → b.update.content = .object [(key, value.sorted)]
  content_of_none : members.lookup "diff_block" = none →
    b.update.content = (Value.object (members.filter fun m => m.1 != "intended_usage")).sorted

theorem usage?_eq_some_iff {members : List (String × Value)} {field : String} :
    usage? members = some field ↔ members.lookup "intended_usage" = some (.text field) ∧
      field ≠ "" := by
  have htext : (members.lookup "intended_usage").bind Value.text? = some field ↔
      members.lookup "intended_usage" = some (.text field) :=
    @Value.textAt?_eq_some_iff (.object members) "intended_usage" field
  rw [usage?, Option.filter_eq_some_iff, htext]
  simp

theorem Replaces.mono {taken taken' : Value → Prop} {diff value : Value} {key : String}
    (h : Replaces taken diff key value) (htaken : ∀ patch, taken patch → taken' patch) :
    Replaces taken' diff key value := by
  obtain ⟨hfield, before, last, hpatches, hall, hvalue⟩ := h
  exact ⟨hfield, before, last, hpatches,
    fun patch hpatch => htaken patch (hall patch hpatch), hvalue⟩

theorem documented_sorted {depth : Nat} {patch : Value} (h : Plain depth patch)
    (hdocumented : Documented patch) : Documented patch.sorted := by
  obtain ⟨hop, hroot⟩ := hdocumented
  refine ⟨?_, fun path hpath => ?_⟩
  · rw [IsReplace, h.get?_sorted, hop]
    rfl
  · rw [h.get?_sorted] at hpath
    obtain ⟨path', hpath', rfl⟩ := Option.map_eq_some_iff.mp hpath
    rcases hroot path' hpath' with rfl | rfl
    · exact .inl rfl
    · exact .inr rfl

theorem patchValue_sorted {depth : Nat} {patch : Value} (h : Plain depth patch) :
    patchValue patch.sorted = (patchValue patch).sorted := by
  rw [patchValue, patchValue, h.get?_sorted]
  cases patch.get? "value" <;> rfl

theorem replaces_sorted {depth : Nat} {diff value : Value} {key : String} (h : Plain depth diff)
    (hreplaces : Replaces Documented diff key value) :
    Replaces Documented diff.sorted key value.sorted := by
  obtain ⟨hfield, before, last, hpatches, hdocumented, rfl⟩ := hreplaces
  have hplain := (h.of_get? hpatches).of_mem_items
  refine ⟨?_, before.map sorted, last.sorted, ?_, ?_, ?_⟩
  · rw [h.get?_sorted, hfield]
    rfl
  · rw [h.get?_sorted, hpatches, Option.map_some, Value.sorted_array, List.map_append,
      List.map_singleton]
  · rw [← List.map_singleton, ← List.map_append]
    intro patch' hpatch'
    obtain ⟨patch, hpatch, rfl⟩ := List.mem_map.mp hpatch'
    exact documented_sorted (hplain patch hpatch) (hdocumented patch hpatch)
  · exact (patchValue_sorted (hplain last (by simp))).symm

/-- Its diff, if it has one, replaces as the specification says. -/
def IsDocumented (members : List (String × Value)) : Prop :=
  ∀ diff, members.lookup "diff_block" = some diff → ∃ key value, Replaces Documented diff key value

theorem read_of_no_usage {members : List (String × Value)}
    (h : ∀ field, Value.textAt? usageKey (.object members) = some field → field = "") :
    read (.object members) = .ok none := by
  cases hfield : Value.textAt? usageKey (.object members) with
  | none => simp [read, hfield]
  | some field => simp [read, hfield, h field hfield]

theorem read_of_no_diff {members : List (String × Value)} {field : String}
    (hfield : Value.get? usageKey (.object members) = some (.text field)) (hne : field ≠ "")
    (hdiff : Value.get? diffKey (.object members) = none) :
    read (.object members) = .ok (some ⟨field, .ofUsage field,
      .snapshot (.object (members.filter fun m => m.1 != usageKey))⟩) := by
  rw [← Value.textAt?_eq_some_iff] at hfield
  simp [read, hfield, hdiff, bind, Except.bind, pure, Except.pure]

/-- A block is passed over if it names no field, and is read as it is written if it does. -/
theorem read_sorted {depth : Nat} {members : List (String × Value)}
    (h : Plain depth (.object members)) (hdiffs : IsDocumented members) :
    (usage? members = none ∧ read (Value.object members).sorted = .ok none) ∨
      ∃ b, read (Value.object members).sorted = .ok (some b) ∧ Shows members b := by
  have hget (key : String) : (Value.object members).sorted.get? key =
      (members.lookup key).map sorted :=
    h.get?_sorted key
  have htext {s : String} : (Value.object members).sorted.get? usageKey = some (.text s) ↔
      members.lookup "intended_usage" = some (.text s) := by
    rw [hget, usageKey, Option.map_eq_some_iff]
    simp only [Value.sorted_eq_text_iff, exists_eq_right]
  cases husage : usage? members with
  | none =>
    refine .inl ⟨rfl, read_of_no_usage fun field hfield => ?_⟩
    by_contra hne
    have hnamed := usage?_eq_some_iff.mpr ⟨htext.mp (Value.textAt?_eq_some_iff.mp hfield), hne⟩
    rw [husage] at hnamed
    cases hnamed
  | some field =>
    obtain ⟨hfield, hne⟩ := usage?_eq_some_iff.mp husage
    refine .inr ?_
    cases hdiff : members.lookup "diff_block" with
    | none =>
      have hdiff' : (Value.object members).sorted.get? diffKey = none := by
        rw [hget, diffKey, hdiff]; rfl
      refine ⟨_, read_of_no_diff (htext.mpr hfield) hne hdiff', husage, rfl, ?_, fun _ => ?_⟩
      · intro diff key value hsome
        rw [hdiff] at hsome
        cases hsome
      · exact h.filter_sorted fun key => key != usageKey
    | some diff =>
      obtain ⟨key, value, hreplaces⟩ := hdiffs diff hdiff
      have hplain : Plain (depth - 1) diff := h.of_get? hdiff
      have hdiff' : (Value.object members).sorted.get? diffKey = some diff.sorted := by
        rw [hget, diffKey, hdiff]
        rfl
      have htaken := (replaces_sorted hplain hreplaces).mono fun patch hpatch =>
        show Taken patch from ⟨hpatch.1, .inl hpatch.2⟩
      have hupdate := readDiff_eq_ok_iff.mpr ⟨key, value.sorted, htaken, rfl⟩
      refine ⟨⟨field, .ofUsage field, .replace key value.sorted⟩, ?_, husage, rfl, ?_,
        fun hnone => ?_⟩
      · rw [read_of_diff (htext.mpr hfield) hne hdiff', hupdate]
        rfl
      · intro diff' key' value' hsome hreplaces'
        rw [hdiff] at hsome
        cases hsome
        obtain ⟨rfl, rfl⟩ := hreplaces.unique hreplaces'
        rfl
      · rw [hdiff] at hnone
        cases hnone

theorem mapM_read_sorted {depth : Nat} {blocks : List (List (String × Value))}
    (h : ∀ block ∈ blocks, Plain depth (.object block))
    (hdiffs : ∀ block ∈ blocks, IsDocumented block) :
    ∃ bs, (blocks.map fun block => (Value.object block).sorted).mapM read = .ok bs ∧
      List.Forall₂ Shows (blocks.filter fun block => (usage? block).isSome) (bs.filterMap id) := by
  simp only [mapM_eq_ok_iff]
  induction blocks with
  | nil => exact ⟨[], .nil, .nil⟩
  | cons block blocks ih =>
    obtain ⟨hblock, hblocks⟩ := List.forall_mem_cons.mp h
    obtain ⟨hdiff, hdiffs⟩ := List.forall_mem_cons.mp hdiffs
    obtain ⟨bs, hbs, hshows⟩ := ih hblocks hdiffs
    rcases read_sorted hblock hdiff with ⟨husage, hread⟩ | ⟨b, hread, hb⟩
    · refine ⟨none :: bs, .cons hread hbs, ?_⟩
      simpa [husage] using hshows
    · refine ⟨some b :: bs, .cons hread hbs, ?_⟩
      simpa [hb.usage_eq] using And.intro hb hshows

end Block

/-- A cursor as it is sent. -/
inductive Cursor
  | text (s : String)
  | number (i : Int)

namespace Cursor

def toValue : Cursor → Value
  | .text s => .text s
  | .number i => .int i

/-- The text for which it is taken. -/
def shown : Cursor → String
  | .text s => s
  | .number i => toString i

end Cursor

/-- What a sender has to say in a message. -/
structure Draft where
  status : String
  cursor : Option Cursor
  terminal : Option Bool
  textCompleted : Option Bool
  /-- Left out, or null, or a text. -/
  backendId : Option (Option String)
  threadSlug : Option (Option String)
  blocks : List (List (String × Value))

namespace Draft
open Json.Value (Plain)

/-- A member that may be left out. -/
def idMember (name : String) (id : Option (Option String)) : List (String × Value) :=
  id.toList.map fun s => (name, orNull .text s)

def members (d : Draft) : List (String × Value) :=
  [("status", .text d.status), ("cursor", orNull Cursor.toValue d.cursor),
    ("final_sse_message", orNull .bool d.terminal),
    ("text_completed", orNull .bool d.textCompleted)] ++
  idMember "backend_uuid" d.backendId ++ idMember "thread_url_slug" d.threadSlug ++
  [("blocks", .array (d.blocks.map .object))]

/-- The record that is read of it. -/
def wire (d : Draft) : Wire :=
  { status := d.status, cursor := d.cursor.map Cursor.shown, terminal := d.terminal.getD false
    textCompleted := d.textCompleted.getD false, backendId := d.backendId.join
    threadSlug := d.threadSlug.join
    blocks := some (d.blocks.map fun block => (Value.object block).sorted) }

/-- A message says what the sender had to say. -/
structure Shows (d : Draft) (m : Message) : Prop where
  status_eq : m.status = .parse d.status
  cursor_eq : m.cursor = d.cursor.map Cursor.shown
  terminal_eq : m.terminal = d.terminal.getD false
  textCompleted_eq : m.textCompleted = d.textCompleted.getD false
  backendId_eq : m.backendId = d.backendId.join
  threadSlug_eq : m.threadSlug = d.threadSlug.join
  blocks_eq : List.Forall₂ Block.Shows
    (d.blocks.filter fun block => (Block.usage? block).isSome) m.blocks

theorem lookup_status (d : Draft) : d.members.lookup "status" = some (.text d.status) := rfl

theorem lookup_cursor (d : Draft) :
    d.members.lookup "cursor" = some (orNull Cursor.toValue d.cursor) := rfl

theorem lookup_terminal (d : Draft) :
    d.members.lookup "final_sse_message" = some (orNull .bool d.terminal) := rfl

theorem lookup_textCompleted (d : Draft) :
    d.members.lookup "text_completed" = some (orNull .bool d.textCompleted) := rfl

theorem lookup_blocks (d : Draft) :
    d.members.lookup "blocks" = some (.array (d.blocks.map .object)) := by
  obtain ⟨_, _, _, _, _ | _, _ | _, _⟩ := d <;> rfl

theorem lookup_backendId (d : Draft) :
    d.members.lookup "backend_uuid" = d.backendId.map fun s => orNull .text s := by
  obtain ⟨_, _, _, _, _ | _, _ | _, _⟩ := d <;> rfl

theorem lookup_threadSlug (d : Draft) :
    d.members.lookup "thread_url_slug" = d.threadSlug.map fun s => orNull .text s := by
  obtain ⟨_, _, _, _, _ | _, _ | _, _⟩ := d <;> rfl

theorem mem_fieldNames {d : Draft} : ∀ m ∈ d.members, m.1 ∈ Wire.fieldNames := by
  obtain ⟨_, _, _, _, _ | _, _ | _, _⟩ := d <;> simp [members, idMember, Wire.fieldNames]

end Draft

namespace Wire
open Json.Value (Plain)

theorem readId_node {cursor : Option Cursor} {depth : Nat}
    (h : Plain depth (orNull Cursor.toValue cursor)) :
    readId (orNull Cursor.toValue cursor).node = some (cursor.map Cursor.shown) := by
  rcases cursor with _ | s | i
  · rfl
  · rfl
  · cases h with
    | int hfits =>
      simp [orNull, Cursor.toValue, Cursor.shown, Value.int, Value.node, readId, Node.int?,
        Json.Literal.int?_ofInt hfits, Json.Number.ofList_renderInt]

theorem nullable?_bool_node (b : Option Bool) :
    Node.nullable? Node.bool? (orNull Value.bool b).node = some b := by
  cases b <;> rfl

theorem default?_id_node (id : Option (Option String)) :
    ((id.map fun s => orNull Value.text s).map fun v => Node.nullable? Node.text? v.node).getD
    (some none) =
      some id.join := by
  rcases id with _ | _ | _ <;> rfl

theorem ofNode?_of_draft {d : Draft} {members : List (String × Value)}
    (hperm : members.Perm d.members) (hplain : Plain Value.maxDepth (.object members)) :
    ofNode? (Value.object members).node = some d.wire := by
  have hkeys := hplain.keys_nodup
  have hlookup (name : String) : members.lookup name = d.members.lookup name :=
    (Json.Members.lookup_of_perm hkeys hperm name).symm
  have hnames : ∀ m ∈ members, m.1 ∈ fieldNames :=
    fun m hm => Draft.mem_fieldNames m (hperm.mem_iff.mp hm)
  have hcursor : readId (orNull Cursor.toValue d.cursor).node = some (d.cursor.map Cursor.shown) :=
    readId_node (hplain.of_get? ((hlookup _).trans d.lookup_cursor))
  have hblocks : (d.blocks.map fun block => (Value.object block).node).mapM
      (Value.ofNode? blockDepth) =
      some (d.blocks.map fun block => (Value.object block).sorted) := by
    have hitems := (hplain.of_get? ((hlookup _).trans d.lookup_blocks)).of_mem_items
    exact Value.mapM_eq_some_map fun block hblock =>
      (hitems _ (List.mem_map_of_mem hblock)).ofNode?_node
  have hlist : Node.nullable? (Node.list? (Value.ofNode? blockDepth))
      (Value.array (d.blocks.map .object)).node =
        some (some (d.blocks.map fun block => (Value.object block).sorted)) := by
    rw [Value.node, Value.itemNodes_eq_map, List.map_map]
    exact congrArg (Option.map some) hblocks
  rw [ofNode?, Value.node, Record.ofNode?, Record.known?_memberNodes hkeys hnames]
  simp only [Option.map_some, Option.bind_eq_bind, Option.bind_some, Record.default?_memberNodes,
    hlookup, Draft.lookup_status, Draft.lookup_cursor, Draft.lookup_terminal,
    Draft.lookup_textCompleted, Draft.lookup_backendId, Draft.lookup_threadSlug,
    Draft.lookup_blocks, Option.getD_some, hcursor, nullable?_bool_node, default?_id_node, hlist]
  rfl

end Wire

namespace Message
open Json.Value (Plain)

/-- Decoding gives back what was written. What a sender has to say is written compactly, its members
in any order, keys and texts of any characters, all numbers whole and no deeper than the limit. -/
theorem ofFrame_of_draft {event : Option String} {d : Draft} {members : List (String × Value)}
    (hevent : event = none ∨ event = some eventName) (hperm : members.Perm d.members)
    (hplain : Plain Value.maxDepth (.object members))
    (hdiffs : ∀ block ∈ d.blocks, Block.IsDocumented block) :
    ∃ m, ofFrame ⟨event, (Value.object members).compact⟩ = .ok (some m) ∧ d.Shows m := by
  have hpayload : (Value.object members).node.Writes (Value.object members).compact.toList := by
    rw [Value.compact, String.toList_ofList]
    exact hplain.writes
  have hblank : Text.isBlank (Value.object members).compact = false := by
    rw [Value.node] at hpayload
    exact isBlank_of_object hpayload
  have hblocks : ∀ block ∈ d.blocks, Plain (Value.maxDepth - 1 - 1) (.object block) := by
    intro block hblock
    have hlookup :=
      (Json.Members.lookup_of_perm hplain.keys_nodup hperm "blocks").symm.trans d.lookup_blocks
    exact (hplain.of_get? hlookup).of_mem_items _ (List.mem_map_of_mem hblock)
  obtain ⟨bs, hread, hshows⟩ := Block.mapM_read_sorted hblocks hdiffs
  have hmessage := (ofWire_eq_ok_iff (w := d.wire)).mpr ⟨bs, hread, rfl⟩
  have hread :=
    (ofPayload_eq_ok_iff hpayload).mpr ⟨d.wire, Wire.ofNode?_of_draft hperm hplain, hmessage⟩
  have hframe :=
    (ofFrame_eq_some_iff (f := ⟨event, (Value.object members).compact⟩) hevent hblank).mpr hread
  exact ⟨_, hframe, rfl, rfl, rfl, rfl, rfl, rfl, hshows⟩

/-- A block for research that holds rows. -/
def rowsBlock : List (String × Value) :=
  [("rows", .array [.int 3, .text "a\"\n"]), ("intended_usage", .text "plan")]

/-- A block that sets its text to null. -/
def clearingBlock : List (String × Value) :=
  [("diff_block", .object [("field", .text "text"),
    ("patches", .array [.object [("op", .text "replace"), ("path", .text "/")]])]),
    ("intended_usage", .text "ask_text")]

def sketch : Draft :=
  { status := "done", cursor := some (.number (-7)), terminal := some true, textCompleted := none
    backendId := some none, threadSlug := none
    blocks := [rowsBlock, [("note", .null)], clearingBlock] }

theorem plain_sketch : Plain Value.maxDepth (.object sketch.members) := by
  simp [sketch, rowsBlock, clearingBlock, Draft.members, Draft.idMember, orNull, Cursor.toValue,
    Value.int, Value.maxDepth, Json.Literal.Fits]

/-- Three blocks are written, and the two that name a field are read. -/
theorem ofFrame_of_sketch :
    let payload :=
      "\x7b\"status\":\"done\",\"cursor\":-7,\"final_sse_message\":true,\"text_completed\":null," ++
      "\"backend_uuid\":null,\"blocks\":[\x7b\"rows\":[3,\"a\\\"\\n\"]," ++
      "\"intended_usage\":\"plan\"\x7d,\x7b\"note\":null\x7d," ++
      "\x7b\"diff_block\":\x7b\"field\":\"text\",\"patches\":[" ++
      "\x7b\"op\":\"replace\",\"path\":\"/\"\x7d]\x7d," ++
      "\"intended_usage\":\"ask_text\"\x7d]\x7d"
    ∃ m, ofFrame ⟨some eventName, payload⟩ = .ok (some m) ∧
      m.status = .completed ∧ m.cursor = some "-7" ∧ m.terminal = true ∧ m.textCompleted = false ∧
      m.blocks.map (fun b => (b.field, b.update.content)) =
        [("plan", .object [("rows", .array [.int 3, .text "a\"\n"])]),
          ("ask_text", .object [("text", .null)])] := by
  intro payload
  have hpayload : (Value.object sketch.members).compact = payload := by decide +kernel
  have hdiff : Block.Replaces Block.Documented (.object [("field", .text "text"),
      ("patches", .array [.object [("op", .text "replace"), ("path", .text "/")]])]) "text" .null :=
    ⟨rfl, [], _, rfl, List.forall_mem_singleton.mpr ⟨rfl, by rintro path ⟨⟩; exact .inr rfl⟩, rfl⟩
  have hdiffs : ∀ block ∈ sketch.blocks, Block.IsDocumented block := by
    simp only [sketch, List.forall_mem_cons]
    refine ⟨nofun, nofun, ?_, by simp⟩
    rintro diff ⟨⟩
    exact ⟨_, _, hdiff⟩
  obtain ⟨m, hread, hshows⟩ :=
    ofFrame_of_draft (.inr rfl) (.refl sketch.members) plain_sketch hdiffs
  rw [hpayload] at hread
  have hnamed : sketch.blocks.filter (fun block => (Block.usage? block).isSome) =
      [rowsBlock, clearingBlock] := rfl
  have hblocks := hshows.blocks_eq
  rw [hnamed] at hblocks
  obtain ⟨rows, rest, hrows, hrest, hm⟩ := List.forall₂_cons_left_iff.mp hblocks
  obtain ⟨clearing, rest', hclearing, hrest', rfl⟩ := List.forall₂_cons_left_iff.mp hrest
  obtain rfl := List.forall₂_nil_left_iff.mp hrest'
  have hstatus : Status.parse "done" = .completed := by decide +kernel
  refine ⟨m, hread, hshows.status_eq.trans hstatus, hshows.cursor_eq, hshows.terminal_eq,
    hshows.textCompleted_eq, ?_⟩
  have hplan : "plan" = rows.field := Option.some.inj hrows.usage_eq
  have htext : "ask_text" = clearing.field := Option.some.inj hclearing.usage_eq
  rw [hm, List.map_cons, List.map_singleton, ← hplan, ← htext, hrows.content_of_none rfl,
    hclearing.content_of_diff _ _ _ rfl hdiff]
  rfl

end Message
end AnswerStream
