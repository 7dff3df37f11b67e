import AnswerStream.Proofs.Checking
import AnswerStream.Proofs.Message.Payload

/-!
Which messages with patches are read. A block with a diff is read if its patches are replacements,
one or more of them, and then it holds the value of the last one. A path has to stand for the root,
or else it is not a text: a path that is a number, an array or any other value is passed over.
-/

namespace AnswerStream
open Json (Node Value)

namespace Json.Value

theorem textAt?_eq_some_iff {v : Value} {key s : String} :
    v.textAt? key = some s ↔ v.get? key = some (.text s) := by
  rw [textAt?, Option.bind_eq_some_iff]
  constructor
  · rintro ⟨member, hmember, hs⟩
    cases member <;> cases hs
    exact hmember
  · intro h
    exact ⟨_, h, rfl⟩

theorem bind_array?_eq_some_iff {v : Option Value} {items : List Value} :
    v.bind array? = some items ↔ v = some (.array items) := by
  rw [Option.bind_eq_some_iff]
  constructor
  · rintro ⟨array, rfl, hitems⟩
    cases array <;> cases hitems
    rfl
  · rintro rfl
    exact ⟨_, rfl, rfl⟩

end Json.Value

namespace Block

/-- Its path, if it has one, is a text for the root. -/
def AtRoot (patch : Value) : Prop :=
  ∀ path, patch.get? "path" = some path → path = .text "" ∨ path = .text "/"

/-- Its path is no text. -/
def PathNotText (patch : Value) : Prop :=
  ∃ path, patch.get? "path" = some path ∧ ∀ s, path ≠ .text s

def IsReplace (patch : Value) : Prop := patch.get? "op" = some (.text "replace")

/-- What a patch puts in place, null if it does not say. -/
def patchValue (patch : Value) : Value := (patch.get? "value").getD .null

/-- A diff that sets `key` to `value` by patches that are all of a kind. -/
structure Replaces (taken : Value → Prop) (diff : Value) (key : String) (value : Value) : Prop where
  field_eq : diff.get? "field" = some (.text key)
  patches_eq : ∃ before last, diff.get? "patches" = some (.array (before ++ [last])) ∧
    (∀ patch ∈ before ++ [last], taken patch) ∧ value = patchValue last

/-- The patches that the specification knows. -/
def Documented (patch : Value) : Prop := IsReplace patch ∧ AtRoot patch

/-- The patches that are read. -/
def Taken (patch : Value) : Prop := IsReplace patch ∧ (AtRoot patch ∨ PathNotText patch)

theorem atRoot_or_pathNotText_iff {patch : Value} :
    AtRoot patch ∨ PathNotText patch ↔
      ∀ s, patch.get? "path" = some (.text s) → s = "" ∨ s = "/" := by
  unfold AtRoot PathNotText
  cases patch.get? "path" with
  | none => simp
  | some path =>
    cases path with
    | text s => simp
    | _ => simp

theorem readPatch_eq_ok_iff {patch v : Value} :
    readPatch patch = .ok v ↔ Taken patch ∧ v = patchValue patch := by
  unfold readPatch Taken IsReplace
  extract_lets atRoot
  have hroot : atRoot = true ↔ AtRoot patch ∨ PathNotText patch := by
    rw [atRoot_or_pathNotText_iff]
    simp only [← Value.textAt?_eq_some_iff, atRoot]
    split
    · next h => simp [h]
    · next h => simp [h]
    · next h => simp [h]
    · next s hempty hslash h => simp_all
  rw [← Value.textAt?_eq_some_iff, ← hroot]
  split
  · next h => simp [h, patchValue, eq_comm]
  · next h => simp [h]

theorem mapM_readPatch_eq_ok_iff {patches values : List Value} :
    patches.mapM readPatch = .ok values ↔
      (∀ patch ∈ patches, Taken patch) ∧ values = patches.map patchValue := by
  have hmap : values = patches.map patchValue ↔
      List.Forall₂ (fun patch value => value = patchValue patch) patches values := by
    rw [eq_comm, ← List.forall₂_eq_eq_eq, List.forall₂_map_left_iff]
    simp only [eq_comm]
  rw [mapM_eq_ok_iff, hmap, ← List.forall₂_and_left]
  simp only [readPatch_eq_ok_iff]

theorem readDiff_eq_ok_iff {diff : Value} {update : BlockUpdate} :
    readDiff diff = .ok update ↔
      ∃ key value, Replaces Taken diff key value ∧ update = .replace key value := by
  constructor
  · intro h
    unfold readDiff at h
    split at h
    · next key hkey =>
      rw [Value.textAt?_eq_some_iff] at hkey
      split at h
      · next patches hpatches =>
        rw [Value.bind_array?_eq_some_iff] at hpatches
        obtain ⟨values, hvalues, h⟩ := bind_eq_ok_iff.mp h
        obtain ⟨htaken, rfl⟩ := mapM_readPatch_eq_ok_iff.mp hvalues
        rcases patches.eq_nil_or_concat with rfl | ⟨before, last, rfl⟩
        · cases h
        · rw [List.concat_eq_append] at *
          rw [List.map_append, List.map_singleton, List.getLast?_concat] at h
          cases h
          exact ⟨key, _, ⟨hkey, before, last, hpatches, htaken, rfl⟩, rfl⟩
      · cases h
    · cases h
  · rintro ⟨key, value, ⟨hkey, before, last, hpatches, htaken, rfl⟩, rfl⟩
    have hvalues := mapM_readPatch_eq_ok_iff.mpr ⟨htaken, rfl⟩
    unfold readDiff
    rw [Value.textAt?_eq_some_iff.mpr hkey, hpatches]
    show ((before ++ [last]).mapM readPatch >>= _) = _
    rw [bind_eq_ok_iff]
    refine ⟨_, hvalues, ?_⟩
    rw [List.map_append, List.map_singleton, List.getLast?_concat]
    rfl

/-- An object whose diff, if it has a usage and a diff, replaces. -/
structure IsReadable (raw : Value) : Prop where
  object : raw.isObject = true
  replaces : ∀ field diff, raw.get? usageKey = some (.text field) → field ≠ "" →
    raw.get? diffKey = some diff → ∃ key value, Replaces Taken diff key value

theorem read_of_diff {raw diff : Value} {field : String}
    (hfield : raw.get? usageKey = some (.text field)) (hne : field ≠ "")
    (hdiff : raw.get? diffKey = some diff) :
    read raw = (readDiff diff).map fun update => some ⟨field, .ofUsage field, update⟩ := by
  rw [← Value.textAt?_eq_some_iff] at hfield
  unfold read
  split
  · next members =>
    split
    · next h => cases hfield.symm.trans h
    · next h => exact absurd (Option.some.inj (hfield.symm.trans h)) hne
    · next name _ h =>
      obtain rfl := Option.some.inj (hfield.symm.trans h)
      rw [hdiff]
      rfl
  · next h =>
    cases raw with
    | object members => exact absurd rfl (h members)
    | _ => cases hdiff

theorem exists_read_eq_ok_iff {raw : Value} : (∃ b, read raw = .ok b) ↔ IsReadable raw := by
  constructor
  · rintro ⟨b, hread⟩
    constructor
    · cases raw with
      | object members => rfl
      | _ => cases hread
    · intro field diff hfield hne hdiff
      rw [read_of_diff hfield hne hdiff] at hread
      cases hupdate : readDiff diff with
      | error e =>
        rw [hupdate] at hread
        cases hread
      | ok update =>
        obtain ⟨key, value, hreplaces, -⟩ := readDiff_eq_ok_iff.mp hupdate
        exact ⟨key, value, hreplaces⟩
  · rintro ⟨hobject, hreplaces⟩
    cases raw with
    | object members =>
      cases hfield : Value.textAt? usageKey (.object members) with
      | none => exact ⟨none, by simp [read, hfield]⟩
      | some field =>
        by_cases hne : field = ""
        · exact ⟨none, by simp [read, hfield, hne]⟩
        · cases hdiff : Value.get? diffKey (.object members) with
          | none => exact ⟨_, by simp [read, hfield, hdiff]; rfl⟩
          | some diff =>
            rw [Value.textAt?_eq_some_iff] at hfield
            obtain ⟨key, value, hr⟩ := hreplaces field diff hfield hne hdiff
            have hupdate := readDiff_eq_ok_iff.mpr ⟨key, value, hr, rfl⟩
            rw [read_of_diff hfield hne hdiff, hupdate]
            exact ⟨_, rfl⟩
    | _ => cases hobject

theorem Replaces.unique {taken taken' : Value → Prop} {diff value value' : Value}
    {key key' : String}
    (h : Replaces taken diff key value) (h' : Replaces taken' diff key' value') :
    key = key' ∧ value = value' := by
  obtain ⟨hkey, before, last, hpatches, -, rfl⟩ := h
  obtain ⟨hkey', before', last', hpatches', -, rfl⟩ := h'
  cases hkey.symm.trans hkey'
  have hsame : before ++ [last] = before' ++ [last'] :=
    Value.array.inj (Option.some.inj (hpatches.symm.trans hpatches'))
  have hlast := congrArg List.getLast? hsame
  rw [List.getLast?_concat, List.getLast?_concat] at hlast
  exact ⟨rfl, congrArg patchValue (Option.some.inj hlast)⟩

/-- Where every path is a text, the patches that are read are those of the specification. -/
theorem replaces_taken_iff {diff : Value} {key : String} {value : Value}
    (h : ∀ patches, diff.get? "patches" = some (.array patches) → ∀ patch ∈ patches,
      ¬ PathNotText patch) :
    Replaces Taken diff key value ↔ Replaces Documented diff key value := by
  constructor
  · rintro ⟨hfield, before, last, hpatches, htaken, hvalue⟩
    refine ⟨hfield, before, last, hpatches, fun patch hpatch => ?_, hvalue⟩
    obtain ⟨hop, hpath⟩ := htaken patch hpatch
    exact ⟨hop, hpath.resolve_right (h _ hpatches patch hpatch)⟩
  · rintro ⟨hfield, before, last, hpatches, hdocumented, hvalue⟩
    refine ⟨hfield, before, last, hpatches, fun patch hpatch => ?_, hvalue⟩
    obtain ⟨hop, hpath⟩ := hdocumented patch hpatch
    exact ⟨hop, .inl hpath⟩

end Block

namespace Message
open Block (Replaces Taken Documented PathNotText)

theorem ofWire_eq_ok_iff {w : Wire} {m : Message} :
    ofWire w = .ok m ↔
      ∃ bs, (w.blocks.getD []).mapM Block.read = .ok bs ∧
        m = ⟨.parse w.status, w.cursor, w.terminal, w.textCompleted, w.backendId, w.threadSlug,
          bs.filterMap id⟩ := by
  unfold ofWire
  rw [bind_eq_ok_iff]
  constructor
  · rintro ⟨bs, hbs, ⟨⟩⟩
    exact ⟨bs, hbs, rfl⟩
  · rintro ⟨bs, hbs, rfl⟩
    exact ⟨bs, hbs, rfl⟩

/-- A frame for messages that carries a record, one block of which has a usage and a diff. -/
structure CarriesDiff (f : Sse.Frame) (w : Wire) (before : List Value) (raw : Value)
    (after : List Value) (field : String) (diff : Value) : Prop where
  event_eq : f.event = none ∨ f.event = some eventName
  not_blank : Text.isBlank f.data = false
  record : ∃ n : Node, n.Writes f.data.toList ∧ Wire.ofNode? n = some w
  blocks_eq : w.blocks = some (before ++ raw :: after)
  field_eq : raw.get? "intended_usage" = some (.text field)
  field_ne : field ≠ ""
  diff_eq : raw.get? "diff_block" = some diff

theorem CarriesDiff.ofFrame_eq_some_iff {f : Sse.Frame} {w : Wire} {before after : List Value}
    {raw diff : Value} {field : String} {m : Message}
    (h : CarriesDiff f w before raw after field diff) :
    ofFrame f = .ok (some m) ↔ ofWire w = .ok m := by
  obtain ⟨n, hn, hw⟩ := h.record
  rw [Message.ofFrame_eq_some_iff h.event_eq h.not_blank, ofPayload_eq_ok_iff hn, IsReadFrom, hw]
  simp

/-- A message with a diff is read just if all its blocks are readable, which for the diff means that
it replaces. The block then holds what the diff puts in place and nothing else, at its place among
the blocks. -/
theorem ofFrame_of_diff {f : Sse.Frame} {w : Wire} {before after : List Value} {raw diff : Value}
    {field : String} (h : CarriesDiff f w before raw after field diff) :
    ((∃ m, ofFrame f = .ok (some m)) ↔ ∀ block ∈ before ++ raw :: after, Block.IsReadable block) ∧
    (∀ m, ofFrame f = .ok (some m) →
      ∃ key value, Replaces Taken diff key value ∧
      ∃ earlier block later, before.mapM Block.read = .ok earlier ∧
        after.mapM Block.read = .ok later ∧
        m.blocks = earlier.filterMap id ++ block :: later.filterMap id ∧
        block.field = field ∧ block.kind = .ofUsage field ∧
        block.update.content = .object [(key, value)]) ∧
    ((∀ m, ofFrame f ≠ .ok (some m)) →
      ∃ flaw excerpt, ofFrame f = .error (.malformedFrame flaw excerpt)) ∧
    ((∀ patches, diff.get? "patches" = some (.array patches) →
        ∀ patch ∈ patches, ¬ PathNotText patch) →
      ∀ key value, Replaces Taken diff key value ↔ Replaces Documented diff key value) := by
  have hall : w.blocks.getD [] = before ++ raw :: after := by rw [h.blocks_eq, Option.getD_some]
  simp only [h.ofFrame_eq_some_iff, ofWire_eq_ok_iff, hall]
  refine ⟨?_, ?_, malformed_of_no_message h.event_eq h.not_blank,
    fun hpaths _ _ => Block.replaces_taken_iff hpaths⟩
  · simp only [← Block.exists_read_eq_ok_iff, ← exists_mapM_eq_ok_iff]
    constructor
    · rintro ⟨m, bs, hbs, -⟩
      exact ⟨bs, hbs⟩
    · rintro ⟨bs, hbs⟩
      exact ⟨_, bs, hbs, rfl⟩
  · rintro m ⟨bs, hbs, rfl⟩
    simp only [List.mapM_append, List.mapM_cons, bind_eq_ok_iff] at hbs
    obtain ⟨earlier, hearlier, _, ⟨b, hb, later, hlater, ⟨⟩⟩, ⟨⟩⟩ := hbs
    rw [Block.read_of_diff h.field_eq h.field_ne h.diff_eq] at hb
    cases hupdate : Block.readDiff diff with
    | error e =>
      rw [hupdate] at hb
      cases hb
    | ok update =>
      rw [hupdate] at hb
      cases hb
      obtain ⟨key, value, hreplaces, rfl⟩ := Block.readDiff_eq_ok_iff.mp hupdate
      refine ⟨key, value, hreplaces, earlier, ⟨field, .ofUsage field, .replace key value⟩, later,
        hearlier, hlater, ?_, rfl, rfl, rfl⟩
      simp

/-- The tree of a message with one diff. -/
def diffNode (patches : List Node) : Node :=
  .object [(some "blocks", .array [.object [(some "intended_usage", .text (some "ask_text")),
    (some "diff_block",
     .object [(some "field", .text (some "text")), (some "patches", .array patches)])]])]

def diffOf (patches : List Value) : Value :=
  .object [("field", .text "text"), ("patches", .array patches)]

def blockOf (patches : List Value) : Value :=
  .object [("diff_block", diffOf patches), ("intended_usage", .text "ask_text")]

def diffWire (patches : List Value) : Wire :=
  ⟨"", none, false, false, none, none, some [blockOf patches]⟩

/-- Two patches, the first without a value and the second without a path. -/
def rewriting : String :=
  "\x7b\"blocks\":[\x7b\"intended_usage\":\"ask_text\",\"diff_block\":\x7b\"field\":\"text\"," ++
    "\"patches\":[\x7b\"op\":\"replace\",\"path\":\"/\"\x7d," ++
    "\x7b\"op\":\"replace\",\"value\":\"new\"\x7d]\x7d\x7d]\x7d"

def rewritingNodes : List Node :=
  [.object [(some "op", .text (some "replace")), (some "path", .text (some "/"))],
    .object [(some "op", .text (some "replace")), (some "value", .text (some "new"))]]

def rewritingPatches : List Value :=
  [.object [("op", .text "replace"), ("path", .text "/")],
    .object [("op", .text "replace"), ("value", .text "new")]]

theorem replaces_rewriting : Replaces Taken (diffOf rewritingPatches) "text" (.text "new") := by
  refine ⟨rfl, [_], _, rfl, ?_, rfl⟩
  simp only [List.singleton_append, List.forall_mem_cons]
  refine ⟨⟨rfl, .inl ?_⟩, ⟨rfl, .inl ?_⟩, by simp⟩
  · rintro path ⟨⟩
    exact .inr rfl
  · rintro path ⟨⟩

theorem carriesDiff_rewriting : CarriesDiff ⟨none, rewriting⟩ (diffWire rewritingPatches) []
    (blockOf rewritingPatches) [] "ask_text" (diffOf rewritingPatches) where
  event_eq := .inl rfl
  not_blank := by decide +kernel
  record := ⟨diffNode rewritingNodes, Json.Token.writesAll_of_scan? (by decide +kernel), rfl⟩
  blocks_eq := rfl
  field_eq := rfl
  field_ne := by decide
  diff_eq := rfl

/-- The last of two patches counts. -/
theorem ofFrame_of_diff_rewritten :
    CarriesDiff ⟨none, rewriting⟩ (diffWire rewritingPatches) [] (blockOf rewritingPatches)
      [] "ask_text"
        (diffOf rewritingPatches) ∧
      ∃ m b, ofFrame ⟨none, rewriting⟩ = .ok (some m) ∧ m.blocks = [b] ∧ b.field = "ask_text" ∧
        b.update.content = .object [("text", .text "new")] := by
  obtain ⟨hread, hcontent, -, -⟩ := ofFrame_of_diff carriesDiff_rewriting
  have hreadable : Block.IsReadable (blockOf rewritingPatches) := by
    refine ⟨rfl, fun field diff hfield hne hdiff => ?_⟩
    cases hdiff
    exact ⟨_, _, replaces_rewriting⟩
  obtain ⟨m, hm⟩ := hread.mpr (by simpa using hreadable)
  obtain ⟨key, value, hreplaces, earlier, b, later, hearlier, hlater, hblocks, hfield, -, hb⟩ :=
    hcontent m hm
  cases hearlier
  cases hlater
  obtain ⟨rfl, rfl⟩ := hreplaces.unique replaces_rewriting
  exact ⟨carriesDiff_rewriting, m, b, hm, by simpa using hblocks, hfield, hb⟩

/-- A path that is an array, below the root. -/
def fragmenting : String :=
  "\x7b\"blocks\":[\x7b\"intended_usage\":\"ask_text\",\"diff_block\":\x7b\"field\":\"text\"," ++
    "\"patches\":[\x7b\"op\":\"replace\",\"path\":[\"chunks\",\"0\"],\"value\":\"x\"\x7d]" ++
    "\x7d\x7d]\x7d"

def fragmentingNodes : List Node :=
  [.object [(some "op", .text (some "replace")),
    (some "path", .array [.text (some "chunks"), .text (some "0")]),
    (some "value", .text (some "x"))]]

def fragmentPath : Value := .array [.text "chunks", .text "0"]

def fragmentingPatches : List Value :=
  [.object [("op", .text "replace"), ("path", fragmentPath), ("value", .text "x")]]

theorem carriesDiff_fragmenting : CarriesDiff ⟨none, fragmenting⟩ (diffWire fragmentingPatches) []
    (blockOf fragmentingPatches) [] "ask_text" (diffOf fragmentingPatches) where
  event_eq := .inl rfl
  not_blank := by decide +kernel
  record := ⟨diffNode fragmentingNodes, Json.Token.writesAll_of_scan? (by decide +kernel), rfl⟩
  blocks_eq := rfl
  field_eq := rfl
  field_ne := by decide
  diff_eq := rfl

/-- A fragment is taken for the whole. -/
theorem not_only_documented :
    ¬ ∀ (f : Sse.Frame) (w : Wire) (before : List Value) (raw : Value) (after : List Value)
      (field : String) (diff : Value), CarriesDiff f w before raw after field diff →
        (∃ m, ofFrame f = .ok (some m)) → ∃ key value, Replaces Documented diff key value := by
  intro h
  have hdiff : Block.readDiff (diffOf fragmentingPatches) = .ok (.replace "text" (.text "x")) := rfl
  have hread : Block.read (blockOf fragmentingPatches) =
      .ok (some ⟨"ask_text", .ofUsage "ask_text", .replace "text" (.text "x")⟩) := by
    rw [Block.read_of_diff rfl (by decide) rfl, hdiff]
    rfl
  have hwire : ofWire (diffWire fragmentingPatches) = .ok _ :=
    ofWire_eq_ok_iff.mpr ⟨_, mapM_eq_ok_iff.mpr (.cons hread .nil), rfl⟩
  obtain ⟨key, value, hreplaces⟩ := h _ _ _ _ _ _ _ carriesDiff_fragmenting
    ⟨_, carriesDiff_fragmenting.ofFrame_eq_some_iff.mpr hwire⟩
  obtain ⟨before, last, hpatches, hdocumented, -⟩ := hreplaces.patches_eq
  have hmem : ∀ patch ∈ fragmentingPatches, Documented patch := by
    rwa [Value.array.inj (Option.some.inj hpatches)]
  obtain ⟨-, hroot⟩ := hmem _ List.mem_cons_self
  rcases hroot fragmentPath rfl with hpath | hpath <;> cases hpath

end Message
end AnswerStream
