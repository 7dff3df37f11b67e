import AnswerStream.Answer.Assembly
import AnswerStream.Proofs.Json.Members
import Mathlib.Data.List.Induction
import Mathlib.Data.List.Nodup

/-!
The answer read off the history of its writes. A write survives if its field is not written again;
the last surviving write of an answer text that has any gives the answer, whatever was written
before and however the writes came in messages. The assembly, which numbers its writes and keeps one
for each field, finds the same.
-/

namespace AnswerStream

namespace History

/-- The writes of messages, in their order. -/
def ofMessages (ms : List Message) : List Block := ms.flatMap Message.blocks

/-- The items whose field comes with no later item. -/
def surviving {α : Type} (field : α → String) : List α → List α
  | [] => []
  | a :: later =>
    if later.any fun b => field b = field a then surviving field later
    else a :: surviving field later

/-- The text of a write, where it writes an answer and has one. -/
def answer? (b : Block) : Option String :=
  if b.kind = .answerText then (answerText? b.update.content).filter fun text => !text.isEmpty
  else none

/-- The text of the last surviving write that has one. -/
def text? (ws : List Block) : Option String := (surviving Block.field ws).reverse.findSome? answer?

def referencesField : String := "web_results"

/-- The sources of the surviving write of the field for them. -/
def references (ws : List Block) : List Reference :=
  (((surviving Block.field ws).find? fun b => b.field = referencesField).bind fun b =>
    Reference.listOf? b.update.content).getD []

def lastStatus (ms : List Message) : Status := (ms.getLast?.map Message.status).getD .pending

def lastSlug? (ms : List Message) : Option String := ms.reverse.findSome? Message.threadSlug

/-- What a stream of messages answers. -/
def answer (ms : List Message) : Except Failure Answer :=
  if ms.any Message.terminal then
    match text? (ofMessages ms) with
    | some text =>
      .ok ⟨text, references (ofMessages ms), (lastStatus ms).label, lastSlug? ms⟩
    | none => .error .noAnswer
  else .error .incompleteStream

/-- Every block is of the kind that its field names. -/
def WellKinded (ws : List Block) : Prop := ∀ b ∈ ws, b.kind = .ofUsage b.field

/-- A write that is superseded by a later one, or of a kind without meaning. -/
def Idle (b : Block) (later : List Block) : Prop :=
  (∃ c ∈ later, c.field = b.field) ∨ ∃ name, b.kind = .other name

/-- Leaves out writes that are idle where they stand. -/
inductive Reduces : List Block → List Block → Prop
  | refl (ws : List Block) : Reduces ws ws
  | drop {before : List Block} {b : Block} {later ws : List Block} (hidle : Idle b later)
    (hrest : Reduces (before ++ later) ws) : Reduces (before ++ b :: later) ws

section Surviving

variable {α β : Type} {field : α → String}

theorem surviving_append_singleton (l : List α) (a : α) :
    surviving field (l ++ [a]) =
      (surviving field l).filter (fun b => field b ≠ field a) ++ [a] := by
  induction l with
  | nil => simp [surviving]
  | cons b l ih =>
    by_cases hl : l.any fun c => field c = field b
    · have hall : (l ++ [a]).any (fun c => field c = field b) = true := by simp [hl]
      simp only [List.cons_append, surviving, hl, hall, if_true, ih]
    · by_cases ha : field a = field b
      · simp [surviving, hl, ha, ih]
      · simp [surviving, hl, ha, ih, Ne.symm ha]

theorem map_surviving (f : β → α) (l : List β) :
    (surviving (field ∘ f) l).map f = surviving field (l.map f) := by
  induction l with
  | nil => rfl
  | cons b l ih =>
    simp only [surviving, List.map_cons, List.any_map, Function.comp_def] at ih ⊢
    split <;> simp [ih]

theorem surviving_sublist (l : List α) : (surviving field l).Sublist l := by
  induction l with
  | nil => exact .slnil
  | cons a l ih =>
    rw [surviving]
    split
    · exact ih.cons a
    · exact ih.cons_cons a

theorem nodup_surviving (l : List α) : ((surviving field l).map field).Nodup := by
  induction l with
  | nil => exact List.nodup_nil
  | cons a l ih =>
    rw [surviving]
    split
    · exact ih
    · next hlast =>
      refine List.nodup_cons.mpr ⟨fun hmem => hlast ?_, ih⟩
      obtain ⟨b, hb, hfield⟩ := List.mem_map.mp hmem
      exact List.any_eq_true.mpr ⟨b, (surviving_sublist l).subset hb, decide_eq_true hfield⟩

theorem surviving_superseded {a : α} {before later : List α}
    (h : ∃ c ∈ later, field c = field a) :
    surviving field (before ++ a :: later) = surviving field (before ++ later) := by
  obtain ⟨c, hc, hfield⟩ := h
  induction before with
  | nil => exact if_pos (List.any_eq_true.mpr ⟨c, hc, decide_eq_true hfield⟩)
  | cons b before ih =>
    have hany : (before ++ a :: later).any (fun d => field d = field b) =
        (before ++ later).any fun d => field d = field b := by
      rw [Bool.eq_iff_iff]
      simp only [List.any_append, List.any_cons, Bool.or_eq_true, decide_eq_true_eq,
        List.any_eq_true]
      constructor
      · rintro (hbefore | ha | hlater)
        · exact .inl hbefore
        · exact .inr ⟨c, hc, hfield.trans ha⟩
        · exact .inr hlater
      · rintro (hbefore | hlater)
        · exact .inl hbefore
        · exact .inr (.inr hlater)
    simp only [List.cons_append, surviving, hany, ih]

end Surviving

/-- A kind with a meaning for answers. -/
def isTelling (b : Block) : Bool :=
  match b.kind with
  | .other _ => false
  | _ => true

theorem isTelling_of_other {b : Block} {name : String} (h : b.kind = .other name) :
    isTelling b = false := by
  rw [isTelling, h]

/-- A write of a kind without meaning only stands in for writes of the same kind. -/
theorem filter_surviving_of_other {b : Block} {before later : List Block} {name : String}
    (hkinds : WellKinded (before ++ b :: later)) (h : b.kind = .other name) :
    (surviving Block.field (before ++ b :: later)).filter isTelling =
      (surviving Block.field (before ++ later)).filter isTelling := by
  induction before with
  | nil =>
    simp only [List.nil_append, surviving]
    split
    · rfl
    · rw [List.filter_cons_of_neg (by simp [isTelling_of_other h])]
  | cons c before ih =>
    have hrest := ih fun d hd => hkinds d (List.mem_cons_of_mem c hd)
    by_cases hfield : b.field = c.field
    · have hother : c.kind = .other name := by
        rw [hkinds c (by simp), ← hfield, ← hkinds b (by simp), h]
      have hc := isTelling_of_other hother
      simp only [List.cons_append, surviving]
      split_ifs <;> simp [hc, hrest]
    · have hany : (before ++ b :: later).any (fun d => d.field = c.field) =
          (before ++ later).any fun d => d.field = c.field := by
        simp [List.any_append, List.any_cons, hfield]
      simp only [List.cons_append, surviving, hany]
      split
      · exact hrest
      · cases hc : isTelling c <;> simp [hc, hrest]

theorem findSome?_filter {α β : Type} {f : α → Option β} {p : α → Bool} (l : List α)
    (h : ∀ a, p a = false → f a = none) : (l.filter p).findSome? f = l.findSome? f := by
  induction l with
  | nil => rfl
  | cons a l ih =>
    cases ha : p a with
    | false => simp [ha, h a ha, ih]
    | true => simp [ha, List.findSome?_cons, ih]

theorem text?_eq (ws : List Block) :
    text? ws = ((surviving Block.field ws).filter isTelling).reverse.findSome? answer? := by
  have hnone (b : Block) (hb : isTelling b = false) : answer? b = none := by
    refine if_neg fun hkind => ?_
    rw [isTelling, hkind] at hb
    cases hb
  rw [← List.filter_reverse, findSome?_filter _ hnone, text?]

theorem kind_eq_webResults_iff {b : Block} (h : b.kind = .ofUsage b.field) :
    b.kind = .webResults ↔ b.field = referencesField := by
  rw [h, BlockKind.ofUsage]
  constructor
  · intro hkind
    split_ifs at hkind with _ hfield
    exact hfield
  · intro hfield
    rw [hfield]
    rfl

theorem WellKinded.surviving {ws : List Block} (h : WellKinded ws) :
    WellKinded (surviving Block.field ws) :=
  fun b hb => h b ((surviving_sublist ws).subset hb)

theorem references_eq {ws : List Block} (h : WellKinded ws) :
    references ws =
      ((((surviving Block.field ws).filter isTelling).find? fun b => b.field = referencesField).bind
        fun b => Reference.listOf? b.update.content).getD [] := by
  have hfind {l : List Block} (hl : WellKinded l) :
      (l.filter isTelling).find? (fun b => b.field = referencesField) =
        l.find? fun b => b.field = referencesField := by
    induction l with
    | nil => rfl
    | cons b l ih =>
      have hrest := ih fun c hc => hl c (List.mem_cons_of_mem b hc)
      by_cases hfield : b.field = referencesField
      · have hkind := (kind_eq_webResults_iff (hl b (by simp))).mpr hfield
        simp [isTelling, hkind, hfield]
      · cases htelling : isTelling b <;> simp [htelling, hfield, hrest]
  rw [references, hfind h.surviving]

theorem text?_congr {ws ws' : List Block}
    (h : (surviving Block.field ws).filter isTelling =
      (surviving Block.field ws').filter isTelling) :
    text? ws = text? ws' := by
  rw [text?_eq, text?_eq, h]

theorem references_congr {ws ws' : List Block} (hws : WellKinded ws) (hws' : WellKinded ws')
    (h : (surviving Block.field ws).filter isTelling =
      (surviving Block.field ws').filter isTelling) :
    references ws = references ws' := by
  rw [references_eq hws, references_eq hws', h]

theorem WellKinded.drop {before : List Block} {b : Block} {later : List Block}
    (h : WellKinded (before ++ b :: later)) : WellKinded (before ++ later) :=
  fun c hc => h c (((List.sublist_cons_self b later).append_left before).subset hc)

theorem Reduces.wellKinded {ws ws' : List Block} (h : Reduces ws ws') (hws : WellKinded ws) :
    WellKinded ws' := by
  induction h with
  | refl => exact hws
  | drop _ _ ih => exact ih hws.drop

theorem Idle.filter_surviving {before : List Block} {b : Block} {later : List Block}
    (h : Idle b later) (hws : WellKinded (before ++ b :: later)) :
    (surviving Block.field (before ++ b :: later)).filter isTelling =
      (surviving Block.field (before ++ later)).filter isTelling := by
  rcases h with hsuperseded | ⟨name, hother⟩
  · rw [surviving_superseded hsuperseded]
  · exact filter_surviving_of_other hws hother

theorem Reduces.filter_surviving {ws ws' : List Block} (h : Reduces ws ws') (hws : WellKinded ws) :
    (surviving Block.field ws).filter isTelling = (surviving Block.field ws').filter isTelling := by
  induction h with
  | refl => rfl
  | drop hidle _ ih => exact (hidle.filter_surviving hws).trans (ih hws.drop)

end History

namespace Assembly
open History (surviving)

/-- What a field holds after a write with a number. -/
def entry (w : Block × Nat) : String × FieldState :=
  (w.1.field, ⟨w.1.kind, w.1.update.content, w.2⟩)

/-- The surviving writes of a history, each with its number. -/
def numbered (ws : List Block) : List (Block × Nat) :=
  surviving (Block.field ∘ Prod.fst) (ws.zipIdx 1)

/-- The fields are those of the surviving writes. -/
structure Holds (a : Assembly) (ws : List Block) : Prop where
  sorted : Json.Members.Sorted a.fields
  writes_eq : a.writes = ws.length
  fields_perm : a.fields.Perm ((numbered ws).map entry)

theorem numbered_append_singleton (ws : List Block) (b : Block) :
    numbered (ws ++ [b]) =
      (numbered ws).filter (fun w => w.1.field ≠ b.field) ++ [(b, ws.length + 1)] := by
  rw [numbered, List.zipIdx_append, List.zipIdx_singleton, History.surviving_append_singleton,
    Nat.add_comm 1]
  rfl

theorem map_numbered (ws : List Block) : (numbered ws).map Prod.fst = surviving Block.field ws := by
  rw [numbered, History.map_surviving, List.zipIdx_map_fst]

theorem sorted_numbered (ws : List Block) : (numbered ws).Pairwise fun v w => v.2 < w.2 := by
  have hall : (ws.zipIdx 1).Pairwise fun v w => v.2 < w.2 := by
    rw [← List.pairwise_map, List.zipIdx_map_snd]
    exact List.pairwise_lt_range' 1
  exact hall.sublist (History.surviving_sublist _)

theorem holds_empty : Holds .empty [] := ⟨List.Pairwise.nil, rfl, .refl _⟩

theorem Holds.writeBlock {a : Assembly} {ws : List Block} (h : a.Holds ws) (b : Block) :
    (a.writeBlock b).Holds (ws ++ [b]) where
  sorted := h.sorted.insert _ _
  writes_eq := by simp [Assembly.writeBlock, h.writes_eq]
  fields_perm := by
    have hfields := Json.Members.insert_perm b.field
      (FieldState.mk b.kind b.update.content (a.writes + 1)) h.sorted
    have hkept : ((numbered ws).map entry).filter (fun m => m.1 ≠ b.field) =
        ((numbered ws).filter fun w => w.1.field ≠ b.field).map entry := by
      rw [List.filter_map]
      rfl
    rw [numbered_append_singleton, List.map_append, ← h.writes_eq, ← hkept]
    exact hfields.trans (((h.fields_perm.filter _).cons _).trans
      (List.perm_append_singleton _ _).symm)

theorem Holds.apply {a : Assembly} {ws : List Block} (h : a.Holds ws) (m : Message) :
    (a.apply m).Holds (ws ++ m.blocks) := by
  have hblocks : (m.blocks.foldl Assembly.writeBlock a).Holds (ws ++ m.blocks) := by
    generalize m.blocks = bs
    induction bs generalizing a ws with
    | nil => simpa using h
    | cons b bs ih =>
      have hrest := ih (h.writeBlock b)
      rwa [List.append_assoc] at hrest
  exact ⟨hblocks.sorted, hblocks.writes_eq, hblocks.fields_perm⟩

theorem Holds.applyAll {a : Assembly} {ws : List Block} (h : a.Holds ws) (ms : List Message) :
    (a.applyAll ms).Holds (ws ++ History.ofMessages ms) := by
  induction ms generalizing a ws with
  | nil => simpa [Assembly.applyAll, History.ofMessages] using h
  | cons m ms ih =>
    have hrest := ih (h.apply m)
    rwa [List.append_assoc] at hrest

theorem Holds.ofKind {a : Assembly} {ws : List Block} (h : a.Holds ws) (kind : BlockKind) :
    a.ofKind kind =
      ((numbered ws).filter fun w => w.1.kind = kind).reverse.map fun w => (entry w).2 := by
  have hperm : (a.ofKind kind).Perm
      (((numbered ws).filter fun w => w.1.kind = kind).reverse.map fun w => (entry w).2) := by
    have hfields := (h.fields_perm.map Prod.snd).filter fun s => s.kind = kind
    have hentries : (((numbered ws).map entry).map Prod.snd).filter (fun s => s.kind = kind) =
        ((numbered ws).filter fun w => w.1.kind = kind).map fun w => (entry w).2 := by
      rw [List.map_map, List.filter_map]
      rfl
    rw [hentries] at hfields
    rw [List.map_reverse]
    exact (List.mergeSort_perm _ _).trans (hfields.trans (List.reverse_perm _).symm)
  have hright : (((numbered ws).filter fun w => w.1.kind = kind).reverse.map fun w =>
      (entry w).2).Pairwise fun s t => t.written < s.written := by
    rw [List.pairwise_map, List.pairwise_reverse]
    exact (sorted_numbered ws).filter _
  have hleft : (a.ofKind kind).Pairwise fun s t => decide (t.written ≤ s.written) = true :=
    List.pairwise_mergeSort (by simp; omega) (by simp; omega) _
  have hnumbers : ((((numbered ws).filter fun w => w.1.kind = kind).reverse.map fun w =>
      (entry w).2).map FieldState.written).Nodup := List.pairwise_map.mpr (hright.imp ne_of_gt)
  have hsame (s t : FieldState) (hs : s ∈ a.ofKind kind) (ht : t ∈ _) (hst : t.written ≤ s.written)
      (hts : s.written ≤ t.written) : s = t :=
    List.inj_on_of_nodup_map hnumbers (hperm.mem_iff.mp hs) ht (le_antisymm hts hst)
  exact hperm.eq_of_pairwise hsame (by simpa using hleft) (hright.imp le_of_lt)

theorem find?_filterMap_filter {α β : Type} (p : α → Bool) (f : α → Option β) (q : β → Bool)
    (l : List α) :
    ((l.filter p).filterMap f).find? q = l.findSome? fun a =>
      if p a then (f a).filter q else none := by
  induction l with
  | nil => rfl
  | cons a l ih =>
    cases hp : p a with
    | false => simp [hp, ih]
    | true =>
      cases hf : f a with
      | none => simp [hp, hf, ih]
      | some b => cases hq : q b <;> simp [hp, hf, hq, ih, Option.filter]

theorem Holds.text? {a : Assembly} {ws : List Block} (h : a.Holds ws) :
    a.text? = History.text? ws := by
  rw [Assembly.text?, h.ofKind, ← List.filter_reverse, List.filterMap_map, Function.comp_def,
    find?_filterMap_filter, History.text?, ← map_numbered, ← List.map_reverse, List.findSome?_map]
  simp only [decide_eq_true_eq]
  rfl

theorem filter_of_nodup {α : Type} {key : α → String} {l : List α} (h : (l.map key).Nodup)
    (k : String) : l.filter (fun a => key a = k) = (l.find? fun a => key a = k).toList := by
  induction l with
  | nil => rfl
  | cons a l ih =>
    obtain ⟨ha, hl⟩ := List.nodup_cons.mp h
    by_cases hkey : key a = k
    · have hnone : l.filter (fun b => key b = k) = [] := by
        refine List.filter_eq_nil_iff.mpr fun b hb hbk => ha ?_
        rw [hkey, ← of_decide_eq_true hbk]
        exact List.mem_map_of_mem hb
      simp [hkey, hnone]
    · simp [hkey, ih hl]

theorem Holds.references {a : Assembly} {ws : List Block} (h : a.Holds ws)
    (hkinds : History.WellKinded ws) : a.references = History.references ws := by
  have hkind : (numbered ws).filter (fun w => w.1.kind = .webResults) =
      (numbered ws).filter fun w => w.1.field = History.referencesField := by
    refine List.filter_congr fun w hw => decide_eq_decide.mpr ?_
    have hsurviving : w.1 ∈ surviving Block.field ws := by
      rw [← map_numbered]
      exact List.mem_map_of_mem hw
    exact History.kind_eq_webResults_iff (hkinds.surviving _ hsurviving)
  have hnodup : ((numbered ws).map fun w => w.1.field).Nodup := History.nodup_surviving _
  rw [Assembly.references, latest?, h.ofKind, hkind, filter_of_nodup hnodup, History.references,
    ← map_numbered, List.find?_map]
  simp only [Function.comp_def]
  cases (numbered ws).find? fun w => w.1.field = History.referencesField <;> rfl

theorem applyAll_append_singleton (a : Assembly) (ms : List Message) (m : Message) :
    a.applyAll (ms ++ [m]) = (a.applyAll ms).apply m := applyAll_append a ms [m]

theorem foldl_writeBlock (a : Assembly) (bs : List Block) :
    (bs.foldl Assembly.writeBlock a).terminal = a.terminal ∧
      (bs.foldl Assembly.writeBlock a).threadSlug = a.threadSlug := by
  induction bs generalizing a with
  | nil => exact ⟨rfl, rfl⟩
  | cons b bs ih => exact ih (a.writeBlock b)

theorem terminal_applyAll (ms : List Message) :
    (empty.applyAll ms).terminal = ms.any Message.terminal := by
  induction ms using List.reverseRecOn with
  | nil => rfl
  | append_singleton ms m ih =>
    rw [applyAll_append_singleton, Assembly.apply, (foldl_writeBlock _ _).1, ih]
    simp

theorem status_applyAll (ms : List Message) :
    (empty.applyAll ms).status = History.lastStatus ms := by
  induction ms using List.reverseRecOn with
  | nil => rfl
  | append_singleton ms m ih =>
    rw [applyAll_append_singleton, History.lastStatus, List.getLast?_append]
    rfl

theorem threadSlug_applyAll (ms : List Message) :
    (empty.applyAll ms).threadSlug = History.lastSlug? ms := by
  induction ms using List.reverseRecOn with
  | nil => rfl
  | append_singleton ms m ih =>
    rw [applyAll_append_singleton, Assembly.apply, (foldl_writeBlock _ _).2, ih, History.lastSlug?,
      History.lastSlug?, List.reverse_append]
    cases hslug : m.threadSlug <;> simp [hslug]

theorem finalize_applyAll {ms : List Message}
    (h : History.WellKinded (History.ofMessages ms)) :
    (empty.applyAll ms).finalize = History.answer ms := by
  have hholds := holds_empty.applyAll ms
  rw [List.nil_append] at hholds
  rw [finalize, terminal_applyAll, hholds.text?, hholds.references h, status_applyAll,
    threadSlug_applyAll]
  rfl

/-- The assembly answers what its history does. Neither writes that are idle nor the way in which
the writes come in messages matter for the text and the sources. -/
theorem finalize_eq_answer :
    (∀ ms, History.WellKinded (History.ofMessages ms) →
      (empty.applyAll ms).finalize = History.answer ms) ∧
    ∀ ms ms', History.WellKinded (History.ofMessages ms) →
      History.Reduces (History.ofMessages ms) (History.ofMessages ms') →
      ms.any Message.terminal = ms'.any Message.terminal →
      (empty.applyAll ms).finalize.map (fun a => (a.text, a.references)) =
        (empty.applyAll ms').finalize.map fun a => (a.text, a.references) := by
  refine ⟨fun ms h => finalize_applyAll h, fun ms ms' h hreduces hterminal => ?_⟩
  have h' := hreduces.wellKinded h
  have hsurviving := hreduces.filter_surviving h
  rw [finalize_applyAll h, finalize_applyAll h', History.answer, History.answer, hterminal,
    History.text?_congr hsurviving, History.references_congr h h' hsurviving]
  cases ms'.any Message.terminal with
  | false => rfl
  | true => cases History.text? (History.ofMessages ms') <;> rfl

/-- A text that a later answer field without text does not hide, sources that are replaced, and a
first draft of the text that might as well not have been written. -/
theorem finalize_eq_answer_rewritten :
    let written (field text : String) : Block :=
      ⟨field, .answerText, .snapshot (.object [("text", .text text)])⟩
    let sources (name : String) : Block :=
      ⟨"web_results", .webResults, .replace "web_result_block"
        (.object [("web_results", .array [.object [("name", .text name)]])])⟩
    let message (blocks : List Block) : Message :=
      ⟨.inProgress, none, false, false, none, none, blocks⟩
    let last (blocks : List Block) : Message :=
      ⟨.completed, none, true, true, none, some "paris", blocks⟩
    let tail : List Message :=
      [message [written "ask_text" "Paris.", sources "two"], last [written "ask_text_0" ""]]
    let drafted : List Message := message [written "ask_text" "Par", sources "one"] :: tail
    let direct : List Message := message [sources "one"] :: tail
    (empty.applyAll drafted).finalize =
        .ok ⟨"Paris.", [⟨"two", "", none, none⟩], "completed", some "paris"⟩ ∧
      (empty.applyAll drafted).finalize.map (fun a => (a.text, a.references)) =
        (empty.applyAll direct).finalize.map fun a => (a.text, a.references) := by
  intro written sources message last tail drafted direct
  have hkinds : BlockKind.ofUsage "ask_text" = .answerText ∧
      BlockKind.ofUsage "ask_text_0" = .answerText ∧
      BlockKind.ofUsage "web_results" = .webResults := by decide
  have hdrafted : History.WellKinded (History.ofMessages drafted) := by
    simp [History.WellKinded, History.ofMessages, drafted, tail, message, last, written,
      sources, hkinds]
  have hsuperseded : History.Idle (written "ask_text" "Par") (History.ofMessages direct) :=
    .inl ⟨written "ask_text" "Paris.", by simp [History.ofMessages, direct, tail, message], rfl⟩
  have hreduces : History.Reduces (History.ofMessages drafted) (History.ofMessages direct) :=
    @History.Reduces.drop [] _ _ _ hsuperseded (.refl _)
  have hanswer : History.answer drafted =
      .ok ⟨"Paris.", [⟨"two", "", none, none⟩], "completed", some "paris"⟩ := by decide +kernel
  obtain ⟨hscan, hidle⟩ := finalize_eq_answer
  exact ⟨(hscan drafted hdrafted).trans hanswer,
    hidle drafted direct hdrafted hreduces rfl⟩

end Assembly
end AnswerStream
