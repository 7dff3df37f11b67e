import AnswerStream.Proofs.Answer.History

/-!
The shapes in which a content holds the text of an answer, and which of them is read. The first
shape whose text is not empty is wanted. It is read unless it is veiled: behind the chunks, which
have to hold something, the first shape that is there is taken even if its text is empty.
-/

namespace AnswerStream
open Json (Value)

namespace Shapes

/-- The chunks of a markdown block, joined. -/
def chunks? (content : Value) : Option String :=
  (((content.get? "markdown_block").bind (Value.get? "chunks")).bind Value.array?).map fun chunks =>
    String.join (chunks.filterMap Value.text?)

/-- The shapes behind the chunks: a markdown answer, a text, the text of an answer block, a bare
text. -/
def whole (content : Value) : List (Option String) :=
  [(content.get? "markdown_block").bind (Value.textAt? "answer"), content.textAt? "text",
    (content.get? "answer_block").bind (Value.textAt? "text"), content.text?]

/-- The text of a shape, if it is not empty. -/
def populated? (shape : Option String) : Option String := shape.filter fun s => !s.isEmpty

/-- The text of the first shape that holds something. -/
def first? (content : Value) : Option String :=
  (chunks? content :: whole content).findSome? populated?

/-- An empty text stands in front, and the chunks hold nothing. -/
def Veiled (content : Value) : Prop :=
  populated? (chunks? content) = none ∧
    ∃ earlier later, whole content = earlier ++ some "" :: later ∧ ∀ shape ∈ earlier, shape = none

theorem populated?_eq_some_iff {shape : Option String} {s : String} :
    populated? shape = some s ↔ shape = some s ∧ s ≠ "" := by
  simp [populated?, Option.filter_eq_some_iff]

theorem findSome?_id_eq_some_iff {shapes : List (Option String)} {s : String} :
    shapes.findSome? id = some s ↔
      ∃ earlier later, shapes = earlier ++ some s :: later ∧ ∀ shape ∈ earlier, shape = none := by
  rw [List.findSome?_eq_some_iff]
  constructor
  · rintro ⟨earlier, shape, later, rfl, rfl, hearlier⟩
    exact ⟨earlier, later, rfl, hearlier⟩
  · rintro ⟨earlier, later, rfl, hearlier⟩
    exact ⟨earlier, some s, later, rfl, rfl, hearlier⟩

theorem findSome?_populated? {shapes : List (Option String)} (h : shapes.findSome? id ≠ some "") :
    shapes.findSome? populated? = shapes.findSome? id := by
  induction shapes with
  | nil => rfl
  | cons shape shapes ih =>
    cases shape with
    | none => exact ih h
    | some s =>
      have hs : s ≠ "" := fun hs => h (congrArg some hs)
      have hpopulated : populated? (some s) = some s := populated?_eq_some_iff.mpr ⟨rfl, hs⟩
      rw [List.findSome?_cons, hpopulated]
      rfl

theorem joinedChunks?_eq (markdown : Value) :
    joinedChunks? markdown =
      populated? (((markdown.get? "chunks").bind Value.array?).map fun chunks =>
        String.join (chunks.filterMap Value.text?)) := by
  unfold joinedChunks? populated?
  cases (markdown.get? "chunks").bind Value.array? with
  | none => rfl
  | some chunks => simp [Option.filter]

theorem markdownText?_eq (content : Value) :
    markdownText? content = (populated? (chunks? content) <|>
      (content.get? "markdown_block").bind (Value.textAt? "answer")) := by
  unfold markdownText? chunks?
  cases content.get? "markdown_block" with
  | none => rfl
  | some markdown => simp [joinedChunks?_eq]

theorem findSome?_whole (content : Value) :
    (whole content).findSome? id =
    ((content.get? "markdown_block").bind (Value.textAt? "answer") <|>
      content.textAt? "text" <|> (content.get? "answer_block").bind (Value.textAt? "text") <|>
        content.text?) := by
  have hfour (a b c d : Option String) : [a, b, c, d].findSome? id = (a <|> b <|> c <|> d) := by
    cases a <;> cases b <;> cases c <;> cases d <;> rfl
  exact hfour _ _ _ _

/-- What is read: the chunks, if they hold something, or else the first shape that is there. -/
theorem answerText?_eq (content : Value) :
    answerText? content = (populated? (chunks? content) <|> (whole content).findSome? id) := by
  cases content with
  | text s =>
    rfl
  | _ =>
    unfold answerText?
    rw [markdownText?_eq]
    simp [findSome?_whole, Value.text?, Option.or_assoc]

theorem answerText?_of_veiled {content : Value} (h : Veiled content) :
    answerText? content = some "" := by
  obtain ⟨hchunks, hwhole⟩ := h
  rw [answerText?_eq, hchunks, findSome?_id_eq_some_iff.mpr hwhole]
  rfl

theorem answerText?_of_not_veiled {content : Value} (h : ¬ Veiled content) :
    answerText? content = first? content := by
  rw [answerText?_eq, first?, List.findSome?_cons]
  cases hchunks : populated? (chunks? content) with
  | some s => rfl
  | none =>
    have hwhole : (whole content).findSome? id ≠ some "" := fun hempty =>
      h ⟨hchunks, findSome?_id_eq_some_iff.mp hempty⟩
    rw [findSome?_populated? hwhole]
    rfl

theorem first?_ne_empty {content : Value} : first? content ≠ some "" := by
  intro h
  obtain ⟨-, shape, -, -, hshape, -⟩ := List.findSome?_eq_some_iff.mp h
  exact (populated?_eq_some_iff.mp hshape).2 rfl

theorem populated?_answerText?_eq_none_iff {content : Value} :
    populated? (answerText? content) = none ↔ first? content = none ∨ Veiled content := by
  by_cases h : Veiled content
  · simp [answerText?_of_veiled h, h, populated?, Option.filter]
  · rw [answerText?_of_not_veiled h, or_iff_left h]
    cases hfirst : first? content with
    | none => simp [populated?]
    | some s =>
      have hs : s ≠ "" := fun hs => first?_ne_empty (hs ▸ hfirst)
      rw [populated?_eq_some_iff.mpr ⟨rfl, hs⟩]

end Shapes

namespace History

theorem text?_eq_none_iff {ws : List Block} :
    text? ws = none ↔ ∀ b ∈ surviving Block.field ws, b.kind = .answerText →
      Shapes.first? b.update.content = none ∨ Shapes.Veiled b.update.content := by
  simp only [text?, List.findSome?_eq_none_iff, List.mem_reverse,
    ← Shapes.populated?_answerText?_eq_none_iff]
  refine forall₂_congr fun b _ => ?_
  unfold answer?
  split
  · next h => simp [h, Shapes.populated?]
  · next h => simp [h]

end History

namespace Assembly
open History (surviving)

theorem finalize_eq_noAnswer_iff_text? {ms : List Message} (h : ms.any Message.terminal = true) :
    (empty.applyAll ms).finalize = .error .noAnswer ↔
    History.text? (History.ofMessages ms) = none := by
  have hholds := holds_empty.applyAll ms
  rw [List.nil_append] at hholds
  rw [finalize, terminal_applyAll, if_pos h, hholds.text?]
  cases History.text? (History.ofMessages ms) <;> simp

/-- The messages have no answer just if every answer field holds nothing or something veiled, and
what is veiled is all that is read amiss of a content. -/
theorem finalize_eq_noAnswer_iff {ms : List Message} (h : ms.any Message.terminal = true) :
    ((empty.applyAll ms).finalize = .error .noAnswer ↔
      ∀ b ∈ surviving Block.field (History.ofMessages ms), b.kind = .answerText →
        Shapes.first? b.update.content = none ∨ Shapes.Veiled b.update.content) ∧
    ∀ content, (¬ Shapes.Veiled content → answerText? content = Shapes.first? content) ∧
      (Shapes.Veiled content → answerText? content = some "") := by
  refine ⟨?_, fun content => ⟨Shapes.answerText?_of_not_veiled, Shapes.answerText?_of_veiled⟩⟩
  rw [finalize_eq_noAnswer_iff_text? h, History.text?_eq_none_iff]

/-- An answer in a text, behind an empty markdown answer. -/
def veiledContent : Value :=
  .object [("markdown_block", .object [("answer", .text "")]), ("text", .text "Paris")]

theorem veiled_veiledContent : Shapes.Veiled veiledContent :=
  ⟨rfl, [], [some "Paris", none, none], rfl, by simp⟩

/-- Chunks, of which only the second holds something, in front of an empty markdown answer. -/
def chunkedContent : Value :=
  .object [("markdown_block",
    .object [("answer", .text ""), ("chunks", .array [.text "", .text "Paris"])])]

def finished (blocks : List Block) : Message := ⟨.completed, none, true, false, none, none, blocks⟩

/-- A veiled answer that another field makes good. -/
theorem finalize_eq_noAnswer_iff_chunked :
    let ms : List Message := [finished [⟨"ask_text", .answerText, .snapshot chunkedContent⟩,
      ⟨"ask_text_0", .answerText, .snapshot veiledContent⟩]]
    ms.any Message.terminal = true ∧ (empty.applyAll ms).finalize ≠ .error .noAnswer ∧
      answerText? chunkedContent = some "Paris" ∧ answerText? veiledContent = some "" := by
  intro ms
  obtain ⟨hanswer, hread⟩ := @finalize_eq_noAnswer_iff ms rfl
  have hfirst : Shapes.first? chunkedContent = some "Paris" := by decide +kernel
  have hclear : ¬ Shapes.Veiled chunkedContent := by
    rintro ⟨hchunks, -⟩
    have hpopulated : Shapes.populated? (Shapes.chunks? chunkedContent) = some "Paris" := by
      decide +kernel
    cases hchunks.symm.trans hpopulated
  refine ⟨rfl, fun hnone => ?_, ?_, (hread _).2 veiled_veiledContent⟩
  · rcases hanswer.mp hnone ⟨"ask_text", .answerText, .snapshot chunkedContent⟩
      List.mem_cons_self rfl with hempty | hveiled
    · cases hempty.symm.trans hfirst
    · exact hclear hveiled
  · rw [(hread _).1 hclear, hfirst]

/-- A veiled answer is lost. -/
theorem not_always_answered :
    (¬ ∀ ms, ms.any Message.terminal = true → (empty.applyAll ms).finalize = .error .noAnswer →
      ∀ b ∈ surviving Block.field (History.ofMessages ms), b.kind = .answerText →
        Shapes.first? b.update.content = none) ∧
    ¬ ∀ content t, Shapes.first? content = some t → answerText? content = some t := by
  have hfirst : Shapes.first? veiledContent = some "Paris" := by decide +kernel
  constructor
  · intro h
    let b : Block := ⟨"ask_text", .answerText, .snapshot veiledContent⟩
    have hnone : History.text? (History.ofMessages [finished [b]]) = none := by decide +kernel
    have hempty := h [finished [b]] rfl ((finalize_eq_noAnswer_iff_text? rfl).mpr hnone) b
      List.mem_cons_self rfl
    cases hempty.symm.trans hfirst
  · intro h
    have hread := h veiledContent "Paris" hfirst
    rw [Shapes.answerText?_of_veiled veiled_veiledContent, Option.some_inj] at hread
    exact absurd hread (by decide)

end Assembly
end AnswerStream
