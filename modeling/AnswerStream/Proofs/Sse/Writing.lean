import AnswerStream.Proofs.Sse.Frames
import AnswerStream.Proofs.Sse.Lines
import AnswerStream.Proofs.Text.Cutting
import AnswerStream.Proofs.Text.Encoding

/-!
Event streams as they are written. A writer is free in how it ends each line, in its comments, and
in the blank lines between its frames; whatever it does, and however its octets are cut into chunks,
the frames that are read are those that were written.
-/

namespace AnswerStream.Sse
open Text (blank pieces)

namespace Frame

/-- The data cut at its line feeds. -/
def parts (f : Frame) : List String := (pieces (· == '\n') f.data.toList).map String.ofList

/-- The lines of a frame, without the blank line behind them. -/
def lines (f : Frame) : List String :=
  f.event.toList.map ("event: " ++ ·) ++ f.parts.map ("data: " ++ ·)

/-- Frames whose lines say what they hold. -/
structure Writable (f : Frame) : Prop where
  name_on_line : ∀ name ∈ f.event, '\n' ∉ name.toList
  name_start : ∀ name ∈ f.event, name.toList.head?.any blank = false
  name_end : ∀ name ∈ f.event, name.toList.getLast?.any blank = false
  part_end : ∀ part ∈ f.parts, part.toList.getLast? ≠ some '\r'

theorem intercalate_parts (f : Frame) : String.intercalate "\n" f.parts = f.data := by
  have hmap : f.parts.map String.toList = pieces (· == '\n') f.data.toList := by
    simp [parts, Function.comp_def]
  apply String.toList_inj.mp
  rw [String.toList_intercalate, hmap]
  exact Text.intercalate_pieces '\n' f.data.toList

theorem parts_ne_nil (f : Frame) : f.parts ≠ [] := by
  simp [parts, Text.pieces_ne_nil]

end Frame

/-- The lines that a writer may write for some frames. Blank lines may stand in front of any frame
and behind the last, comments anywhere. -/
inductive Writes : List Frame → List String → Prop
  | nil : Writes [] []
  | frame {f : Frame} {fs : List Frame} {lines : List String} (hf : f.Writable)
      (rest : Writes fs lines) : Writes (f :: fs) (f.lines ++ "" :: lines)
  | blank {fs : List Frame} {lines : List String} (rest : Writes fs lines) : Writes fs ("" :: lines)
  | comment {fs : List Frame} {before behind : List String} {text : String} (h : '\n' ∉ text.toList)
      (rest : Writes fs (before ++ behind)) : Writes fs (before ++ (":" ++ text) :: behind)

/-- A line with the end that its writer has chosen for it. -/
structure WrittenLine where
  text : String
  /-- Whether a carriage return stands before the line feed. -/
  withReturn : Bool
  deriving DecidableEq, Repr

namespace WrittenLine

/-- What stands before the line feed. This is what the limit of a decoder counts. -/
def content (w : WrittenLine) : List UInt8 :=
  Utf8.encode w.text ++ if w.withReturn then [carriageReturn] else []

def octets (w : WrittenLine) : List UInt8 := w.content ++ [lineFeed]

end WrittenLine

theorem ofLine_event {name : String} (hstart : name.toList.head?.any blank = false)
    (hend : name.toList.getLast?.any blank = false) :
    Field.ofLine ("event: " ++ name) = .event name := by
  have hchars : ("event: " ++ name).toList = "event:".toList ++ ' ' :: name.toList := by simp
  have htrim : Text.trimChars (' ' :: name.toList) = name.toList := by
    rw [Text.trimChars_cons_blank (by decide), Text.trimChars_of_ends hstart hend]
  rw [Field.ofLine, hchars, Field.ofChars, Text.after?_append]
  simp [htrim]

theorem ofLine_data (part : String) : Field.ofLine ("data: " ++ part) = .data part := by
  have hchars : ("data: " ++ part).toList = "data:".toList ++ ' ' :: part.toList := by simp
  have hevent : Text.after? "event:".toList ("data:".toList ++ ' ' :: part.toList) = none := rfl
  rw [Field.ofLine, hchars, Field.ofChars, hevent, Text.after?_append]
  simp [Field.dropSpace]

theorem ofLine_comment (text : String) : Field.ofLine (":" ++ text) = .ignored := by
  have hchars : (":" ++ text).toList = ':' :: text.toList := by simp
  rw [Field.ofLine, hchars]
  rfl

namespace FrameReader

theorem feedAll_data (r : FrameReader) (parts : List String) :
    r.feedAll (parts.map ("data: " ++ ·)) = (⟨r.event, parts.reverse ++ r.data⟩, []) := by
  induction parts generalizing r with
  | nil => rfl
  | cons part parts ih =>
    have hfeed : r.feed ("data: " ++ part) = (⟨r.event, part :: r.data⟩, none) := by
      rw [feed, ofLine_data]
      rfl
    rw [List.map_cons, feedAll_cons, hfeed, ih]
    simp

theorem feedAll_event {f : Frame} (hf : f.Writable) :
    empty.feedAll (f.event.toList.map ("event: " ++ ·)) = (⟨f.event, []⟩, []) := by
  cases hevent : f.event with
  | none => rfl
  | some name =>
    have hfeed : empty.feed ("event: " ++ name) = (⟨some name, []⟩, none) := by
      rw [feed, ofLine_event (hf.name_start name hevent) (hf.name_end name hevent)]
      rfl
    rw [Option.toList_some, List.map_singleton, feedAll_cons, hfeed]
    rfl

theorem feedAll_frame {f : Frame} (hf : f.Writable) (lines : List String) :
    empty.feedAll (f.lines ++ "" :: lines) =
      ((empty.feedAll lines).1, f :: (empty.feedAll lines).2) := by
  have hopen : empty.feedAll f.lines = (⟨f.event, f.parts.reverse⟩, []) := by
    rw [Frame.lines, feedAll_append, feedAll_event hf, feedAll_data]
    simp
  have hbusy : (⟨f.event, f.parts.reverse⟩ : FrameReader).isIdle = false := by
    simp [isIdle, f.parts_ne_nil]
  have hclose : (⟨f.event, f.parts.reverse⟩ : FrameReader).feed "" = (empty, some f) := by
    simp only [feed, Field.ofLine_empty, feedField, take, frame?, hbusy, Bool.false_eq_true,
      if_false, List.reverse_reverse, f.intercalate_parts]
  rw [feedAll_append, hopen, feedAll_cons, hclose]
  simp

end FrameReader

namespace Writes

theorem feedAll_eq {fs : List Frame} {lines : List String} (h : Writes fs lines) :
    FrameReader.empty.feedAll lines = (.empty, fs) := by
  induction h with
  | nil => rfl
  | frame hf _ ih => rw [FrameReader.feedAll_frame hf, ih]
  | blank _ ih =>
    have hfeed : FrameReader.empty.feed "" = (.empty, none) := rfl
    rw [FrameReader.feedAll_cons, hfeed, ih]
    rfl
  | @comment fs before behind text _ _ ih =>
    have hfeed (r : FrameReader) : r.feed (":" ++ text) = (r, none) := by
      rw [FrameReader.feed, ofLine_comment]
      rfl
    rw [FrameReader.feedAll_append, FrameReader.feedAll_cons, hfeed]
    rw [FrameReader.feedAll_append] at ih
    simpa using ih

end Writes

/-- Lines that survive being written: one line each, and a carriage return ends at most a comment.
-/
structure Plain (text : String) : Prop where
  on_line : '\n' ∉ text.toList
  comment_of_return : text.toList.getLast? = some '\r' → ∃ rest, text = ":" ++ rest

theorem Plain.empty : Plain "" := ⟨by simp, by simp⟩

theorem Plain.comment {text : String} (h : '\n' ∉ text.toList) : Plain (":" ++ text) :=
  ⟨by simpa using h, fun _ => ⟨text, rfl⟩⟩

theorem Plain.labelled {label text : String}
    (hlabel : '\n' ∉ label.toList ∧ label.toList.getLast? ≠ some '\r')
    (htext : '\n' ∉ text.toList ∧ text.toList.getLast? ≠ some '\r') : Plain (label ++ text) := by
  refine ⟨by simp [hlabel.1, htext.1], ?_⟩
  intro hreturn
  rw [String.toList_append, List.getLast?_append] at hreturn
  cases hlast : text.toList.getLast? with
  | none => exact absurd (by simpa [hlast] using hreturn) hlabel.2
  | some c => exact absurd (by simpa [hlast] using hreturn) (hlast ▸ htext.2)

theorem Frame.Writable.plain {f : Frame} (hf : f.Writable) {line : String} (h : line ∈ f.lines) :
    Plain line := by
  rcases List.mem_append.mp h with h | h
  · obtain ⟨name, hname, rfl⟩ := List.mem_map.mp h
    have hevent : name ∈ f.event := Option.mem_toList.mp hname
    refine .labelled ⟨by decide, by decide⟩ ⟨hf.name_on_line name hevent, ?_⟩
    intro hreturn
    have hblank := hf.name_end name hevent
    rw [hreturn] at hblank
    exact absurd hblank (by decide)
  · obtain ⟨part, hpart, rfl⟩ := List.mem_map.mp h
    obtain ⟨piece, hpiece, rfl⟩ := List.mem_map.mp hpart
    have hline := Text.not_mem_of_mem_pieces hpiece
    exact .labelled ⟨by decide, by decide⟩ ⟨by simpa using hline, hf.part_end _ hpart⟩

theorem Writes.plain {fs : List Frame} {lines : List String} (h : Writes fs lines) :
    ∀ line ∈ lines, Plain line := by
  induction h with
  | nil => simp
  | frame hf _ ih =>
    intro line hline
    rcases List.mem_append.mp hline with hline | hline
    · exact hf.plain hline
    · rcases List.mem_cons.mp hline with rfl | hline
      · exact .empty
      · exact ih line hline
  | blank _ ih => exact List.forall_mem_cons.mpr ⟨.empty, ih⟩
  | comment htext _ ih =>
    obtain ⟨hbefore, hbehind⟩ := List.forall_mem_append.mp ih
    exact List.forall_mem_append.mpr
      ⟨hbefore, List.forall_mem_cons.mpr ⟨.comment htext, hbehind⟩⟩

theorem dropReturn_append_return (line : List UInt8) :
    dropReturn (line ++ [carriageReturn]) = line := by
  simp [dropReturn]

namespace WrittenLine

theorem lineFeed_not_mem_content {w : WrittenLine} (h : Plain w.text) : lineFeed ∉ w.content := by
  have htext : lineFeed ∉ Utf8.encode w.text := by
    rw [@Utf8.mem_encode_iff w.text lineFeed '\n' rfl (by decide)]
    exact h.on_line
  have hreturn : lineFeed ∉ if w.withReturn then [carriageReturn] else [] := by
    split <;> decide
  rw [content, List.mem_append]
  exact fun hmem => hmem.elim htext hreturn

/-- A reader takes away the return that belongs to the line end, or that of a comment. -/
theorem exists_text {w : WrittenLine} (h : Plain w.text) :
    ∃ text, dropReturn w.content = Utf8.encode text ∧ Field.ofLine text = Field.ofLine w.text := by
  obtain ⟨text, withReturn⟩ := w
  cases withReturn with
  | true => exact ⟨text, dropReturn_append_return _, rfl⟩
  | false =>
    have hcontent : content ⟨text, false⟩ = Utf8.encode text := by simp [content]
    rw [hcontent]
    by_cases hreturn : text.toList.getLast? = some '\r'
    · obtain ⟨rest, rfl⟩ : ∃ rest, text = ":" ++ rest := h.comment_of_return hreturn
      have hrest : rest.toList.getLast? = some '\r' := by
        rw [String.toList_append, List.getLast?_append] at hreturn
        cases hlast : rest.toList.getLast? with
        | none => simp [hlast] at hreturn
        | some c => simpa [hlast] using hreturn
      obtain ⟨init, hinit⟩ := List.getLast?_eq_some_iff.mp hrest
      have htext : ":" ++ rest = ":" ++ String.ofList init ++ "\r" := by
        apply String.toList_inj.mp
        simp [hinit]
      refine ⟨":" ++ String.ofList init, ?_, ?_⟩
      · rw [htext, Utf8.encode_append]
        exact dropReturn_append_return _
      · rw [ofLine_comment, ofLine_comment]
    · have hlast : (Utf8.encode text).getLast? ≠ some carriageReturn := by
        rw [Ne, @Utf8.getLast?_encode_iff text carriageReturn '\r' rfl (by decide)]
        exact hreturn
      exact ⟨text, if_neg hlast, rfl⟩

theorem readable {w : WrittenLine} (h : Plain w.text) {limit : Nat}
    (hle : w.content.length ≤ limit) :
    Readable limit w.content := by
  obtain ⟨text, htext, -⟩ := w.exists_text h
  exact ⟨hle, by rw [htext, Utf8.decode?_encode]; rfl⟩

theorem ofLine_lineText {w : WrittenLine} (h : Plain w.text) :
    Field.ofLine (lineText w.content) = Field.ofLine w.text := by
  obtain ⟨text, htext, hfield⟩ := w.exists_text h
  rw [lineText, htext, Utf8.decode?_encode]
  exact hfield

theorem splitLines_octets {ws : List WrittenLine} (h : ∀ w ∈ ws, Plain w.text) :
    splitLines (ws.flatMap octets) = (ws.map content, []) := by
  induction ws with
  | nil => rfl
  | cons w ws ih =>
    obtain ⟨hw, hws⟩ := List.forall_mem_cons.mp h
    have hoctets : (w :: ws).flatMap octets = w.content ++ lineFeed :: ws.flatMap octets := by
      simp [octets]
    rw [hoctets, splitLines_line (lineFeed_not_mem_content hw), ih hws]
    rfl

end WrittenLine

theorem pushAll_of_written {limit : Nat} {ws : List WrittenLine} {chunks : List (List UInt8)}
    (hplain : ∀ w ∈ ws, Plain w.text) (hlimit : ∀ w ∈ ws, w.content.length ≤ limit)
    (hcut : chunks.flatten = ws.flatMap WrittenLine.octets) :
    ∃ texts, LineDecoder.pushAll (.empty limit) chunks = (texts, .ok (.empty limit)) ∧
      texts.map Field.ofLine = ws.map fun w => Field.ofLine w.text := by
  have hsplit := WrittenLine.splitLines_octets hplain
  have haccept : Acceptable limit chunks.flatten := by
    rw [Acceptable, hcut, hsplit]
    refine ⟨?_, Nat.zero_le _⟩
    intro line hline
    obtain ⟨w, hw, rfl⟩ := List.mem_map.mp hline
    exact w.readable (hplain w hw) (hlimit w hw)
  have hpush := LineDecoder.pushAll_eq_ok_iff.mpr ⟨haccept, rfl, rfl⟩
  rw [hcut, hsplit] at hpush
  refine ⟨_, hpush, ?_⟩
  rw [List.map_map, List.map_map]
  exact List.map_congr_left fun w hw => w.ofLine_lineText (hplain w hw)

/-- Frames that are written in any of the ways open to a writer, each line within the limit, are
read as they are from octets in any chunks, and nothing is left over. -/
theorem read_of_writes {limit : Nat} {fs : List Frame} {ws : List WrittenLine}
    {chunks : List (List UInt8)} (hwrites : Writes fs (ws.map WrittenLine.text))
    (hlimit : ∀ w ∈ ws, w.content.length ≤ limit)
    (hcut : chunks.flatten = ws.flatMap WrittenLine.octets) :
    ∃ texts d reader, LineDecoder.pushAll (.empty limit) chunks = (texts, .ok d) ∧
      FrameReader.empty.feedAll texts = (reader, fs) ∧
      d.finish.2 = .ok none ∧ reader.isIdle = true ∧ reader.finish.2 = none := by
  have hplain : ∀ w ∈ ws, Plain w.text := fun w hw =>
    hwrites.plain w.text (List.mem_map_of_mem hw)
  obtain ⟨texts, hpush, hfields⟩ := pushAll_of_written hplain hlimit hcut
  have hread : FrameReader.empty.feedAll texts = (.empty, fs) := by
    rw [← hwrites.feedAll_eq]
    apply FrameReader.feedAll_congr
    rw [hfields, List.map_map]
    rfl
  exact ⟨texts, .empty limit, .empty, hpush, hread, rfl, rfl, rfl⟩

/-- A comment within a frame, a cut within a character, and both line ends. -/
theorem read_of_cut_character :
    let ws : List WrittenLine :=
      [⟨"event: message", true⟩, ⟨": still there\r", false⟩, ⟨"data:  é", false⟩, ⟨"data: ", true⟩,
        ⟨"", true⟩, ⟨"", false⟩, ⟨"data: x", false⟩, ⟨"", false⟩]
    let bytes := ws.flatMap WrittenLine.octets
    ∃ texts d reader,
      LineDecoder.pushAll (.empty 16) [bytes.take 39, bytes.drop 39] = (texts, .ok d) ∧
        FrameReader.empty.feedAll texts = (reader, [⟨some "message", " é\n"⟩, ⟨none, "x"⟩]) ∧
        d.finish.2 = .ok none ∧ reader.isIdle = true ∧ reader.finish.2 = none := by
  intro ws bytes
  have hfirst : (⟨some "message", " é\n"⟩ : Frame).Writable :=
    ⟨by decide, by decide, by decide, by decide⟩
  have hsecond : (⟨none, "x"⟩ : Frame).Writable := ⟨by decide, by decide, by decide, by decide⟩
  have hwrites : Writes [⟨some "message", " é\n"⟩, ⟨none, "x"⟩] (ws.map WrittenLine.text) :=
    @Writes.comment _ ["event: message"] ["data:  é", "data: ", "", "", "data: x", ""]
      " still there\r" (by decide) (.frame hfirst (.blank (.frame hsecond .nil)))
  exact read_of_writes hwrites (by decide) (by simp [bytes])

end AnswerStream.Sse
