import AnswerStream.Proofs.Sse.Frames
import AnswerStream.Proofs.Text.Cutting
import Mathlib.Data.List.ReduceOption

/-!
Lines in groups. The blank lines cut a stream into groups, and each group makes one frame or none.
The reader answers a blank line with what the group in front of it makes, the end of the stream with
what the last group makes, and every other line with nothing.
-/

namespace AnswerStream.Sse

namespace LineGroup

/-- The name in a line for the event. -/
def name? (line : String) : Option String :=
  (Text.after? "event:".toList line.toList).map fun rest => Text.trim (String.ofList rest)

/-- The value in a line of data, which may be set off by a space. -/
def value? (line : String) : Option String :=
  (Text.after? "data: ".toList line.toList <|> Text.after? "data:".toList line.toList).map
    String.ofList

/-- What the lines of a group make: the last name and all values, if they have any of either. -/
def frame? (group : List String) : Option Frame :=
  if group.filterMap name? = [] ∧ group.filterMap value? = [] then none
  else some ⟨(group.filterMap name?).getLast?, String.intercalate "\n" (group.filterMap value?)⟩

theorem value?_eq (line : String) :
    value? line =
      (Text.after? "data:".toList line.toList).map fun rest =>
        String.ofList (Field.dropSpace rest) := by
  have hspace : "data: ".toList = "data:".toList ++ [' '] := rfl
  rw [value?, hspace, Text.after?_append_lead]
  cases Text.after? "data:".toList line.toList with
  | none => rfl
  | some rest =>
    cases rest with
    | nil => rfl
    | cons c rest =>
      by_cases hc : c = ' '
      · subst hc
        rfl
      · simp [Text.after?, Field.dropSpace, hc, Ne.symm hc]

theorem value?_of_name? {line name : String} (h : name? line = some name) : value? line = none := by
  obtain ⟨rest, hrest, -⟩ := Option.map_eq_some_iff.mp h
  rw [value?_eq, Text.after?_eq_some_iff.mp hrest]
  rfl

end LineGroup

namespace FrameReader
open LineGroup (name? value?)

theorem feed_of_ne_blank (r : FrameReader) {line : String} (h : line ≠ "") :
    r.feed line = (⟨name? line <|> r.event, (value? line).toList ++ r.data⟩, none) := by
  have hchars : line.toList.isEmpty = false := by simpa using h
  unfold feed Field.ofLine Field.ofChars
  rw [hchars, if_neg Bool.false_ne_true]
  cases hname : Text.after? "event:".toList line.toList with
  | some rest =>
    have hevent : name? line = some (String.ofList (Text.trimChars rest)) := by
      rw [name?, hname, Option.map_some, Text.trim, String.toList_ofList]
    rw [hevent, LineGroup.value?_of_name? hevent]
    rfl
  | none =>
    have hevent : name? line = none := by rw [name?, hname, Option.map_none]
    rw [hevent, LineGroup.value?_eq]
    cases Text.after? "data:".toList line.toList <;> rfl

theorem feedAll_group (r : FrameReader) {group : List String} (h : "" ∉ group) :
    r.feedAll group =
      (⟨(group.filterMap name?).getLast? <|> r.event, (group.filterMap value?).reverse ++ r.data⟩,
       []) := by
  induction group generalizing r with
  | nil => rfl
  | cons line group ih =>
    obtain ⟨hline, hgroup⟩ := List.ne_and_not_mem_of_not_mem_cons h
    rw [feedAll_cons, feed_of_ne_blank r (Ne.symm hline), ih _ hgroup]
    cases hname : name? line with
    | some name =>
      have hvalue := LineGroup.value?_of_name? hname
      cases hlast : (group.filterMap name?).getLast? <;>
        simp [hname, hvalue, hlast, List.getLast?_cons]
    | none => cases hvalue : value? line <;> simp [hname, hvalue]

theorem frame?_feedAll_group {group : List String} (h : "" ∉ group) :
    (empty.feedAll group).1.frame? = LineGroup.frame? group := by
  rw [feedAll_group empty h]
  unfold FrameReader.frame? LineGroup.frame? isIdle
  simp [empty]

/-- The answers to lines and to the end behind them. -/
def answers (r : FrameReader) : List String → List (Option Frame)
  | [] => [r.finish.2]
  | line :: lines => (r.feed line).2 :: (r.feed line).1.answers lines

theorem reduceOption_answers (r : FrameReader) (lines : List String) :
    (r.answers lines).reduceOption =
    (r.feedAll lines).2 ++ (r.feedAll lines).1.finish.2.toList := by
  induction lines generalizing r with
  | nil => cases hlast : r.finish.2 <;> simp [answers, hlast, List.reduceOption]
  | cons line lines ih =>
    rw [answers, feedAll_cons, List.append_assoc, ← ih]
    cases (r.feed line).2 <;> simp [List.reduceOption]

theorem answers_group_append (r : FrameReader) {group : List String} (h : "" ∉ group)
    (lines : List String) :
    r.answers (group ++ lines) =
      List.replicate group.length none ++ (r.feedAll group).1.answers lines := by
  induction group generalizing r with
  | nil => rfl
  | cons line group ih =>
    obtain ⟨hline, hgroup⟩ := List.ne_and_not_mem_of_not_mem_cons h
    rw [List.cons_append, answers, ih _ hgroup, feedAll_cons, feed_of_ne_blank r (Ne.symm hline)]
    rfl

/-- The answers to a group and to the blank line or the end behind it. -/
def groupAnswers (group : List String) : List (Option Frame) :=
  List.replicate group.length none ++ [LineGroup.frame? group]

theorem answers_last {group : List String} (h : "" ∉ group) :
    empty.answers group = groupAnswers group := by
  have hend := answers_group_append empty h []
  rw [List.append_nil] at hend
  rw [hend, groupAnswers, ← frame?_feedAll_group h]
  rfl

theorem answers_blank {group : List String} (h : "" ∉ group) (lines : List String) :
    empty.answers (group ++ "" :: lines) = groupAnswers group ++ empty.answers lines := by
  have hblank (r : FrameReader) : r.feed "" = (empty, r.frame?) := rfl
  rw [answers_group_append empty h, answers, hblank, frame?_feedAll_group h, groupAnswers,
    List.append_assoc, List.singleton_append]

/-- The groups are answered one after the other. -/
theorem answers_eq_flatMap (lines : List String) :
    empty.answers lines = (lines.splitOn "").flatMap groupAnswers := by
  by_cases hblank : "" ∈ lines
  · obtain ⟨group, rest, hlines, hgroup⟩ := List.eq_append_cons_of_mem hblank
    rw [hlines, answers_blank hgroup, List.splitOn_append_cons_self_of_not_mem hgroup,
      List.flatMap_cons, ← answers_eq_flatMap rest]
  · rw [answers_last hblank, List.splitOn_eq_singleton hblank, List.flatMap_singleton]
  termination_by lines.length
  decreasing_by
    rw [hlines, List.length_append, List.length_cons]
    omega

theorem isIdle_feedAll_blank (r : FrameReader) (lines : List String) :
    (r.feedAll (lines ++ [""])).1.isIdle = true := by
  rw [feedAll_append]
  rfl

/-- Each group of lines between blank ones makes its frame, or none, and it is handed out in answer
to the blank line or the end behind the group; no other line is answered, and nothing is gathered
behind a blank line or the end. -/
theorem answers_eq_groups (lines : List String) :
    empty.answers lines =
        (lines.splitOn "").flatMap
        (fun group => List.replicate group.length none ++ [LineGroup.frame? group]) ∧
      (empty.feedAll lines).2 ++ (empty.feedAll lines).1.finish.2.toList =
        (lines.splitOn "").filterMap LineGroup.frame? ∧
      (empty.feedAll (lines ++ [""])).1.isIdle = true ∧
      (empty.feedAll lines).1.finish.1.isIdle = true := by
  refine ⟨answers_eq_flatMap lines, ?_, isIdle_feedAll_blank empty lines, rfl⟩
  have hgroup (group : List String) :
      (groupAnswers group).reduceOption = (LineGroup.frame? group).toList := by
    cases hframe : LineGroup.frame? group <;> simp [groupAnswers, List.reduceOption, hframe]
  rw [← reduceOption_answers, answers_eq_flatMap, List.reduceOption, List.filterMap_flatMap,
    List.filterMap_eq_flatMap_toList]
  exact List.flatMap_congr fun group _ => hgroup group

end FrameReader
end AnswerStream.Sse
