import AnswerStream.Text.Pieces
import Mathlib.Data.List.Basic

/-!
Texts cut at a character and put together again, texts read in two steps, and texts without the
blanks at their ends.
-/

namespace AnswerStream.Text

theorem after?_append_lead (lead more cs : List Char) :
    after? (lead ++ more) cs = (after? lead cs).bind (after? more) := by
  induction lead generalizing cs with
  | nil => rfl
  | cons l lead ih =>
    cases cs with
    | nil => rfl
    | cons c cs => by_cases h : l = c <;> simp [after?, h, ih]

theorem startsWith_iff {text lead : String} :
    startsWith text lead = true ↔ lead.toList <+: text.toList := by
  rw [startsWith, Option.isSome_iff_exists]
  exact exists_congr fun rest => after?_eq_some_iff.trans eq_comm

theorem intercalate_extendFirst (sep : List Char) (c : Char) {ps : List (List Char)} (h : ps ≠ []) :
    sep.intercalate (extendFirst c ps) = c :: sep.intercalate ps := by
  rcases ps with _ | ⟨piece, _ | ⟨next, rest⟩⟩
  · exact absurd rfl h
  · simp [extendFirst]
  · simp [extendFirst, List.intercalate_cons_cons]

theorem intercalate_pieces (c : Char) (cs : List Char) :
    [c].intercalate (pieces (· == c) cs) = cs := by
  induction cs with
  | nil => rfl
  | cons d cs ih =>
    rw [pieces_cons]
    obtain ⟨piece, rest, hpieces⟩ := List.exists_cons_of_ne_nil (pieces_ne_nil (· == c) cs)
    by_cases hd : d = c
    · subst hd
      rw [hpieces] at ih
      simp [hpieces, List.intercalate_cons_cons, ih]
    · have hsep : (d == c) = false := by simpa using hd
      rw [hsep, if_neg Bool.false_ne_true, intercalate_extendFirst _ _ (pieces_ne_nil _ _), ih]

theorem not_mem_of_mem_pieces {c : Char} {cs piece : List Char} (h : piece ∈ pieces (· == c) cs) :
    c ∉ piece := by
  induction cs generalizing piece with
  | nil => simp_all
  | cons d cs ih =>
    obtain ⟨first, rest, hpieces⟩ := List.exists_cons_of_ne_nil (pieces_ne_nil (· == c) cs)
    rw [hpieces] at ih
    rw [pieces_cons, hpieces] at h
    by_cases hd : d = c
    · subst hd
      simp only [BEq.rfl, if_true, List.mem_cons] at h
      rcases h with rfl | h
      · exact List.not_mem_nil
      · exact ih (List.mem_cons.mpr h)
    · have hsep : (d == c) = false := by simpa using hd
      simp only [hsep, Bool.false_eq_true, if_false, extendFirst, List.mem_cons] at h
      rcases h with rfl | h
      · have hfirst := ih List.mem_cons_self
        simpa using ⟨Ne.symm hd, hfirst⟩
      · exact ih (List.mem_cons_of_mem _ h)

theorem dropWhile_of_head? {p : Char → Bool} {cs : List Char} (h : cs.head?.any p = false) :
    cs.dropWhile p = cs := by
  cases cs with
  | nil => rfl
  | cons c cs =>
    have hc : p c = false := h
    exact List.dropWhile_cons_of_neg (by simp [hc])

/-- A text without the blanks at its ends. -/
def Trims (cs trimmed : List Char) : Prop :=
  ∃ before after, cs = before ++ (trimmed ++ after) ∧ (∀ c ∈ before, blank c = true) ∧
    (∀ c ∈ after, blank c = true) ∧ trimmed.head?.any blank = false ∧
    trimmed.getLast?.any blank = false

theorem trimChars_of_trims {cs trimmed : List Char} (h : Trims cs trimmed) :
    trimChars cs = trimmed := by
  obtain ⟨before, after, rfl, hbefore, hafter, hfirst, hlast⟩ := h
  rw [trimChars, trimStart, List.dropWhile_append_of_pos hbefore, trimEnd]
  cases trimmed with
  | nil =>
    have hdropped : (after ++ []).dropWhile blank = [] := List.dropWhile_append_of_pos hafter
    rw [List.append_nil] at hdropped
    rw [List.nil_append, hdropped]
    rfl
  | cons c trimmed =>
    have hhead : ((c :: trimmed) ++ after).head?.any blank = false := hfirst
    have hreverse : (c :: trimmed).reverse.head?.any blank = false := by
      rw [List.head?_reverse, hlast]
    have hblank : ∀ d ∈ after.reverse, blank d = true := fun d hd =>
      hafter d (List.mem_reverse.mp hd)
    rw [dropWhile_of_head? hhead, List.reverse_append, List.dropWhile_append_of_pos hblank,
      dropWhile_of_head? hreverse, List.reverse_reverse]

theorem head?_dropWhile_blank (cs : List Char) : (cs.dropWhile blank).head?.any blank = false := by
  have hhead := List.head?_dropWhile_not blank cs
  cases hd : (cs.dropWhile blank).head? with
  | none => rfl
  | some c => simpa [hd] using hhead

theorem trims_trimChars (cs : List Char) : Trims cs (trimChars cs) := by
  have hblank {l : List Char} : ∀ c ∈ l.takeWhile blank, blank c = true := fun c hc =>
    List.all_eq_true.mp List.all_takeWhile c hc
  have htail : trimStart cs = trimChars cs ++ ((trimStart cs).reverse.takeWhile blank).reverse := by
    rw [trimChars, trimEnd, ← List.reverse_append, List.takeWhile_append_dropWhile,
      List.reverse_reverse]
  refine ⟨cs.takeWhile blank, ((trimStart cs).reverse.takeWhile blank).reverse, ?_, hblank,
    fun c hc => hblank c (List.mem_reverse.mp hc), ?_, ?_⟩
  · rw [← htail, trimStart, List.takeWhile_append_dropWhile]
  · have hstart : (trimStart cs).head?.any blank = false := head?_dropWhile_blank cs
    cases htrimmed : trimChars cs with
    | nil => rfl
    | cons c rest =>
      rw [htail, htrimmed] at hstart
      exact hstart
  · rw [trimChars, trimEnd, List.getLast?_reverse]
    exact head?_dropWhile_blank _

theorem trims_iff {cs trimmed : List Char} : Trims cs trimmed ↔ trimChars cs = trimmed :=
  ⟨trimChars_of_trims, fun h => h ▸ trims_trimChars cs⟩

theorem trimChars_of_ends {cs : List Char} (hfirst : cs.head?.any blank = false)
    (hlast : cs.getLast?.any blank = false) : trimChars cs = cs :=
  trimChars_of_trims ⟨[], [], by simp, by simp, by simp, hfirst, hlast⟩

theorem trimChars_cons_blank {c : Char} (h : blank c = true) (cs : List Char) :
    trimChars (c :: cs) = trimChars cs := by
  rw [trimChars, trimStart, List.dropWhile_cons_of_pos h]
  rfl

theorem trimChars_of_inner {before cs after : List Char} (hbefore : ∀ c ∈ before, blank c = true)
    (hcs : ∀ c ∈ cs, blank c = false) (hafter : ∀ c ∈ after, blank c = true) :
    trimChars (before ++ (cs ++ after)) = cs := by
  refine trimChars_of_trims ⟨before, after, rfl, hbefore, hafter, ?_, ?_⟩
  · cases cs with
    | nil => rfl
    | cons c cs => exact hcs c List.mem_cons_self
  · cases hlast : cs.getLast? with
    | none => rfl
    | some c => exact hcs c (List.mem_of_getLast? hlast)

theorem exists_dropLeading (d : Char) (s : String) :
    ∃ n, s.toList = List.replicate n d ++ (dropLeading d s).toList ∧
      (dropLeading d s).toList.head? ≠ some d := by
  rw [dropLeading, String.toList_ofList]
  refine ⟨(s.toList.takeWhile (· == d)).length, ?_, fun hhead => ?_⟩
  · have hsame : ∀ c ∈ s.toList.takeWhile (· == d), c = d := fun c hc =>
      eq_of_beq (List.all_eq_true.mp List.all_takeWhile c hc)
    rw [← List.eq_replicate_of_mem hsame, List.takeWhile_append_dropWhile]
  · have hother := List.head?_dropWhile_not (· == d) s.toList
    rw [hhead] at hother
    simp at hother

theorem exists_dropTrailing (d : Char) (s : String) :
    ∃ n, s.toList = (dropTrailing d s).toList ++ List.replicate n d ∧
      (dropTrailing d s).toList.getLast? ≠ some d := by
  obtain ⟨n, hsplit, hhead⟩ := exists_dropLeading d (String.ofList s.toList.reverse)
  rw [dropLeading, String.toList_ofList, String.toList_ofList] at hsplit hhead
  rw [dropTrailing, String.toList_ofList, List.getLast?_reverse]
  refine ⟨n, ?_, hhead⟩
  have hreverse := congrArg List.reverse hsplit
  rwa [List.reverse_reverse, List.reverse_append, List.reverse_replicate] at hreverse

end AnswerStream.Text
