import AnswerStream.Sse.Frame

/-!
Frames from lines, one line at a time.
-/

namespace AnswerStream.Sse.FrameReader

@[simp] theorem feedAll_nil (r : FrameReader) : r.feedAll [] = (r, []) := rfl

theorem feedAll_cons (r : FrameReader) (line : String) (lines : List String) :
    r.feedAll (line :: lines) =
      (((r.feed line).1.feedAll lines).1,
        (r.feed line).2.toList ++ ((r.feed line).1.feedAll lines).2) := by
  have hone : r.feedAll [line] = ((r.feed line).1, (r.feed line).2.toList) := by
    cases h : (r.feed line).2 <;> simp [feedAll, step, h]
  rw [← List.singleton_append, feedAll_append, hone]

theorem feedAll_congr (r : FrameReader) {as bs : List String}
    (h : as.map Field.ofLine = bs.map Field.ofLine) : r.feedAll as = r.feedAll bs := by
  induction as generalizing r bs with
  | nil =>
    have hnil : bs = [] := by simpa using h.symm
    rw [hnil]
  | cons a as ih =>
    obtain ⟨b, bs, rfl⟩ : ∃ b rest, bs = b :: rest := by
      cases bs with
      | nil => cases h
      | cons b bs => exact ⟨b, bs, rfl⟩
    obtain ⟨hfirst, hrest⟩ := List.cons.inj h
    have hfeed : r.feed a = r.feed b := congrArg r.feedField hfirst
    rw [feedAll_cons, feedAll_cons, hfeed, ih _ hrest]

/-- More lines close more frames behind those that are closed already. -/
theorem feedAll_prefix (r : FrameReader) {as bs : List String} (h : as <+: bs) :
    (r.feedAll as).2 <+: (r.feedAll bs).2 := by
  obtain ⟨rest, rfl⟩ := h
  rw [feedAll_append]
  exact List.prefix_append _ _

end AnswerStream.Sse.FrameReader
