import AnswerStream.Sse.LineDecoder
import Mathlib.Data.List.TakeWhile

/-!
What a line decoder delivers, whatever the cuts between its chunks. A body is acceptable when its
complete lines can be read and its tail is not too long; every cut of an acceptable body delivers
the same lines, and every cut of another body fails after some of the lines before the first that
cannot be read.
-/

namespace AnswerStream.Sse

namespace Split

theorem run_eq (s : Split) (bytes : List UInt8) :
    s.run bytes = ⟨(run ⟨[], s.tail⟩ bytes).lines ++ s.lines, (run ⟨[], s.tail⟩ bytes).tail⟩ := by
  induction bytes generalizing s with
  | nil => simp [run]
  | cons b bytes ih =>
    have hrun (t : Split) : t.run (b :: bytes) = (t.step b).run bytes := rfl
    rw [hrun, hrun, ih, ih (step _ b)]
    by_cases hb : b = lineFeed <;> simp [step, hb]

theorem run_of_not_mem (s : Split) {bytes : List UInt8} (h : lineFeed ∉ bytes) :
    s.run bytes = ⟨s.lines, bytes.reverse ++ s.tail⟩ := by
  induction bytes generalizing s with
  | nil => rfl
  | cons b bytes ih =>
    obtain ⟨hb, hbytes⟩ := List.ne_and_not_mem_of_not_mem_cons h
    have hstep : s.step b = ⟨s.lines, b :: s.tail⟩ := if_neg hb.symm
    change (s.step b).run bytes = _
    rw [ih _ hbytes, hstep]
    simp

theorem not_mem_tail_run {s : Split} (h : lineFeed ∉ s.tail) (bytes : List UInt8) :
    lineFeed ∉ (s.run bytes).tail := by
  induction bytes generalizing s with
  | nil => exact h
  | cons b bytes ih =>
    apply ih
    by_cases hb : b = lineFeed
    · simp [step, hb]
    · simpa [step, hb] using ⟨Ne.symm hb, h⟩

end Split

theorem lineFeed_not_mem_tail (bytes : List UInt8) : lineFeed ∉ (splitLines bytes).2 := by
  have h := Split.not_mem_tail_run (s := ⟨[], []⟩) (by simp) bytes
  simpa [splitLines] using h

theorem splitLines_of_not_mem {bytes : List UInt8} (h : lineFeed ∉ bytes) :
    splitLines bytes = ([], bytes) := by
  simp [splitLines, Split.run_of_not_mem _ h]

theorem run_eq_splitLines (bytes : List UInt8) :
    Split.run ⟨[], []⟩ bytes = ⟨(splitLines bytes).1.reverse, (splitLines bytes).2.reverse⟩ := by
  simp [splitLines]

/-- Only the tail of the first part meets the second part. -/
theorem splitLines_append (as bs : List UInt8) :
    splitLines (as ++ bs) =
      ((splitLines as).1 ++ (splitLines ((splitLines as).2 ++ bs)).1,
        (splitLines ((splitLines as).2 ++ bs)).2) := by
  rcases hs : splitLines as with ⟨lines, tail⟩
  have htail : lineFeed ∉ tail := by simpa [hs] using lineFeed_not_mem_tail as
  have hrest : Split.run ⟨[], []⟩ (tail ++ bs) = Split.run ⟨[], tail.reverse⟩ bs := by
    simp [Split.run_append, Split.run_of_not_mem _ htail]
  have hall : Split.run ⟨[], []⟩ (as ++ bs) =
      ⟨(Split.run ⟨[], tail.reverse⟩ bs).lines ++ lines.reverse,
        (Split.run ⟨[], tail.reverse⟩ bs).tail⟩ := by
    rw [Split.run_append, run_eq_splitLines, hs, Split.run_eq]
  simp [splitLines, hall, hrest]

theorem splitLines_line {line : List UInt8} (h : lineFeed ∉ line) (rest : List UInt8) :
    splitLines (line ++ lineFeed :: rest) =
      (line :: (splitLines rest).1, (splitLines rest).2) := by
  have hline : splitLines (line ++ [lineFeed]) = ([line], []) := by
    rw [splitLines_append, splitLines_of_not_mem h]
    simp [splitLines, Split.run_append, Split.run_of_not_mem _ h]
    simp [Split.run, Split.step]
  rw [show line ++ lineFeed :: rest = (line ++ [lineFeed]) ++ rest by simp,
    splitLines_append, hline]
  simp

theorem splitLines_open {p : List UInt8} (hp : lineFeed ∉ p) (bytes : List UInt8) :
    (splitLines (p ++ bytes)).1 = [] ∧ (splitLines (p ++ bytes)).2 = p ++ bytes ∨
      ∃ more rest, (splitLines (p ++ bytes)).1 = (p ++ more) :: rest := by
  by_cases h : lineFeed ∈ bytes
  · obtain ⟨more, rest, rfl, hmore⟩ := List.eq_append_cons_of_mem h
    right
    have hpm : lineFeed ∉ p ++ more := by simp [hp, hmore]
    refine ⟨more, (splitLines rest).1, ?_⟩
    rw [← List.append_assoc, splitLines_line hpm]
  · left
    have hpb : lineFeed ∉ p ++ bytes := by simp [hp, h]
    simp [splitLines_of_not_mem hpb]

/-- Whether a decoder delivers a line. -/
def Readable (limit : Nat) (line : List UInt8) : Prop :=
  line.length ≤ limit ∧ (Utf8.decode? (dropReturn line)).isSome

instance (limit : Nat) (line : List UInt8) : Decidable (Readable limit line) :=
  inferInstanceAs (Decidable (_ ∧ _))

/-- What a decoder delivers for a line that it can read. -/
def lineText (line : List UInt8) : String := (Utf8.decode? (dropReturn line)).getD ""

/-- Bodies that a decoder takes without a failure: the lines can be read, and the tail may still end
well. -/
def Acceptable (limit : Nat) (bytes : List UInt8) : Prop :=
  (∀ line ∈ (splitLines bytes).1, Readable limit line) ∧ (splitLines bytes).2.length ≤ limit

/-- The complete lines before the first that cannot be read. -/
def goodLines (limit : Nat) (bytes : List UInt8) : List (List UInt8) :=
  (splitLines bytes).1.takeWhile fun line => Readable limit line

theorem decodeLine_of_readable {limit : Nat} {line : List UInt8} (h : Readable limit line) :
    decodeLine line = .ok (lineText line) := by
  obtain ⟨text, htext⟩ := Option.isSome_iff_exists.mp h.2
  simp [decodeLine, lineText, htext]

theorem lineText_of_decodeLine {line : List UInt8} {text : String}
    (h : decodeLine line = .ok text) :
    lineText line = text := by
  rw [decodeLine] at h
  split at h
  next s hs =>
    rw [lineText, hs]
    exact Except.ok.inj h
  next => cases h

theorem decodeLine_of_not_isSome {line : List UInt8}
    (h : ¬ (Utf8.decode? (dropReturn line)).isSome) : ∃ e, decodeLine line = .error e := by
  rw [Option.not_isSome_iff_eq_none] at h
  simp [decodeLine, h]

namespace LineDecoder

theorem decodeLines_cons (limit : Nat) (buffer line : List UInt8) (lines : List (List UInt8)) :
    decodeLines limit buffer (line :: lines) =
      (checkLength limit buffer line >>= fun _ => decodeLine line >>= fun text =>
        decodeLines limit buffer lines >>= fun texts => .ok (text :: texts)) := by
  simp only [decodeLines, List.mapM_cons]
  rcases checkLength limit buffer line with e | _ <;> rfl

theorem decodeLines_of_readable {limit : Nat} (buffer : List UInt8) {lines : List (List UInt8)}
    (h : ∀ line ∈ lines, Readable limit line) :
    decodeLines limit buffer lines = .ok (lines.map lineText) := by
  induction lines with
  | nil => rfl
  | cons line lines ih =>
    obtain ⟨hline, hlines⟩ := List.forall_mem_cons.mp h
    have hlength : checkLength limit buffer line = .ok () := if_pos hline.1
    rw [decodeLines_cons, hlength, decodeLine_of_readable hline, ih hlines]
    rfl

theorem decodeLines_of_not_readable {limit : Nat} (buffer : List UInt8) {lines : List (List UInt8)}
    (h : ¬ ∀ line ∈ lines, Readable limit line) :
    ∃ e, decodeLines limit buffer lines = .error e := by
  induction lines with
  | nil => simp at h
  | cons line lines ih =>
    rw [decodeLines_cons]
    by_cases hlength : line.length ≤ limit
    · rw [checkLength, if_pos hlength]
      by_cases htext : (Utf8.decode? (dropReturn line)).isSome
      · have hline : Readable limit line := ⟨hlength, htext⟩
        obtain ⟨e, he⟩ := ih fun hlines => h (List.forall_mem_cons.mpr ⟨hline, hlines⟩)
        exact ⟨e, by rw [decodeLine_of_readable hline, he]; rfl⟩
      · obtain ⟨e, he⟩ := decodeLine_of_not_isSome htext
        exact ⟨e, by rw [he]; rfl⟩
    · exact ⟨_, by rw [checkLength, if_neg hlength]; rfl⟩

theorem push_of_acceptable {d : LineDecoder} {chunk : List UInt8}
    (h : Acceptable d.limit (d.pending ++ chunk)) :
    d.push chunk = (⟨d.limit, (splitLines (d.pending ++ chunk)).2⟩,
      .ok ((splitLines (d.pending ++ chunk)).1.map lineText)) := by
  obtain ⟨hlines, htail⟩ := h
  simp only [push, decodeLines_of_readable _ hlines, checkLength, if_pos htail]

theorem push_of_not_acceptable {d : LineDecoder} {chunk : List UInt8}
    (h : ¬ Acceptable d.limit (d.pending ++ chunk)) : ∃ d' e, d.push chunk = (d', .error e) := by
  by_cases hlines : ∀ line ∈ (splitLines (d.pending ++ chunk)).1, Readable d.limit line
  · have htail : ¬ (splitLines (d.pending ++ chunk)).2.length ≤ d.limit := fun ht => h ⟨hlines, ht⟩
    simp only [push, decodeLines_of_readable _ hlines, checkLength, if_neg htail]
    exact ⟨_, _, rfl⟩
  · obtain ⟨e, he⟩ := decodeLines_of_not_readable (d.pending ++ chunk) hlines
    simp only [push, he]
    exact ⟨_, _, rfl⟩

/-- Pushes chunks up to the first failure: the lines delivered before it, and how the pushes end. -/
def pushAll (d : LineDecoder) : List (List UInt8) → List String × Except Failure LineDecoder
  | [] => ([], .ok d)
  | chunk :: chunks =>
    match d.push chunk with
    | (_, .error e) => ([], .error e)
    | (d, .ok texts) =>
      let (more, result) := d.pushAll chunks
      (texts ++ more, result)

end LineDecoder

theorem acceptable_append {limit : Nat} {as bs : List UInt8} :
    Acceptable limit (as ++ bs) ↔
      (∀ line ∈ (splitLines as).1, Readable limit line) ∧
        Acceptable limit ((splitLines as).2 ++ bs) := by
  simp only [Acceptable, splitLines_append as bs, List.forall_mem_append, and_assoc]

theorem Acceptable.length_le {limit : Nat} {p bytes : List UInt8} (hp : lineFeed ∉ p)
    (h : Acceptable limit (p ++ bytes)) : p.length ≤ limit := by
  obtain ⟨-, htail⟩ | ⟨more, rest, hlines⟩ := splitLines_open hp bytes
  · have hle := h.2
    rw [htail, List.length_append] at hle
    omega
  · have hle := (h.1 (p ++ more) (by simp [hlines])).1
    rw [List.length_append] at hle
    omega

theorem Acceptable.of_append {limit : Nat} {as bs : List UInt8} (h : Acceptable limit (as ++ bs)) :
    Acceptable limit as := by
  obtain ⟨hlines, hrest⟩ := acceptable_append.mp h
  exact ⟨hlines, hrest.length_le (lineFeed_not_mem_tail as)⟩

theorem goodLines_append {limit : Nat} {as : List UInt8} (h : Acceptable limit as)
    (bs : List UInt8) :
    goodLines limit (as ++ bs) =
      (splitLines as).1 ++ goodLines limit ((splitLines as).2 ++ bs) := by
  rw [goodLines, splitLines_append, List.takeWhile_append_of_pos]
  · rfl
  · exact fun line hline => decide_eq_true (h.1 line hline)

/-- No line is left to deliver once an octet has made the open line unreadable. -/
theorem goodLines_of_octet {limit : Nat} {p : List UInt8} (hp : lineFeed ∉ p) {b : UInt8}
    (h : ¬ Acceptable limit (p ++ [b])) (rest : List UInt8) :
    goodLines limit (p ++ b :: rest) = [] := by
  by_cases hb : b = lineFeed
  · subst hb
    have hline : ¬ Readable limit p := by
      intro hp'
      apply h
      rw [Acceptable, splitLines_line hp]
      simpa [splitLines, Split.run] using hp'
    rw [goodLines, splitLines_line hp, List.takeWhile_cons_of_neg]
    simpa using hline
  · have hopen : lineFeed ∉ p ++ [b] := by simpa using ⟨hp, Ne.symm hb⟩
    have hlong : ¬ (p ++ [b]).length ≤ limit := by
      intro hle
      apply h
      rw [Acceptable, splitLines_of_not_mem hopen]
      exact ⟨by simp, hle⟩
    rw [List.append_cons]
    obtain ⟨hnone, -⟩ | ⟨more, others, hlines⟩ := splitLines_open hopen rest
    · rw [goodLines, hnone]
      rfl
    · rw [goodLines, hlines, List.takeWhile_cons_of_neg]
      have hfirst : ¬ Readable limit (p ++ [b] ++ more) := by
        intro hread
        have hle := hread.1
        rw [List.length_append] at hle
        omega
      simpa using hfirst

namespace LineDecoder

theorem pushAll_of_acceptable {limit : Nat} {p : List UInt8} {chunks : List (List UInt8)}
    (hp : lineFeed ∉ p) (h : Acceptable limit (p ++ chunks.flatten)) :
    pushAll ⟨limit, p⟩ chunks =
      ((splitLines (p ++ chunks.flatten)).1.map lineText,
        .ok ⟨limit, (splitLines (p ++ chunks.flatten)).2⟩) := by
  induction chunks generalizing p with
  | nil => simp [pushAll, splitLines_of_not_mem hp]
  | cons chunk chunks ih =>
    rw [List.flatten_cons, ← List.append_assoc] at h ⊢
    have hpush := push_of_acceptable (d := ⟨limit, p⟩) h.of_append
    have hrest := ih (lineFeed_not_mem_tail (p ++ chunk)) (acceptable_append.mp h).2
    simp only [pushAll, hpush, hrest]
    rw [splitLines_append (p ++ chunk), List.map_append]

theorem pushAll_of_not_acceptable {limit : Nat} {p : List UInt8} {chunks : List (List UInt8)}
    (hp : lineFeed ∉ p) (hle : p.length ≤ limit) (h : ¬ Acceptable limit (p ++ chunks.flatten)) :
    (pushAll ⟨limit, p⟩ chunks).1 <+: (goodLines limit (p ++ chunks.flatten)).map lineText ∧
      ∃ e, (pushAll ⟨limit, p⟩ chunks).2 = .error e := by
  induction chunks generalizing p with
  | nil =>
    refine absurd ?_ h
    simpa [Acceptable, splitLines_of_not_mem hp] using hle
  | cons chunk chunks ih =>
    rw [List.flatten_cons, ← List.append_assoc] at h ⊢
    by_cases hchunk : Acceptable limit (p ++ chunk)
    · have hpush := push_of_acceptable (d := ⟨limit, p⟩) hchunk
      have hrest := ih (lineFeed_not_mem_tail (p ++ chunk)) hchunk.2
        fun hr => h (acceptable_append.mpr ⟨hchunk.1, hr⟩)
      simp only [pushAll, hpush]
      rw [goodLines_append hchunk, List.map_append]
      exact ⟨(List.prefix_append_right_inj _).mpr hrest.1, hrest.2⟩
    · obtain ⟨d', e, hpush⟩ := push_of_not_acceptable (d := ⟨limit, p⟩) hchunk
      simp only [pushAll, hpush]
      exact ⟨List.nil_prefix, e, rfl⟩

/-- Octet by octet, every line before the first that cannot be read is delivered. -/
theorem pushAll_singletons {limit : Nat} {p : List UInt8} (hp : lineFeed ∉ p) (bytes : List UInt8) :
    (pushAll ⟨limit, p⟩ (bytes.map fun b => [b])).1 =
      (goodLines limit (p ++ bytes)).map lineText := by
  induction bytes generalizing p with
  | nil => simp [pushAll, goodLines, splitLines_of_not_mem hp]
  | cons b bytes ih =>
    rw [List.map_cons]
    by_cases hoctet : Acceptable limit (p ++ [b])
    · have hpush := push_of_acceptable (d := ⟨limit, p⟩) hoctet
      have hrest := ih (lineFeed_not_mem_tail (p ++ [b]))
      simp only [pushAll, hpush, hrest]
      rw [List.append_cons p b bytes, goodLines_append hoctet, List.map_append]
    · obtain ⟨d', e, hpush⟩ := push_of_not_acceptable (d := ⟨limit, p⟩) hoctet
      simp only [pushAll, hpush]
      rw [goodLines_of_octet hp hoctet]
      rfl

theorem pushAll_eq_ok_iff {limit : Nat} {chunks : List (List UInt8)} {texts : List String}
    {d : LineDecoder} :
    pushAll (.empty limit) chunks = (texts, .ok d) ↔
      Acceptable limit chunks.flatten ∧ texts = (splitLines chunks.flatten).1.map lineText ∧
        d = ⟨limit, (splitLines chunks.flatten).2⟩ := by
  have hpush := @pushAll_of_acceptable limit [] chunks (by simp)
  have hfail := @pushAll_of_not_acceptable limit [] chunks (by simp) (Nat.zero_le _)
  rw [List.nil_append] at hpush hfail
  change pushAll ⟨limit, []⟩ chunks = _ ↔ _
  by_cases h : Acceptable limit chunks.flatten
  · simp only [hpush h, h, true_and, Prod.mk.injEq, Except.ok.injEq, eq_comm]
  · obtain ⟨e, he⟩ := (hfail h).2
    constructor
    · intro heq
      rw [heq] at he
      cases he
    · exact fun hok => absurd hok.1 h

end LineDecoder
end AnswerStream.Sse
