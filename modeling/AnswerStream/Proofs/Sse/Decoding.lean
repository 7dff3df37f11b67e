import AnswerStream.Proofs.Sse.Lines
import AnswerStream.Proofs.Text.Encoding
import Mathlib.Data.List.Forall2

/-!
What a line decoder makes of a body, stated on the octets alone. A body divides into lines at its
line feeds, and a line carries a text with or without a carriage return behind it. The decoder takes
just the bodies whose lines are short enough and carry texts, and hands out these texts, wherever
the chunks are cut.
-/

namespace AnswerStream.Sse

/-- Octets as lines, each ended by a line feed, and an open tail. -/
structure Divided (bytes : List UInt8) (lines : List (List UInt8)) (tail : List UInt8) : Prop where
  bytes_eq : bytes = lines.flatMap (· ++ [lineFeed]) ++ tail
  lines_unbroken : ∀ line ∈ lines, lineFeed ∉ line
  tail_unbroken : lineFeed ∉ tail

/-- A line is a text and one carriage return, or a text that no carriage return ends. -/
def Carries (line : List UInt8) (text : String) : Prop :=
  line = Utf8.encode text ++ [carriageReturn] ∨
    line = Utf8.encode text ∧ line.getLast? ≠ some carriageReturn

theorem Divided.splitLines_eq {bytes tail : List UInt8} {lines : List (List UInt8)}
    (h : Divided bytes lines tail) : splitLines bytes = (lines, tail) := by
  obtain ⟨rfl, hlines, htail⟩ := h
  induction lines with
  | nil => exact splitLines_of_not_mem htail
  | cons line lines ih =>
    obtain ⟨hline, hlines⟩ := List.forall_mem_cons.mp hlines
    rw [List.flatMap_cons, List.append_assoc, List.append_assoc, List.singleton_append,
      splitLines_line hline, ih hlines]

theorem divided_splitLines (bytes : List UInt8) :
    Divided bytes (splitLines bytes).1 (splitLines bytes).2 := by
  induction hlength : bytes.length using Nat.strong_induction_on generalizing bytes with
  | _ length ih =>
    by_cases h : lineFeed ∈ bytes
    · obtain ⟨line, rest, rfl, hline⟩ := List.eq_append_cons_of_mem h
      have hshorter : rest.length < length := by
        rw [← hlength, List.length_append, List.length_cons]
        omega
      obtain ⟨hbytes, hlines, htail⟩ := ih _ hshorter rest rfl
      rw [splitLines_line hline]
      refine ⟨?_, List.forall_mem_cons.mpr ⟨hline, hlines⟩, htail⟩
      conv_lhs => rw [hbytes]
      simp
    · rw [splitLines_of_not_mem h]
      exact ⟨rfl, by simp, h⟩

theorem divided_iff {bytes tail : List UInt8} {lines : List (List UInt8)} :
    Divided bytes lines tail ↔ splitLines bytes = (lines, tail) := by
  refine ⟨Divided.splitLines_eq, fun h => ?_⟩
  have hdivided := divided_splitLines bytes
  rwa [h] at hdivided

theorem dropReturn_eq_encode_iff {line : List UInt8} {text : String} :
    dropReturn line = Utf8.encode text ↔ Carries line text := by
  by_cases h : line.getLast? = some carriageReturn
  · obtain ⟨init, rfl⟩ := List.getLast?_eq_some_iff.mp h
    simp [dropReturn, Carries]
  · have hplain : line ≠ Utf8.encode text ++ [carriageReturn] := by
      rintro rfl
      exact h List.getLast?_concat
    simp [dropReturn, Carries, h, hplain]

theorem decodeLine_eq_ok_iff {line : List UInt8} {text : String} :
    decodeLine line = .ok text ↔ Carries line text := by
  rw [← dropReturn_eq_encode_iff, ← Utf8.decode?_eq_some_iff, decodeLine]
  cases Utf8.decode? (dropReturn line) with
  | none => simp
  | some s => simp

theorem decodeLine_eq_error_iff {line : List UInt8} :
    (∃ e, decodeLine line = .error e) ↔ ∀ text, ¬ Carries line text := by
  simp only [← decodeLine_eq_ok_iff]
  cases decodeLine line with
  | error e => simp
  | ok text => simp

theorem readable_iff {limit : Nat} {line : List UInt8} :
    Readable limit line ↔ line.length ≤ limit ∧ ∃ text, Carries line text := by
  simp only [Readable, Option.isSome_iff_exists, Utf8.decode?_eq_some_iff, dropReturn_eq_encode_iff]

theorem carries_lineText {limit : Nat} {line : List UInt8} (h : Readable limit line) :
    Carries line (lineText line) :=
  decodeLine_eq_ok_iff.mp (decodeLine_of_readable h)

theorem acceptable_iff {limit : Nat} {bytes tail : List UInt8} {lines : List (List UInt8)}
    (h : Divided bytes lines tail) :
    Acceptable limit bytes ↔
      (∀ line ∈ lines, line.length ≤ limit ∧ ∃ text, Carries line text) ∧ tail.length ≤ limit := by
  simp only [Acceptable, h.splitLines_eq, readable_iff]

namespace LineDecoder

theorem finish_of_idle {d : LineDecoder} (h : d.pending = []) : d.finish.2 = .ok none := by
  simp [finish, h]

theorem finish_of_pending {d : LineDecoder} (h : d.pending ≠ []) :
    d.finish.2 = (decodeLine d.pending).map some := by
  simp [finish, h]

theorem finish_eq_none_iff {d : LineDecoder} : d.finish.2 = .ok none ↔ d.pending = [] := by
  refine ⟨fun hfinish => ?_, finish_of_idle⟩
  by_contra h
  rw [finish_of_pending h] at hfinish
  cases hline : decodeLine d.pending <;> simp [hline, Except.map] at hfinish

theorem finish_eq_some_iff {d : LineDecoder} {text : String} :
    d.finish.2 = .ok (some text) ↔ d.pending ≠ [] ∧ Carries d.pending text := by
  rw [← decodeLine_eq_ok_iff]
  by_cases h : d.pending = []
  · simp [finish_of_idle h, h]
  · rw [finish_of_pending h]
    cases decodeLine d.pending <;> simp [Except.map, h]

theorem finish_eq_error_iff {d : LineDecoder} :
    (∃ e, d.finish.2 = .error e) ↔ d.pending ≠ [] ∧ ∀ text, ¬ Carries d.pending text := by
  rw [← decodeLine_eq_error_iff]
  by_cases h : d.pending = []
  · simp [finish_of_idle h, h]
  · rw [finish_of_pending h]
    cases decodeLine d.pending <;> simp [Except.map, h]

/-- All pushes succeed just if no line and no tail is longer than the limit and every line carries a
text. They then hand out these texts in order, and the end hands out what the tail carries, nothing
of an empty one. -/
theorem pushAll_of_divided {limit : Nat} {chunks lines : List (List UInt8)} {tail : List UInt8}
    (h : Divided chunks.flatten lines tail) :
    ((∃ d, (pushAll (.empty limit) chunks).2 = .ok d) ↔
      (∀ line ∈ lines, line.length ≤ limit ∧ ∃ text, Carries line text) ∧ tail.length ≤ limit) ∧
    ∀ texts d, pushAll (.empty limit) chunks = (texts, .ok d) →
      List.Forall₂ Carries lines texts ∧
      (d.finish.2 = .ok none ↔ tail = []) ∧
      (∀ text, d.finish.2 = .ok (some text) ↔ tail ≠ [] ∧ Carries tail text) ∧
      ((∃ e, d.finish.2 = .error e) ↔ tail ≠ [] ∧ ∀ text, ¬ Carries tail text) := by
  have hresult (texts : List String) (d : LineDecoder) :=
    @pushAll_eq_ok_iff limit chunks texts d
  rw [acceptable_iff h, h.splitLines_eq] at hresult
  constructor
  · constructor
    · rintro ⟨d, hd⟩
      exact ((hresult _ d).mp (Prod.ext rfl hd)).1
    · intro hgood
      exact ⟨_, congrArg Prod.snd ((hresult _ _).mpr ⟨hgood, rfl, rfl⟩)⟩
  · intro texts d hpush
    obtain ⟨⟨hlines, -⟩, rfl, rfl⟩ := (hresult texts d).mp hpush
    have htexts : List.Forall₂ Carries lines (lines.map lineText) := by
      rw [List.forall₂_map_right_iff, List.forall₂_same]
      exact fun line hline => carries_lineText (readable_iff.mpr (hlines line hline))
    exact ⟨htexts, finish_eq_none_iff, fun _ => finish_eq_some_iff, finish_eq_error_iff⟩

/-- A character and a line end that are cut, and a line of just as many octets as are allowed. -/
theorem pushAll_of_divided_cut :
    let line : List UInt8 := Utf8.encode "data: café\r"
    let tail : List UInt8 := Utf8.encode "end\r"
    let chunks : List (List UInt8) :=
      [line.take 10, line.drop 10, lineFeed :: Utf8.encode "x\r\r\n", tail]
    Divided chunks.flatten [line, Utf8.encode "x\r\r"] tail ∧
      (∃ d, pushAll (.empty 12) chunks = (["data: café", "x\r"], .ok d) ∧
        d.finish.2 = .ok (some "end")) ∧
      ¬ ∃ d, (pushAll (.empty 11) chunks).2 = .ok d := by
  intro line tail chunks
  have hdivided : Divided chunks.flatten [line, Utf8.encode "x\r\r"] tail :=
    divided_iff.mpr (by decide +kernel)
  have hline : Carries line "data: café" := .inl (by decide +kernel)
  have hreturn : Carries (Utf8.encode "x\r\r") "x\r" := .inl (by decide +kernel)
  have htail : Carries tail "end" := .inl (by decide +kernel)
  have hlengths : line.length = 12 ∧ (Utf8.encode "x\r\r").length = 3 ∧ tail.length = 4 := by
    decide +kernel
  obtain ⟨hline12, hreturn3, htail4⟩ := hlengths
  obtain ⟨hlong, hall⟩ := @pushAll_of_divided 12 _ _ _ hdivided
  obtain ⟨hshort, -⟩ := @pushAll_of_divided 11 _ _ _ hdivided
  have hgood : ∀ l ∈ [line, Utf8.encode "x\r\r"], l.length ≤ 12 ∧ ∃ text, Carries l text := by
    simp only [List.forall_mem_cons]
    exact ⟨⟨by omega, _, hline⟩, ⟨by omega, _, hreturn⟩, by simp⟩
  obtain ⟨d, hd⟩ := hlong.mpr ⟨hgood, by omega⟩
  have htexts : (pushAll (.empty 12) chunks).1 = ["data: café", "x\r"] := by decide +kernel
  have hpush : pushAll (.empty 12) chunks = (["data: café", "x\r"], .ok d) := Prod.ext htexts hd
  obtain ⟨-, -, hfinish, -⟩ := hall _ d hpush
  refine ⟨hdivided, ⟨d, hpush, (hfinish "end").mpr ⟨by decide +kernel, htail⟩⟩, fun hd => ?_⟩
  have hlength := ((hshort.mp hd).1 line (by simp)).1
  omega

end LineDecoder
end AnswerStream.Sse
