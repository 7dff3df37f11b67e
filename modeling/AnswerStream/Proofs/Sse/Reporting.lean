import AnswerStream.Proofs.Sse.Resuming
import AnswerStream.Proofs.Text.Lossy

/-!
What the report of a failed push shows. A push stops at the first line that is too long or carries
no text, and the report of a line without a text shows the start of that line. The report of a line
that is too long shows the start of what is buffered. That is the start of the line itself if the
line is not ended yet, since the lines before it are gone by then; a line that is ended still has
the lines before it in front of it, and its own line feed behind it.
-/

namespace AnswerStream.Sse

/-- Why a decoder stops at a line. Only a line that is ended has to carry a text. -/
inductive Offence
  | tooLong
  | noText
  deriving DecidableEq, Repr

/-- A decoder stops at a line of its buffer: it can read the lines before it, but not this one. What
follows the line starts with its line feed, or is nothing. -/
structure Offends (limit : Nat) (buffer : List UInt8) (before : List (List UInt8))
    (line after : List UInt8) (offence : Offence) : Prop where
  buffer_eq : buffer = before.flatMap (· ++ [lineFeed]) ++ (line ++ after)
  before_read : ∀ l ∈ before, lineFeed ∉ l ∧ l.length ≤ limit ∧ ∃ text, Carries l text
  unbroken : lineFeed ∉ line
  ended : after = [] ∨ after.head? = some lineFeed
  tooLong : offence = .tooLong → limit < line.length
  noText : offence = .noText → line.length ≤ limit ∧ after ≠ [] ∧ ∀ text, ¬ Carries line text

/-- An excerpt shows a line if it is read from its first octets, one at least. -/
def ShowsStart (line : List UInt8) (excerpt : String) : Prop :=
  ∃ n, 0 < n ∧ n ≤ line.length ∧ excerpt = Utf8.lossy (line.take n)

theorem lineFeed_mem_lossy_iff {bytes : List UInt8} :
    '\n' ∈ (Utf8.lossy bytes).toList ↔ lineFeed ∈ bytes :=
  Utf8.mem_lossy_iff (by decide) (by decide) (by decide)

theorem ShowsStart.unbroken {line : List UInt8} {excerpt : String} (hline : lineFeed ∉ line)
    (h : ShowsStart line excerpt) : '\n' ∉ excerpt.toList := by
  obtain ⟨n, -, -, rfl⟩ := h
  rw [lineFeed_mem_lossy_iff]
  exact fun hmem => hline (List.mem_of_mem_take hmem)

theorem showsStart_take {line : List UInt8} {n : Nat} (hpos : 0 < n) (hline : line ≠ []) :
    ShowsStart line (Utf8.lossy (line.take n)) := by
  have hlength := List.length_pos_iff.mpr hline
  refine ⟨min n line.length, by omega, by omega, ?_⟩
  rw [List.take_eq_take_min]

theorem offends_tail {limit : Nat} {buffer : List UInt8}
    (hlines : ∀ line ∈ (splitLines buffer).1, Readable limit line)
    (hlong : limit < (splitLines buffer).2.length) :
    Offends limit buffer (splitLines buffer).1 (splitLines buffer).2 [] .tooLong := by
  obtain ⟨hbuffer, hunbroken, htail⟩ := divided_splitLines buffer
  refine ⟨?_, fun l hl => ⟨hunbroken l hl, readable_iff.mp (hlines l hl)⟩, htail, .inl rfl,
    fun _ => hlong, by rintro ⟨⟩⟩
  rw [List.append_nil]
  exact hbuffer

namespace LineDecoder

/-- The report of a line that is too long, of which the head of some octets is shown. -/
def overlong (limit : Nat) (bytes : List UInt8) : Failure :=
  .malformedFrame (.lineTooLong limit) (Utf8.lossy (bytes.take headLength))

/-- The report of a line at which a decoder stops. The lines before it are still buffered with it if
it is ended. -/
def report (limit : Nat) (buffer line after : List UInt8) : Offence → Failure
  | .tooLong => overlong limit (if after = [] then line else buffer)
  | .noText => .malformed .invalidUtf8 (Utf8.lossy (dropReturn line))

/-- The head of the octets is short enough to be shown as a whole. -/
theorem excerpt_lossy_head (bytes : List UInt8) :
    Failure.excerpt (Utf8.lossy (bytes.take headLength)) = Utf8.lossy (bytes.take headLength) := by
  have hle := Utf8.length_lossy_le (bytes.take headLength)
  rw [List.length_take] at hle
  have hshort : (Utf8.lossy (bytes.take headLength)).toList.length ≤ Failure.excerptLimit := by
    rw [headLength] at hle ⊢
    rw [Failure.excerptLimit]
    omega
  rw [Failure.excerpt, List.take_of_length_le hshort, String.ofList_toList]

theorem checkLength_eq (limit : Nat) (buffer line : List UInt8) :
    checkLength limit buffer line =
      if line.length ≤ limit then .ok () else .error (overlong limit buffer) := by
  rw [checkLength, Failure.malformed, excerpt_lossy_head, overlong]

theorem decodeLine_eq_error {line : List UInt8} {e : Failure} (h : decodeLine line = .error e) :
    (∀ text, ¬ Carries line text) ∧ e = .malformed .invalidUtf8 (Utf8.lossy (dropReturn line)) := by
  refine ⟨decodeLine_eq_error_iff.mp ⟨e, h⟩, ?_⟩
  rw [decodeLine] at h
  split at h
  · cases h
  · exact (Except.error.inj h).symm

theorem exists_of_decodeLines_eq_error {limit : Nat} {buffer : List UInt8}
    {lines : List (List UInt8)} {e : Failure} (h : decodeLines limit buffer lines = .error e) :
    ∃ before line rest, lines = before ++ line :: rest ∧ (∀ l ∈ before, Readable limit l) ∧
      (limit < line.length ∧ e = overlong limit buffer ∨ line.length ≤ limit ∧
       decodeLine line = .error e) := by
  induction lines with
  | nil => cases h
  | cons line lines ih =>
    rw [decodeLines_cons, checkLength_eq] at h
    by_cases hlength : line.length ≤ limit
    · rw [if_pos hlength] at h
      cases hline : decodeLine line with
      | error e' =>
        rw [hline] at h
        obtain rfl := Except.error.inj h
        exact ⟨[], line, lines, rfl, List.forall_mem_nil _, .inr ⟨hlength, hline⟩⟩
      | ok text =>
        have hread : Readable limit line :=
          readable_iff.mpr ⟨hlength, text, decodeLine_eq_ok_iff.mp hline⟩
        cases hrest : decodeLines limit buffer lines with
        | error e' =>
          rw [hline, hrest] at h
          obtain rfl := Except.error.inj h
          obtain ⟨before, line', rest, rfl, hbefore, hend⟩ := ih hrest
          exact ⟨line :: before, line', rest, rfl, List.forall_mem_cons.mpr ⟨hread, hbefore⟩, hend⟩
        | ok texts =>
          rw [hline, hrest] at h
          cases h
    · rw [if_neg hlength] at h
      obtain rfl := Except.error.inj h
      exact ⟨[], line, lines, rfl, List.forall_mem_nil _, .inl ⟨Nat.lt_of_not_le hlength, rfl⟩⟩

/-- The report of a failed push: which line it stops at, and which octets are shown of it. -/
theorem exists_offends_of_push {d : LineDecoder} {chunk : List UInt8} {e : Failure}
    (h : (d.push chunk).2 = .error e) :
    ∃ before line after offence, Offends d.limit (d.pending ++ chunk) before line after offence ∧
      e = report d.limit (d.pending ++ chunk) line after offence := by
  obtain ⟨hbuffer, hlines, htail⟩ := divided_splitLines (d.pending ++ chunk)
  have hread {lines : List (List UInt8)} (hunbroken : ∀ l ∈ lines, lineFeed ∉ l)
      (hlines : ∀ l ∈ lines, Readable d.limit l) :
      ∀ l ∈ lines, lineFeed ∉ l ∧ l.length ≤ d.limit ∧ ∃ text, Carries l text :=
    fun l hl => ⟨hunbroken l hl, readable_iff.mp (hlines l hl)⟩
  simp only [push, checkLength_eq] at h
  split at h
  · next e' hdecode =>
    obtain rfl := Except.error.inj h
    obtain ⟨before, line, rest, hsplit, hbefore, hend⟩ := exists_of_decodeLines_eq_error hdecode
    rw [hsplit] at hbuffer hlines
    obtain ⟨hunbroken, hmore⟩ := List.forall_mem_append.mp hlines
    have hline := (List.forall_mem_cons.mp hmore).1
    let after := lineFeed :: (rest.flatMap (· ++ [lineFeed]) ++ (splitLines (d.pending ++ chunk)).2)
    have hafter : after ≠ [] := List.cons_ne_nil _ _
    have hbuffer' : d.pending ++ chunk = before.flatMap (· ++ [lineFeed]) ++ (line ++ after) := by
      conv_lhs => rw [hbuffer]
      simp [after]
    rcases hend with ⟨hlong, rfl⟩ | ⟨hshort, herror⟩
    · refine ⟨before, line, after, .tooLong,
        ⟨hbuffer', hread hunbroken hbefore, hline, .inr rfl, fun _ => hlong, by rintro ⟨⟩⟩, ?_⟩
      rw [report, if_neg hafter]
    · obtain ⟨hcarries, rfl⟩ := decodeLine_eq_error herror
      exact ⟨before, line, after, .noText,
        ⟨hbuffer', hread hunbroken hbefore, hline, .inr rfl, by rintro ⟨⟩,
         fun _ => ⟨hshort, hafter, hcarries⟩⟩, rfl⟩
  · next texts hdecode =>
    have hall : ∀ line ∈ (splitLines (d.pending ++ chunk)).1, Readable d.limit line := by
      by_contra hbad
      obtain ⟨e', he'⟩ := decodeLines_of_not_readable (d.pending ++ chunk) hbad
      rw [hdecode] at he'
      cases he'
    split_ifs at h with hshort
    obtain rfl := Except.error.inj h
    refine ⟨_, _, [], .tooLong, offends_tail hall (Nat.lt_of_not_le hshort), ?_⟩
    rw [report, if_pos rfl]

end LineDecoder

section
variable {limit : Nat} {buffer line after : List UInt8} {before : List (List UInt8)}
  {offence : Offence}

theorem Offends.exists_first (h : Offends limit buffer before line after offence)
    (hafter : after ≠ []) :
    ∃ first more, (before ++ [line]).head? = some first ∧ buffer = first ++ lineFeed :: more := by
  rw [h.buffer_eq]
  cases before with
  | nil =>
    obtain ⟨rest, hrest⟩ := List.head?_eq_some_iff.mp (h.ended.resolve_left hafter)
    exact ⟨line, rest, rfl, by rw [hrest]; rfl⟩
  | cons first before =>
    exact ⟨first, before.flatMap (· ++ [lineFeed]) ++ (line ++ after), rfl, by simp⟩

theorem Offends.before_eq (h : Offends limit buffer before line after offence) :
    before = goodLines limit buffer := by
  have hread : ∀ l ∈ before, Readable limit l := fun l hl => readable_iff.mpr (h.before_read l hl).2
  have hunbroken : ∀ l ∈ before, lineFeed ∉ l := fun l hl => (h.before_read l hl).1
  have hgood : ∀ l ∈ before, decide (Readable limit l) = true :=
    fun l hl => decide_eq_true (hread l hl)
  rcases h.ended with hafter | hafter
  · have hdivided : Divided buffer before line :=
      ⟨by rw [h.buffer_eq, hafter, List.append_nil], hunbroken, h.unbroken⟩
    rw [goodLines, hdivided.splitLines_eq, List.takeWhile_eq_self_iff.mpr hgood]
  · obtain ⟨rest, rfl⟩ := List.head?_eq_some_iff.mp hafter
    have hline : ¬ Readable limit line := by
      rw [readable_iff]
      rintro ⟨hle, text, htext⟩
      cases offence with
      | tooLong => exact absurd (h.tooLong rfl) (Nat.not_lt.mpr hle)
      | noText => exact (h.noText rfl).2.2 text htext
    obtain ⟨hrest, hlines, htail⟩ := divided_splitLines rest
    have hdivided : Divided buffer (before ++ line :: (splitLines rest).1) (splitLines rest).2 := by
      refine ⟨?_, List.forall_mem_append.mpr ⟨hunbroken,
        List.forall_mem_cons.mpr ⟨h.unbroken, hlines⟩⟩, htail⟩
      rw [h.buffer_eq]
      conv_lhs => rw [hrest]
      simp
    rw [goodLines, hdivided.splitLines_eq, List.takeWhile_append_of_pos hgood,
      List.takeWhile_cons_of_neg (by simpa using hline), List.append_nil]

theorem Offends.unique {before' : List (List UInt8)} {line' after' : List UInt8}
    {offence' : Offence} (h : Offends limit buffer before line after offence)
    (h' : Offends limit buffer before' line' after' offence') :
    before = before' ∧ line = line' ∧ after = after' ∧ offence = offence' := by
  have hbefore := h.before_eq.trans h'.before_eq.symm
  subst hbefore
  have hmore := List.append_cancel_left (h.buffer_eq.symm.trans h'.buffer_eq)
  have hstart {l a : List UInt8} (hl : lineFeed ∉ l) (ha : a = [] ∨ a.head? = some lineFeed) :
      (l ++ a).takeWhile (· ≠ lineFeed) = l := by
    have hopen : ∀ b ∈ l, decide (b ≠ lineFeed) = true :=
      fun b hb => decide_eq_true fun hfeed => hl (hfeed ▸ hb)
    rw [List.takeWhile_append_of_pos hopen]
    rcases ha with rfl | ha
    · exact List.append_nil l
    · obtain ⟨rest, rfl⟩ := List.head?_eq_some_iff.mp ha
      simp
  have hline : line = line' := by
    rw [← hstart h.unbroken h.ended, hmore, hstart h'.unbroken h'.ended]
  subst hline
  refine ⟨rfl, rfl, List.append_cancel_left hmore, ?_⟩
  cases offence <;> cases offence'
  · rfl
  · exact absurd (h.tooLong rfl) (Nat.not_lt.mpr (h'.noText rfl).1)
  · exact absurd (h'.tooLong rfl) (Nat.not_lt.mpr (h.noText rfl).1)
  · rfl

/-- The head of the buffer shows a line that is ended just if it is the head of the first line
buffered, and reads as the start of this one. -/
theorem Offends.showsStart_head_iff (h : Offends limit buffer before line after offence)
    (hafter : after ≠ []) {n : Nat} :
    ShowsStart line (Utf8.lossy (buffer.take n)) ↔
      ∃ first ∈ (before ++ [line]).head?, n ≤ first.length ∧
        ShowsStart line (Utf8.lossy (first.take n)) := by
  obtain ⟨first, more, hfirst, rfl⟩ := h.exists_first hafter
  simp only [hfirst, Option.mem_def, Option.some.injEq, exists_eq_left']
  by_cases hlength : n ≤ first.length
  · rw [List.take_append_of_le_length hlength, and_iff_right hlength]
  · refine iff_of_false (fun hshows => ?_) (fun hshows => hlength hshows.1)
    apply hshows.unbroken h.unbroken
    obtain ⟨k, hk⟩ := Nat.exists_eq_add_of_lt (Nat.lt_of_not_le hlength)
    rw [lineFeed_mem_lossy_iff, hk, Nat.add_assoc, List.take_length_add_append, List.take_succ_cons]
    exact List.mem_append_right _ List.mem_cons_self

end

namespace LineDecoder

/-- A push that fails stops at a line that is too long or carries no text. The excerpt of a line
without a text is the first hundred characters of that line. The excerpt of a line that is too long
shows it if the line is not ended. If it is ended, the excerpt shows it only if the first line
buffered fills the head of the buffer and reads as the start of this one, as it does if it is this
one. -/
theorem reported_of_push {d : LineDecoder} {chunk : List UInt8} {e : Failure}
    (h : (d.push chunk).2 = .error e) :
    ∃ before line after offence, Offends d.limit (d.pending ++ chunk) before line after offence ∧
      (offence = .tooLong → ∃ excerpt, e = .malformedFrame (.lineTooLong d.limit) excerpt ∧
        (ShowsStart line excerpt ↔ after = [] ∨ ∃ first ∈ (before ++ [line]).head?,
          headLength ≤ first.length ∧ ShowsStart line (Utf8.lossy (first.take headLength)))) ∧
      (offence = .noText → e = .malformedFrame .invalidUtf8
        (String.ofList ((Utf8.lossy (dropReturn line)).toList.take 100))) := by
  obtain ⟨before, line, after, offence, hoffends, rfl⟩ := exists_offends_of_push h
  refine ⟨before, line, after, offence, hoffends, ?_, ?_⟩
  · rintro rfl
    refine ⟨_, rfl, ?_⟩
    by_cases hafter : after = []
    · have hline : line ≠ [] := by
        rintro rfl
        exact absurd (hoffends.tooLong rfl) (Nat.not_lt_zero _)
      rw [if_pos hafter]
      exact iff_of_true (showsStart_take (by decide) hline) (.inl hafter)
    · rw [if_neg hafter, or_iff_right hafter]
      exact hoffends.showsStart_head_iff hafter
  · rintro rfl
    rfl

theorem offends_late {line after : List UInt8} {offence : Offence} (hline : lineFeed ∉ line)
    (hafter : after = [] ∨ after.head? = some lineFeed)
    (hlong : offence = .tooLong → 8 < line.length)
    (htext : offence = .noText → line.length ≤ 8 ∧ after ≠ [] ∧ ∀ text, ¬ Carries line text) :
    Offends 8 (Utf8.encode "data: x\n" ++ (line ++ after))
      [Utf8.encode "data: x"] line after offence :=
  { buffer_eq := congrArg (· ++ (line ++ after)) (by decide +kernel)
    before_read := List.forall_mem_singleton.mpr
      ⟨by decide +kernel, by decide +kernel, "data: x", .inr ⟨rfl, by decide +kernel⟩⟩
    unbroken := hline
    ended := hafter
    tooLong := hlong
    noText := htext }

/-- A line that is too long and ended, the same line not ended yet, and a line that is no text, each
behind a good line. -/
theorem reported_of_push_late :
    let good : List UInt8 := Utf8.encode "data: x\n"
    let line : List UInt8 := Utf8.encode "data: too long"
    let garbled : List UInt8 := [0x61, 0xFF, carriageReturn]
    (((empty 8).push (good ++ (line ++ [lineFeed]))).2 =
        .error (.malformedFrame (.lineTooLong 8) "data: x\ndata: too long\n") ∧
      ¬ ShowsStart line "data: x\ndata: too long\n") ∧
    (((empty 8).push (good ++ (line ++ []))).2 =
     .error (.malformedFrame (.lineTooLong 8) "data: too long") ∧
      ShowsStart line "data: too long") ∧
    ((empty 8).push (good ++ (garbled ++ [lineFeed]))).2 =
    .error (.malformedFrame .invalidUtf8 "a\uFFFD") := by
  intro good line garbled
  have hline : lineFeed ∉ line := by decide +kernel
  have hlong : 8 < line.length := by decide +kernel
  have hended : ((empty 8).push (good ++ (line ++ [lineFeed]))).2 =
      .error (.malformedFrame (.lineTooLong 8) "data: x\ndata: too long\n") := by decide +kernel
  have hopen : ((empty 8).push (good ++ (line ++ []))).2 =
      .error (.malformedFrame (.lineTooLong 8) "data: too long") := by decide +kernel
  have hstops (after : List UInt8) (hafter : after = [] ∨ after.head? = some lineFeed) :
      Offends 8 (good ++ (line ++ after)) [Utf8.encode "data: x"] line after .tooLong :=
    offends_late hline hafter (fun _ => hlong) nofun
  refine ⟨⟨hended, fun hshows => ?_⟩, ⟨hopen, ?_⟩, ?_⟩
  · obtain ⟨_, _, _, _, hoffends, hshown, -⟩ := reported_of_push hended
    obtain ⟨rfl, rfl, rfl, rfl⟩ := hoffends.unique (hstops _ (.inr rfl))
    obtain ⟨excerpt, hexcerpt, hiff⟩ := hshown rfl
    cases hexcerpt
    obtain hnil | ⟨first, ⟨⟩, hfirst, -⟩ := hiff.mp hshows
    · cases hnil
    · exact absurd hfirst (by decide +kernel)
  · obtain ⟨_, _, _, _, hoffends, hshown, -⟩ := reported_of_push hopen
    obtain ⟨rfl, rfl, rfl, rfl⟩ := hoffends.unique (hstops _ (.inl rfl))
    obtain ⟨excerpt, hexcerpt, hiff⟩ := hshown rfl
    cases hexcerpt
    exact hiff.mpr (.inl rfl)
  · have hcarries : ∀ text, ¬ Carries garbled text :=
      decodeLine_eq_error_iff.mp ⟨.malformedFrame .invalidUtf8 "a\uFFFD", by decide +kernel⟩
    have hgarbled : Offends 8 (good ++ (garbled ++ [lineFeed])) _ garbled [lineFeed] .noText :=
      offends_late (by decide) (.inr rfl) nofun fun _ => ⟨by decide, List.cons_ne_nil _ _, hcarries⟩
    have hrefused : ¬ Acceptable 8 (good ++ (garbled ++ [lineFeed])) := by
      rw [Acceptable]
      decide +kernel
    obtain ⟨e, he⟩ := (push_fails_iff (d := empty 8)).mpr hrefused
    obtain ⟨_, _, _, _, hoffends, -, hshown⟩ := reported_of_push he
    obtain ⟨rfl, rfl, rfl, rfl⟩ := hoffends.unique hgarbled
    have hexcerpt : String.ofList ((Utf8.lossy (dropReturn garbled)).toList.take 100) =
        "a\uFFFD" := by decide +kernel
    have hreport := hshown rfl
    rw [hexcerpt] at hreport
    exact he.trans (congrArg Except.error hreport)

/-- The report of a line that is too long may show an innocent line in front of it. -/
theorem not_always_shown :
    ¬ ∀ limit chunk excerpt,
      ((empty limit).push chunk).2 = .error (.malformedFrame (.lineTooLong limit) excerpt) →
        ∃ before line after, Offends limit chunk before line after .tooLong ∧
          ShowsStart line excerpt := by
  intro h
  have hpush : ((empty 8).push (Utf8.encode "data: x\ndata: too long\n")).2 =
      .error (.malformedFrame (.lineTooLong 8) "data: x\ndata: too long\n") := by decide +kernel
  obtain ⟨before, line, after, hoffends, hshows⟩ := h 8 _ _ hpush
  exact hshows.unbroken hoffends.unbroken (by decide +kernel)

end LineDecoder
end AnswerStream.Sse
