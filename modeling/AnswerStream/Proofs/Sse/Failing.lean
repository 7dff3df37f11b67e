import AnswerStream.Proofs.Sse.Reporting

/-!
Decoders behind a failure. Octets at which a decoder stops still make it stop when more of them
follow, and for the same reason: a line that is ended stays as it is, and a line that is too long
only grows. So a decoder that has failed hands out nothing until it is finished. The finish empties
it, and then it answers like one that has never been used.
-/

namespace AnswerStream.Sse

/-- The reason that is reported for an offence. -/
def Offence.flaw (limit : Nat) : Offence → Flaw
  | .tooLong => .lineTooLong limit
  | .noText => .invalidUtf8

section
variable {limit : Nat} {buffer line after : List UInt8} {before : List (List UInt8)}
  {offence : Offence}

theorem Offends.not_acceptable (h : Offends limit buffer before line after offence) :
    ¬ Acceptable limit buffer := by
  intro hbuffer
  obtain ⟨hdivided, -, htail⟩ := divided_splitLines buffer
  have hlines : before = (splitLines buffer).1 := by
    rw [h.before_eq, goodLines, List.takeWhile_eq_self_iff]
    exact fun line hline => decide_eq_true (hbuffer.1 line hline)
  have hrest : line ++ after = (splitLines buffer).2 := by
    have hsplit := h.buffer_eq.symm.trans hdivided
    rw [hlines] at hsplit
    exact List.append_cancel_left hsplit
  rw [← hrest, List.mem_append, not_or] at htail
  have hafter : after = [] := by
    refine h.ended.resolve_right fun hhead => htail.2 ?_
    exact List.mem_of_head? hhead
  have hle : line.length ≤ limit := by
    have hlength := hbuffer.2
    rwa [← hrest, hafter, List.append_nil] at hlength
  cases offence with
  | tooLong => exact absurd (h.tooLong rfl) (Nat.not_lt.mpr hle)
  | noText => exact (h.noText rfl).2.1 hafter

theorem Offends.exists_append (h : Offends limit buffer before line after offence)
    (more : List UInt8) :
    ∃ line' after', Offends limit (buffer ++ more) before line' after' offence := by
  rcases h.ended with rfl | hended
  · have hlong (first : List UInt8) : limit < (line ++ first).length := by
      cases offence with
      | tooLong => exact (h.tooLong rfl).trans_le (by simp)
      | noText => exact absurd rfl (h.noText rfl).2.1
    have hkind : offence ≠ .noText := fun hno => (h.noText hno).2.1 rfl
    by_cases hmore : lineFeed ∈ more
    · obtain ⟨first, rest, rfl, hfirst⟩ := List.eq_append_cons_of_mem hmore
      refine ⟨line ++ first, lineFeed :: rest,
        ⟨?_, h.before_read, ?_, .inr rfl, fun _ => hlong first, fun hno => absurd hno hkind⟩⟩
      · rw [h.buffer_eq]
        simp
      · simp [h.unbroken, hfirst]
    · refine ⟨line ++ more, [],
        ⟨?_, h.before_read, ?_, .inl rfl, fun _ => hlong more, fun hno => absurd hno hkind⟩⟩
      · rw [h.buffer_eq]
        simp
      · simp [h.unbroken, hmore]
  · obtain ⟨rest, rfl⟩ := List.head?_eq_some_iff.mp hended
    refine ⟨line, lineFeed :: rest ++ more,
      ⟨?_, h.before_read, h.unbroken, .inr rfl, h.tooLong, fun hno => ?_⟩⟩
    · rw [h.buffer_eq]
      simp
    · obtain ⟨hle, -, htext⟩ := h.noText hno
      exact ⟨hle, List.cons_ne_nil _ _, htext⟩

end

namespace LineDecoder

/-- What is answered to some uses, one after another. -/
def answers (d : LineDecoder) : List Use → List (Except Failure (List String))
  | [] => []
  | u :: us => (d.use u).2 :: (d.use u).1.answers us

/-- A decoder holds octets at which it stops. -/
def Offended (d : LineDecoder) (offence : Offence) : Prop :=
  ∃ before line after, Offends d.limit d.pending before line after offence

variable {limit : Nat} {us : List Use} {d : LineDecoder} {chunk : List UInt8} {offence : Offence}

theorem push_of_offends {before : List (List UInt8)} {line after : List UInt8}
    (h : Offends d.limit (d.pending ++ chunk) before line after offence) :
    (∃ excerpt, (d.push chunk).2 = .error (.malformedFrame (offence.flaw d.limit) excerpt)) ∧
      (d.push chunk).1.Offended offence := by
  obtain ⟨e, he⟩ := push_fails_iff.mpr h.not_acceptable
  constructor
  · obtain ⟨_, _, _, _, hoffends, rfl⟩ := exists_offends_of_push he
    obtain ⟨rfl, rfl, rfl, rfl⟩ := h.unique hoffends
    rw [he]
    cases offence <;> exact ⟨_, rfl⟩
  · have hlimit : (d.push chunk).1.limit = d.limit := d.limit_use (.push chunk)
    rw [Offended, hlimit]
    by_cases hlines : ∀ line ∈ (splitLines (d.pending ++ chunk)).1, Readable d.limit line
    · have hlong : d.limit < (splitLines (d.pending ++ chunk)).2.length :=
        Nat.lt_of_not_le fun hle => h.not_acceptable ⟨hlines, hle⟩
      obtain ⟨-, -, -, rfl⟩ := h.unique (offends_tail hlines hlong)
      rw [pending_push_of_readable hlines]
      exact ⟨[], _, [], (List.append_nil _).symm, List.forall_mem_nil _, lineFeed_not_mem_tail _,
        .inl rfl, fun _ => hlong, by rintro ⟨⟩⟩
    · rw [pending_push_of_not_readable hlines]
      exact ⟨before, line, after, h⟩

theorem Offended.push (h : d.Offended offence) (chunk : List UInt8) :
    (∃ excerpt, (d.push chunk).2 = .error (.malformedFrame (offence.flaw d.limit) excerpt)) ∧
      (d.push chunk).1.Offended offence := by
  obtain ⟨before, line, after, hoffends⟩ := h
  obtain ⟨line', after', hoffends⟩ := hoffends.exists_append chunk
  exact push_of_offends hoffends

/-- An offence is reported by one push after another. -/
theorem Offended.answers (h : d.Offended offence) (chunks : List (List UInt8)) :
    ∀ answer ∈ d.answers (chunks.map .push),
      ∃ excerpt, answer = .error (.malformedFrame (offence.flaw d.limit) excerpt) := by
  induction chunks generalizing d with
  | nil => exact List.forall_mem_nil _
  | cons chunk chunks ih =>
    obtain ⟨hreport, hkept⟩ := h.push chunk
    have hlimit : (d.push chunk).1.limit = d.limit := d.limit_use (.push chunk)
    have hrest := ih hkept
    rw [hlimit] at hrest
    exact List.forall_mem_cons.mpr ⟨hreport, hrest⟩

theorem after_concat_finish : after limit (us ++ [.finish]) = empty limit := by
  have hlimit := limit_after limit (us ++ [.finish])
  have hpending := @pending_after_finish limit us
  generalize after limit (us ++ [.finish]) = d at hlimit hpending
  obtain ⟨limit', pending⟩ := d
  obtain rfl : limit' = limit := hlimit
  obtain rfl : pending = [] := hpending
  rfl

/-- Behind a failed push every push fails for the same reason, whatever the chunks are and however
many of them come, so that none of them hands out a line. Behind a finish all is answered as by a
fresh decoder. -/
theorem fails_until_finish {e : Failure} (h : ((after limit us).push chunk).2 = .error e) :
    (∃ flaw excerpt, e = .malformedFrame flaw excerpt ∧
      ∀ chunks : List (List UInt8),
        ∀ answer ∈ (after limit (us ++ [.push chunk])).answers (chunks.map .push),
        ∃ excerpt', answer = .error (.malformedFrame flaw excerpt')) ∧
    ∀ before later : List Use, (after limit (before ++ [.finish])).answers later =
      (empty limit).answers later := by
  constructor
  · obtain ⟨before, line, rest, offence, hoffends, -⟩ := exists_offends_of_push h
    obtain ⟨⟨excerpt, hreport⟩, hkept⟩ := push_of_offends hoffends
    refine ⟨_, excerpt, Except.error.inj (h.symm.trans hreport), fun chunks => ?_⟩
    have hlimit : ((after limit us).push chunk).1.limit = (after limit us).limit :=
      limit_use _ (.push chunk)
    have hanswers := hkept.answers chunks
    rw [hlimit] at hanswers
    rwa [after_concat, use]
  · intro before later
    rw [after_concat_finish]

/-- An open line grows too long. Nothing, a line feed with a good line behind it, and octets that
are no text are all refused because of that line, and so is the buffer at the finish; then the good
line is handed out. -/
theorem fails_until_finish_garbled :
    let opened : List Use := [.push (Utf8.encode "ab\ntoo")]
    let chunk : List UInt8 := Utf8.encode " long"
    let chunks : List (List UInt8) := [[], Utf8.encode "\nab\n", [0xFF, lineFeed]]
    let failed : List Use := opened ++ .push chunk :: chunks.map .push
    ((after 4 opened).push chunk).2 = .error (.malformedFrame (.lineTooLong 4) "too long") ∧
      (∀ answer ∈ (after 4 (opened ++ [.push chunk])).answers (chunks.map .push),
        ∃ excerpt, answer = .error (.malformedFrame (.lineTooLong 4) excerpt)) ∧
      ((after 4 failed).use .finish).2 =
      .error (.malformedFrame .invalidUtf8 "too long\nab\n\uFFFD\n") ∧
      (after 4 (failed ++ [.finish])).answers [.push (Utf8.encode "ab\n")] = [.ok ["ab"]] := by
  intro opened chunk chunks failed
  have hpush : ((after 4 opened).push chunk).2 =
      .error (.malformedFrame (.lineTooLong 4) "too long") := by
    decide +kernel
  obtain ⟨⟨flaw, excerpt, he, hfails⟩, hfresh⟩ := fails_until_finish hpush
  obtain ⟨rfl, -⟩ := Failure.malformedFrame.inj he
  refine ⟨hpush, hfails chunks, by decide +kernel, ?_⟩
  rw [hfresh failed]
  decide +kernel

end LineDecoder
end AnswerStream.Sse
