import AnswerStream.Proofs.Calendar.Reading
import AnswerStream.Thread.Basic

/-!
Threads by their time. An entry gives a record whenever its time is one of the calendar, be it
written with an offset or without one, and the record carries the instant that was written. A query
takes the record by the day of that instant in Greenwich, which the offset may have moved over the
end of a day, of a month or of a year.
-/

namespace AnswerStream
open Calendar (Date LocalTime Timestamp Zone)

namespace ThreadQuery

/-- The bounds of the query are days of the calendar. -/
structure Bounded (q : ThreadQuery) : Prop where
  first_proper : ∀ d ∈ q.first, d.Proper
  last_proper : ∀ d ∈ q.last, d.Proper

/-- The day is not before the first one of the query and not after the last one. -/
def Spans (q : ThreadQuery) (d : Date) : Prop :=
  (∀ first ∈ q.first, first.Upto d) ∧ ∀ last ∈ q.last, d.Upto last

theorem accepts_iff {q : ThreadQuery} (h : q.Bounded) (t : ThreadRecord) :
    q.accepts t = true ↔ q.Spans t.createdAt.date := by
  have hproper : t.createdAt.date.Proper := Date.proper_ofDays _
  have hfirst (d : Date) (hd : d ∈ q.first) : d.notAfter t.createdAt.date = true ↔
      d.Upto t.createdAt.date :=
    decide_eq_true_iff.trans ((h.first_proper d hd).toDays_le_iff hproper)
  have hlast (d : Date) (hd : d ∈ q.last) : t.createdAt.date.notAfter d = true ↔
      t.createdAt.date.Upto d :=
    decide_eq_true_iff.trans (hproper.toDays_le_iff (h.last_proper d hd))
  simp only [accepts, Bool.and_eq_true, Option.all_eq_true, Spans]
  exact and_congr (forall₂_congr hfirst) (forall₂_congr hlast)

end ThreadQuery

namespace ThreadEntry

/-- The two readers agree on a time of the calendar: the strict one takes it with an offset, the
plain one without. -/
theorem createdAt?_written {e : ThreadEntry} (l : LocalTime) (z : Zone) {before after : List Char}
    (hbefore : ∀ c ∈ before, Text.blank c = true) (hafter : ∀ c ∈ after, Text.blank c = true)
    (he : e.lastQuery = some (String.ofList (before ++ (l.chars ++ z.chars ++ after)))) :
    e.createdAt? = some (.ofNanos (l.instant - z.seconds * 10 ^ 9)) := by
  have hinstant := l.instant?_written z.seconds_bounds.1 z.seconds_bounds.2
  have hread : e.createdAt? = (Calendar.strict? (l.chars ++ z.chars)).orElse fun _ =>
      Calendar.plain? (l.chars ++ z.chars) := by
    rw [createdAt?, he]
    simp only [Option.bind_eq_bind, Option.bind_some, String.toList_ofList,
      Text.trimChars_of_inner hbefore (l.blank_of_mem_chars z) hafter]
    rfl
  by_cases hz : z = .unnamed
  · subst hz
    rw [hread, l.strict?_unnamed, Zone.chars, List.append_nil, l.plain?_chars]
    exact hinstant
  · rw [hread, l.strict?_named hz, hinstant]
    rfl

end ThreadEntry

namespace ThreadRecord

/-- A time of the calendar, blanks around it and an offset behind it or none, dates the record of
its entry, and queries take the record by the day of the instant. Days are counted one after the
other. -/
theorem ofEntry?_of_written {e : ThreadEntry} (l : LocalTime) (z : Zone) {before after : List Char}
    (hbefore : ∀ c ∈ before, Text.blank c = true) (hafter : ∀ c ∈ after, Text.blank c = true)
    (he : e.lastQuery = some (String.ofList (before ++ (l.chars ++ z.chars ++ after))))
    (baseUrl : String) :
    (∃ record date, ofEntry? baseUrl e = some record ∧ e.createdAt? = some record.createdAt ∧
      record.createdAt = .ofNanos (l.instant - z.seconds * 10 ^ 9) ∧
      date.Proper ∧ date.toDays = (l.instant - z.seconds * 10 ^ 9) / (86400 * 10 ^ 9) ∧
      ∀ q : ThreadQuery, q.Bounded → (q.accepts record = true ↔ q.Spans date)) ∧
    Date.toDays ⟨1970, 1, 1⟩ = 0 ∧
    ∀ d : Date, d.Proper → d.next.Proper ∧ d.next.toDays = d.toDays + 1 := by
  have h := e.createdAt?_written l z hbefore hafter he
  refine ⟨⟨_, _, congrArg (Option.map _) h, h, rfl, Date.proper_ofDays _, Date.toDays_ofDays _,
    fun q hq => ThreadQuery.accepts_iff hq _⟩, by decide, fun d hd => ⟨hd.next, hd.toDays_next⟩⟩

/-- Half an hour into March, an hour east of Greenwich, the leap day has not ended there. -/
theorem ofEntry?_of_written_leapDay :
    let e : ThreadEntry := ⟨"", "leap-day", some " 2024-03-01T00:30:00.25+01:00\n", false, none⟩
    ∃ record, ofEntry? "https://example.org/" e = some record ∧
      record.createdAt = ⟨19782, 84600, 250000000⟩ ∧
      (ThreadQuery.mk (some ⟨2024, 2, 29⟩) (some ⟨2024, 2, 29⟩) none).accepts record = true ∧
      (ThreadQuery.mk (some ⟨2024, 3, 1⟩) none none).accepts record = false := by
  intro e
  have hmarch : Date.Proper ⟨2024, 3, 1⟩ := by constructor <;> decide
  have hleapDay : Date.Proper ⟨2024, 2, 29⟩ := by constructor <;> decide
  let l : LocalTime :=
    ⟨⟨2024, 3, 1⟩, by constructor <;> decide, by decide, by decide, 0, 30, 0, [2, 5], by decide⟩
  have he : e.lastQuery =
      some (String.ofList ([' '] ++ (l.chars ++ (Zone.shifted false 1 0).chars ++ ['\n']))) := by
    decide +kernel
  obtain ⟨⟨record, date, hrecord, -, hcreated, hdate, hday, haccepts⟩, -⟩ :=
    ofEntry?_of_written l (.shifted false 1 0) (List.forall_mem_singleton.mpr rfl)
      (List.forall_mem_singleton.mpr rfl) he
      "https://example.org/"
  have hinstant : record.createdAt = ⟨19782, 84600, 250000000⟩ := hcreated.trans (by decide +kernel)
  have hsame : date = ⟨2024, 2, 29⟩ :=
    hdate.eq_of_toDays_eq hleapDay (hday.trans (by decide +kernel))
  subst hsame
  have hon : ThreadQuery.Bounded ⟨some ⟨2024, 2, 29⟩, some ⟨2024, 2, 29⟩, none⟩ :=
    ⟨fun _ => by rintro ⟨⟩; exact hleapDay, fun _ => by rintro ⟨⟩; exact hleapDay⟩
  have hfrom : ThreadQuery.Bounded ⟨some ⟨2024, 3, 1⟩, none, none⟩ :=
    ⟨fun _ => by rintro ⟨⟩; exact hmarch, nofun⟩
  refine ⟨record, hrecord, hinstant, (haccepts _ hon).mpr ?_, ?_⟩
  · constructor <;> rintro _ ⟨⟩ <;> decide
  · rw [← Bool.not_eq_true, haccepts _ hfrom]
    intro hspans
    exact absurd (hspans.1 _ rfl) (by decide)

end ThreadRecord
end AnswerStream
