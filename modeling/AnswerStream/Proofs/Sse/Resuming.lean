import AnswerStream.Proofs.Sse.Decoding
import Mathlib.Data.List.Induction

/-!
Decoders that go on being used, behind their failures too. Whatever has happened before, a push
hands out only lines that fit: they hold no line feed, and they are not too long. A finish does so
unless a push has failed since the last finish. What that push could not take is then still
buffered, and the finish looks neither at the line feeds in it nor at its length.
-/

namespace AnswerStream.Sse

/-- A line as a decoder should hand it out. -/
def Fits (limit : Nat) (text : String) : Prop :=
  '\n' ∉ text.toList ∧ (Utf8.encode text).length ≤ limit

instance (limit : Nat) (text : String) : Decidable (Fits limit text) :=
  inferInstanceAs (Decidable (_ ∧ _))

theorem lineFeed_mem_encode_iff {text : String} :
    lineFeed ∈ Utf8.encode text ↔ '\n' ∈ text.toList :=
  Utf8.mem_encode_iff (by decide) (by decide)

theorem fits_of_carries {limit : Nat} {line : List UInt8} {text : String} (hopen : lineFeed ∉ line)
    (hle : line.length ≤ limit) (h : Carries line text) : Fits limit text := by
  rw [Fits, ← lineFeed_mem_encode_iff]
  rcases h with rfl | ⟨rfl, -⟩
  · rw [List.length_append] at hle
    exact ⟨fun hmem => hopen (List.mem_append_left _ hmem), by omega⟩
  · exact ⟨hopen, hle⟩

theorem acceptable_of_open_iff {limit : Nat} {bytes : List UInt8} (h : lineFeed ∉ bytes) :
    Acceptable limit bytes ↔ bytes.length ≤ limit := by
  simp [Acceptable, splitLines_of_not_mem h]

/-- Octets that a push could not take carry a line that fits only if the carriage return behind it
is what makes them too many. -/
theorem fits_iff_of_not_acceptable {limit : Nat} {bytes : List UInt8} {text : String}
    (hbytes : ¬ Acceptable limit bytes) (h : Carries bytes text) :
    Fits limit text ↔ '\n' ∉ text.toList ∧ (Utf8.encode text).length = limit ∧
      bytes = Utf8.encode text ++ [carriageReturn] := by
  constructor
  · rintro ⟨hopen, hle⟩
    rw [← lineFeed_mem_encode_iff] at hopen
    rcases h with hreturn | ⟨hplain, -⟩
    · have hunbroken : lineFeed ∉ bytes := by
        rw [hreturn, List.mem_append, List.mem_singleton]
        exact not_or.mpr ⟨hopen, by decide⟩
      have hlong : limit < bytes.length := by
        rw [acceptable_of_open_iff hunbroken] at hbytes
        omega
      rw [hreturn, List.length_append, List.length_singleton] at hlong
      exact ⟨lineFeed_mem_encode_iff.not.mp hopen, by omega, hreturn⟩
    · rw [← hplain] at hopen hle
      exact absurd ((acceptable_of_open_iff hopen).mpr hle) hbytes
  · rintro ⟨hopen, hlength, -⟩
    exact ⟨hopen, hlength.le⟩

namespace LineDecoder

/-- What is done to a decoder. -/
inductive Use
  | push (chunk : List UInt8)
  | finish
  deriving DecidableEq, Repr

/-- The decoder behind a use, and the lines that the use hands out. -/
def use (d : LineDecoder) : Use → LineDecoder × Except Failure (List String)
  | .push chunk => d.push chunk
  | .finish => (d.finish.1, d.finish.2.map Option.toList)

/-- A decoder behind some uses, whatever has come of them. -/
def after (limit : Nat) (us : List Use) : LineDecoder :=
  us.foldl (fun d u => (d.use u).1) (.empty limit)

/-- A push has failed, and nothing has been finished since. -/
def Stuck (limit : Nat) (us : List Use) : Prop :=
  ∃ before chunk later, us = before ++ .push chunk :: later ∧ .finish ∉ later ∧
    ∃ e, ((after limit before).push chunk).2 = .error e

variable {limit : Nat} {us : List Use}

theorem after_concat (u : Use) : after limit (us ++ [u]) = ((after limit us).use u).1 := by
  simp [after]

theorem push_eq_ok {d : LineDecoder} {chunk : List UInt8} {texts : List String}
    (h : (d.push chunk).2 = .ok texts) :
    Acceptable d.limit (d.pending ++ chunk) ∧
      texts = (splitLines (d.pending ++ chunk)).1.map lineText := by
  by_cases hchunk : Acceptable d.limit (d.pending ++ chunk)
  · rw [push_of_acceptable hchunk] at h
    exact ⟨hchunk, (Except.ok.inj h).symm⟩
  · obtain ⟨d', e, hpush⟩ := push_of_not_acceptable hchunk
    rw [hpush] at h
    cases h

theorem push_fails_iff {d : LineDecoder} {chunk : List UInt8} :
    (∃ e, (d.push chunk).2 = .error e) ↔ ¬ Acceptable d.limit (d.pending ++ chunk) := by
  constructor
  · rintro ⟨e, he⟩ hchunk
    rw [push_of_acceptable hchunk] at he
    cases he
  · intro hchunk
    obtain ⟨d', e, hpush⟩ := push_of_not_acceptable hchunk
    exact ⟨e, by rw [hpush]⟩

theorem pending_push_of_readable {d : LineDecoder} {chunk : List UInt8}
    (hlines : ∀ line ∈ (splitLines (d.pending ++ chunk)).1, Readable d.limit line) :
    (d.push chunk).1.pending = (splitLines (d.pending ++ chunk)).2 := by
  simp only [push, decodeLines_of_readable _ hlines]
  split <;> rfl

theorem pending_push_of_not_readable {d : LineDecoder} {chunk : List UInt8}
    (hlines : ¬ ∀ line ∈ (splitLines (d.pending ++ chunk)).1, Readable d.limit line) :
    (d.push chunk).1.pending = d.pending ++ chunk := by
  obtain ⟨e, he⟩ := decodeLines_of_not_readable (d.pending ++ chunk) hlines
  simp only [push, he]

/-- What a push could not take is kept in part, and the part is as bad as the whole. -/
theorem acceptable_pending_push_iff {d : LineDecoder} {chunk : List UInt8} :
    Acceptable d.limit (d.push chunk).1.pending ↔ Acceptable d.limit (d.pending ++ chunk) := by
  by_cases hlines : ∀ line ∈ (splitLines (d.pending ++ chunk)).1, Readable d.limit line
  · rw [pending_push_of_readable hlines, acceptable_of_open_iff (lineFeed_not_mem_tail _)]
    exact ⟨fun htail => ⟨hlines, htail⟩, And.right⟩
  · rw [pending_push_of_not_readable hlines]

theorem finish_of_mem {d : LineDecoder} {texts : List String} {text : String}
    (h : (d.use .finish).2 = .ok texts) (htext : text ∈ texts) :
    texts = [text] ∧ d.finish.2 = .ok (some text) := by
  rw [use] at h
  cases hfinish : d.finish.2 with
  | error e => simp [hfinish, Except.map] at h
  | ok rest =>
    rw [hfinish] at h
    obtain rfl : rest.toList = texts := Except.ok.inj h
    obtain rfl := Option.mem_toList.mp htext
    exact ⟨rfl, rfl⟩

theorem limit_use (d : LineDecoder) (u : Use) : (d.use u).1.limit = d.limit := by
  cases u with
  | push chunk =>
    simp only [use, push]
    split
    · rfl
    · split <;> rfl
  | finish =>
    simp only [use, finish]
    split <;> rfl

theorem limit_after (limit : Nat) (us : List Use) : (after limit us).limit = limit := by
  induction us using List.reverseRecOn with
  | nil => rfl
  | append_singleton us u ih => rw [after_concat, limit_use, ih]

theorem stuck_concat_iff {u : Use} :
    Stuck limit (us ++ [u]) ↔
      u ≠ .finish ∧ (Stuck limit us ∨
        ∃ chunk, u = .push chunk ∧ ∃ e, ((after limit us).push chunk).2 = .error e) := by
  constructor
  · rintro ⟨before, chunk, later, hus, hlater, he⟩
    obtain rfl | ⟨later, v, rfl⟩ := List.eq_nil_or_concat later
    · obtain ⟨rfl, hlast⟩ := List.append_inj' hus rfl
      obtain rfl := List.singleton_inj.mp hlast
      exact ⟨nofun, .inr ⟨chunk, rfl, he⟩⟩
    · rw [List.concat_eq_append] at hus hlater
      rw [← List.cons_append, ← List.append_assoc] at hus
      obtain ⟨rfl, hlast⟩ := List.append_inj' hus rfl
      obtain rfl := List.singleton_inj.mp hlast
      obtain ⟨hlater, hu⟩ := not_or.mp (List.mem_append.not.mp hlater)
      exact ⟨fun h => hu (List.mem_singleton.mpr h.symm),
        .inl ⟨before, chunk, later, rfl, hlater, he⟩⟩
  · rintro ⟨hu, ⟨before, chunk, later, rfl, hlater, he⟩ | ⟨chunk, rfl, he⟩⟩
    · refine ⟨before, chunk, later ++ [u], by simp, ?_, he⟩
      simpa using ⟨hlater, hu.symm⟩
    · exact ⟨us, chunk, [], rfl, List.not_mem_nil, he⟩

theorem stuck_concat_push_iff {chunk : List UInt8} :
    Stuck limit (us ++ [.push chunk]) ↔
      Stuck limit us ∨ ∃ e, ((after limit us).push chunk).2 = .error e := by
  simp [stuck_concat_iff]

theorem not_stuck_concat_finish : ¬ Stuck limit (us ++ [.finish]) := by
  rw [stuck_concat_iff]
  exact fun h => h.1 rfl

theorem pending_after_finish : (after limit (us ++ [.finish])).pending = [] := by
  rw [after_concat]
  simp only [use, finish]
  split
  · next hempty => exact List.isEmpty_iff.mp hempty
  · rfl

/-- A decoder is stuck just if it holds octets that no push could have left without failing. -/
theorem stuck_iff : Stuck limit us ↔ ¬ Acceptable limit (after limit us).pending := by
  induction us using List.reverseRecOn with
  | nil =>
    have hempty : Acceptable limit (after limit []).pending :=
      (acceptable_of_open_iff List.not_mem_nil).mpr (Nat.zero_le limit)
    refine iff_of_false ?_ (not_not.mpr hempty)
    rintro ⟨before, chunk, later, hus, -⟩
    simp at hus
  | append_singleton us u ih =>
    cases u with
    | push chunk =>
      have hpush := @acceptable_pending_push_iff (after limit us) chunk
      have hfails := @push_fails_iff (after limit us) chunk
      rw [limit_after] at hpush hfails
      rw [stuck_concat_push_iff, ih, hfails, after_concat, use, hpush]
      exact or_iff_right_of_imp fun hpending hchunk => hpending hchunk.of_append
    | finish =>
      refine iff_of_false not_stuck_concat_finish (not_not.mpr ?_)
      rw [pending_after_finish]
      exact (acceptable_of_open_iff List.not_mem_nil).mpr (Nat.zero_le limit)

theorem lineFeed_not_mem_pending (h : ¬ Stuck limit us) : lineFeed ∉ (after limit us).pending := by
  induction us using List.reverseRecOn with
  | nil => exact List.not_mem_nil
  | append_singleton us u _ =>
    cases u with
    | push chunk =>
      have hchunk : Acceptable (after limit us).limit ((after limit us).pending ++ chunk) := by
        by_contra hbad
        exact h (stuck_concat_push_iff.mpr (.inr (push_fails_iff.mpr hbad)))
      rw [after_concat, use, push_of_acceptable hchunk]
      exact lineFeed_not_mem_tail _
    | finish =>
      rw [pending_after_finish]
      exact List.not_mem_nil

/-- A line that is handed out fits unless the decoder was stuck. A stuck decoder hands out one line
only, when it finishes; that line fits just if it is of the greatest length, and nothing but a
carriage return was buffered with it. -/
theorem fits_of_use {u : Use} {texts : List String} {text : String}
    (h : ((after limit us).use u).2 = .ok texts) (htext : text ∈ texts) :
    (¬ Stuck limit us → Fits limit text) ∧
    (Stuck limit us → u = .finish ∧ texts = [text] ∧
      (Fits limit text ↔ '\n' ∉ text.toList ∧ (Utf8.encode text).length = limit ∧
        (after limit us).pending = Utf8.encode text ++ [carriageReturn])) := by
  cases u with
  | push chunk =>
    obtain ⟨hchunk, rfl⟩ := push_eq_ok h
    rw [limit_after] at hchunk
    refine ⟨fun _ => ?_, fun hstuck => absurd hchunk.of_append (stuck_iff.mp hstuck)⟩
    obtain ⟨line, hline, rfl⟩ := List.mem_map.mp htext
    have hread := hchunk.1 line hline
    exact fits_of_carries ((divided_splitLines _).lines_unbroken line hline) hread.1
      (carries_lineText hread)
  | finish =>
    obtain ⟨htexts, hfinish⟩ := finish_of_mem h htext
    obtain ⟨-, hcarries⟩ := finish_eq_some_iff.mp hfinish
    refine ⟨fun hopen => ?_, fun hstuck => ⟨rfl, htexts, ?_⟩⟩
    · have hacceptable := not_not.mp (stuck_iff.not.mp hopen)
      have hunbroken := lineFeed_not_mem_pending hopen
      exact fits_of_carries hunbroken ((acceptable_of_open_iff hunbroken).mp hacceptable) hcarries
    · exact fits_iff_of_not_acceptable (stuck_iff.mp hstuck) hcarries

/-- Stuck decoders with a line feed in what they hold, and with a carriage return too many; and the
same decoder behind its finish. -/
theorem fits_of_use_stuck :
    let failed : List Use := [.push (Utf8.encode "ab\ntoo long\n")]
    let brimming : List Use := [.push (Utf8.encode "abcd\r")]
    let resumed : List Use := failed ++ [.finish]
    (((after 4 failed).use .finish).2 = .ok ["ab\ntoo long\n"] ∧ ¬ Fits 4 "ab\ntoo long\n") ∧
      (((after 4 brimming).use .finish).2 = .ok ["abcd"] ∧ Fits 4 "abcd") ∧
      (((after 4 resumed).use (.push (Utf8.encode "ab\n"))).2 = .ok ["ab"] ∧ Fits 4 "ab") := by
  intro failed brimming resumed
  have hfailed : Stuck 4 failed := by
    rw [stuck_iff, Acceptable]
    decide +kernel
  have hbrimming : Stuck 4 brimming := by
    rw [stuck_iff, Acceptable]
    decide +kernel
  have hwhole : ((after 4 failed).use .finish).2 = .ok ["ab\ntoo long\n"] := by decide +kernel
  have hfull : ((after 4 brimming).use .finish).2 = .ok ["abcd"] := by decide +kernel
  have hplain : ((after 4 resumed).use (.push (Utf8.encode "ab\n"))).2 = .ok ["ab"] := by
    decide +kernel
  obtain ⟨-, -, hfits⟩ := (fits_of_use hwhole List.mem_cons_self).2 hfailed
  obtain ⟨-, -, hreturn⟩ := (fits_of_use hfull List.mem_cons_self).2 hbrimming
  obtain ⟨hopen, -⟩ := fits_of_use hplain List.mem_cons_self
  refine ⟨⟨hwhole, fun hfit => ?_⟩, ⟨hfull, hreturn.mpr (by decide +kernel)⟩, ⟨hplain, hopen ?_⟩⟩
  · exact absurd (hfits.mp hfit).1 (by decide +kernel)
  · exact not_stuck_concat_finish

/-- A finish hands out what a push has refused, line feed and all. -/
theorem not_always_fits :
    ¬ ∀ limit us u texts, ((after limit us).use u).2 = .ok texts →
      ∀ text ∈ texts, Fits limit text := by
  intro h
  have hrefused : ((after 8 [.push (Utf8.encode "data: too long\n")]).use .finish).2 =
      .ok ["data: too long\n"] := by decide +kernel
  have hfits := h 8 _ .finish _ hrefused _ List.mem_cons_self
  exact absurd hfits (by decide +kernel)

end LineDecoder
end AnswerStream.Sse
