import AnswerStream.Calendar.Reading
import AnswerStream.Proofs.Calendar.Days
import AnswerStream.Proofs.Json.Numeral
import AnswerStream.Proofs.Text.Cutting
import Mathlib.Data.List.Induction

/-!
Times as they are written, with an offset or without one, and what the two readers make of them.
Every part of a time is written in a fixed number of digits, which both readers take as they are;
the readers differ only in what they want at the end. The instant that is read is the one that was
written.
-/

namespace AnswerStream

namespace Decimal

theorem ofDigits_replicate_zero (k : Nat) (ds : List Nat) :
    ofDigits (List.replicate k 0 ++ ds) = ofDigits ds := by
  induction k with
  | zero => rfl
  | succ k ih => exact ih

theorem ofDigits_lt {ds : List Nat} (h : ∀ d ∈ ds, d < 10) : ofDigits ds < 10 ^ ds.length := by
  induction ds using List.reverseRecOn with
  | nil => decide
  | append_singleton ds d ih =>
    have hds := ih fun k hk => h k (List.mem_append_left _ hk)
    have hd := h d (by simp)
    rw [ofDigits_append_singleton, List.length_append, List.length_singleton, Nat.pow_succ]
    omega

theorem exists_padded_eq_figures {width n : Nat} (hwidth : 0 < width) (h : n < 10 ^ width) :
    ∃ ds, ds.length = width ∧ (∀ d ∈ ds, d < 10) ∧ padded width n = figures ds ∧
      ofDigits ds = n := by
  obtain ⟨ds, -, hds, -, hrender, hvalue⟩ := exists_render_eq_figures n
  have hlength : (render n).length ≤ width := (Nat.length_toDigits_le_iff (by decide) hwidth).mpr h
  refine ⟨List.replicate (width - (render n).length) 0 ++ ds, ?_, ?_, ?_, ?_⟩
  · have hfigures : (render n).length = ds.length := by rw [hrender, figures, List.length_map]
    rw [List.length_append, List.length_replicate]
    omega
  · exact List.forall_mem_append.mpr ⟨fun d hd => by rw [List.eq_of_mem_replicate hd]; decide, hds⟩
  · rw [padded, hrender, figures, figures, List.map_append, List.map_replicate]
    rfl
  · rw [ofDigits_replicate_zero, hvalue]

end Decimal

namespace Calendar
open Decimal (figures ofDigits padded)

section
variable {least most : Nat} {ds : List Nat} {rest : List Char}

/-- A run of digits ends where there are no more of them, or where no more are wanted. -/
theorem takeWhile_figures (hds : ∀ d ∈ ds, d < 10) (hmost : ds.length ≤ most)
    (hend : ds.length = most ∨ rest.head?.any Char.isDigit = false) :
    ((figures ds ++ rest).take most).takeWhile Char.isDigit = figures ds := by
  have hdigits := Decimal.isDigit_of_mem_figures hds
  have hlength : (figures ds).length = ds.length := List.length_map _
  have hrest : (rest.take (most - ds.length)).takeWhile Char.isDigit = [] := by
    rcases hend with rfl | hend
    · simp
    · cases rest with
      | nil => simp
      | cons c rest =>
        have hc : c.isDigit = false := hend
        cases most - ds.length <;> simp [hc]
  rw [List.take_append, hlength, List.take_of_length_le (hlength.le.trans hmost),
    List.takeWhile_append_of_pos hdigits, hrest, List.append_nil]

theorem digits_figures (hds : ∀ d ∈ ds, d < 10) (hleast : least ≤ ds.length)
    (hmost : ds.length ≤ most) (hend : ds.length = most ∨ rest.head?.any Char.isDigit = false) :
    digits least most (figures ds ++ rest) = some (ofDigits ds, rest) := by
  have hlength : (figures ds).length = ds.length := List.length_map _
  simp only [digits, takeWhile_figures hds hmost hend, Decimal.filterMap_figures hds]
  rw [if_pos (by rwa [hlength]), List.drop_left]

end

theorem digits_padded {least width n : Nat} (hwidth : 0 < width) (hleast : least ≤ width)
    (h : n < 10 ^ width)
    (rest : List Char) : digits least width (padded width n ++ rest) = some (n, rest) := by
  obtain ⟨ds, hlength, hds, hpadded, hvalue⟩ := Decimal.exists_padded_eq_figures hwidth h
  rw [hpadded, digits_figures hds (by omega) hlength.le (.inl hlength), hvalue]

theorem blank_of_isDigit {c : Char} (h : c.isDigit = true) : Text.blank c = false := by
  obtain ⟨d, hd, rfl⟩ : ∃ d < 10, c = Nat.digitChar d :=
    ⟨_, Decimal.digit?_eq_some_iff.mp (if_pos h)⟩
  interval_cases d <;> rfl

theorem blank_of_mem_padded {width n : Nat} {c : Char} (h : c ∈ padded width n) :
    Text.blank c = false := by
  obtain ⟨ds, -, hds, -, hrender, -⟩ := Decimal.exists_render_eq_figures n
  rw [padded, hrender] at h
  rcases List.mem_append.mp h with hzero | hfigure
  · rw [List.eq_of_mem_replicate hzero]
    rfl
  · exact blank_of_isDigit (Decimal.isDigit_of_mem_figures hds c hfigure)

theorem exists_padded_eq_cons {width n : Nat} (hwidth : 0 < width) (h : n < 10 ^ width) :
    ∃ c cs, padded width n = c :: cs ∧ c.isDigit = true := by
  obtain ⟨ds, hlength, hds, hpadded, -⟩ := Decimal.exists_padded_eq_figures hwidth h
  cases ds with
  | nil => exact absurd hlength hwidth.ne
  | cons d ds => exact ⟨_, _, hpadded, Decimal.isDigit_digitChar (hds d List.mem_cons_self)⟩

theorem trimStart_padded {width n : Nat} (hwidth : 0 < width) (h : n < 10 ^ width)
    (rest : List Char) :
    Text.trimStart (padded width n ++ rest) = padded width n ++ rest := by
  obtain ⟨c, cs, hpadded, hc⟩ := exists_padded_eq_cons hwidth h
  rw [hpadded]
  exact Text.dropWhile_of_head? (blank_of_isDigit hc)

theorem digits_two {n : Nat} (h : n < 100) (rest : List Char) :
    digits 2 2 (padded 2 n ++ rest) = some (n, rest) :=
  digits_padded (by decide) le_rfl h rest

theorem twoDigits_two {n : Nat} (h : n < 100) (rest : List Char) :
    twoDigits (padded 2 n ++ rest) = some (n, rest) := by
  rw [twoDigits, trimStart_padded (by decide) h]
  exact digits_padded (by decide) (by decide) h rest

theorem year_four {n : Nat} (h : n < 10000) (rest : List Char) :
    year (padded 4 n ++ rest) = some ((n : Int), rest) := by
  have hdigits : digits 1 4 (padded 4 n ++ rest) = some (n, rest) :=
    digits_padded (by decide) (by decide) h rest
  obtain ⟨c, cs, hpadded, hc⟩ : ∃ c cs, padded 4 n = c :: cs ∧ c.isDigit = true :=
    exists_padded_eq_cons (by decide) h
  have hsign : c ≠ '-' ∧ c ≠ '+' := by
    constructor <;> rintro rfl <;> cases hc
  rw [year, trimStart_padded (by decide) h]
  rw [hpadded, List.cons_append] at hdigits ⊢
  simp [hsign, hdigits]

theorem bind_of_eq {α β : Type} {o : Option α} {a : α} (h : o = some a) (f : α → Option β) :
    o >>= f = f a := by
  rw [h]
  rfl

@[simp] theorem exactly_cons (c : Char) (rest : List Char) :
    exactly c (c :: rest) = some ((), rest) := if_pos rfl

/-- A time of the calendar with a year of four digits, and with up to nine digits behind the second.
-/
structure LocalTime where
  date : Date
  proper : date.Proper
  year_nonneg : 0 ≤ date.year
  year_le : date.year ≤ 9999
  hour : Fin 24
  minute : Fin 60
  second : Fin 60
  decimals : List (Fin 10)
  decimals_length : decimals.length ≤ 9

/-- The instant so many nanoseconds after the beginning of 1970, or before it. -/
def Timestamp.ofNanos (n : Int) : Timestamp :=
  ⟨n / (86400 * 10 ^ 9), (n / 10 ^ 9 % 86400).toNat, (n % 10 ^ 9).toNat⟩

theorem Timestamp.ofNanos_eq {day : Int} {second nano : Nat} (hsecond : second < 86400)
    (hnano : nano < 10 ^ 9) :
    ofNanos ((day * 86400 + second) * 10 ^ 9 + nano) = ⟨day, second, nano⟩ := by
  simp only [ofNanos, mk.injEq]
  omega

/-- What may stand behind a time: nothing, the letter for Greenwich, or hours and minutes east or
west of it. -/
inductive Zone
  | unnamed
  | greenwich
  | shifted (west : Bool) (hours : Fin 24) (minutes : Fin 60)
  deriving DecidableEq

namespace Zone

def chars : Zone → List Char
  | unnamed => []
  | greenwich => ['Z']
  | shifted west hours minutes =>
    (if west then '-' else '+') :: (padded 2 hours ++ ':' :: padded 2 minutes)

/-- Seconds east of Greenwich. -/
def seconds : Zone → Int
  | shifted west hours minutes =>
    let seconds : Int := (hours * 3600 + minutes * 60 : Nat)
    if west then -seconds else seconds
  | _ => 0

theorem seconds_bounds (z : Zone) : -86400 < z.seconds ∧ z.seconds < 86400 := by
  cases z with
  | shifted west hours minutes =>
    have hhours := hours.isLt
    have hminutes := minutes.isLt
    simp only [seconds]
    split_ifs <;> omega
  | _ => decide

/-- Nothing behind a time goes on with its digits. -/
theorem head?_chars (z : Zone) : z.chars.head?.any Char.isDigit = false := by
  rcases z with _ | _ | ⟨west, _, _⟩
  · rfl
  · rfl
  · cases west <;> rfl

theorem offset_chars {z : Zone} (h : z ≠ .unnamed) :
    offset (exactly ':') z.chars = some (z.seconds, []) := by
  rcases z with _ | _ | ⟨west, hours, minutes⟩
  · exact absurd rfl h
  · rfl
  · have hhours (rest : List Char) : digits 2 2 (padded 2 hours ++ rest) = some (hours.val, rest) :=
      digits_two (by omega) rest
    have hminutes : digits 2 2 (padded 2 minutes) = some (minutes.val, []) := by
      simpa using digits_two (show minutes.val < 100 by omega) []
    cases west <;> simp [chars, seconds, offset, hhours, hminutes]

end Zone

namespace LocalTime

def decimalChars (l : LocalTime) : List Char :=
  if l.decimals = [] then [] else '.' :: figures (l.decimals.map Fin.val)

/-- The part of a second, in nanoseconds. -/
def nano (l : LocalTime) : Nat := ofDigits (l.decimals.map Fin.val) * 10 ^ (9 - l.decimals.length)

def chars (l : LocalTime) : List Char :=
  l.date.renderChars ++ 'T' ::
    (padded 2 l.hour ++ ':' :: (padded 2 l.minute ++ ':' :: (padded 2 l.second ++ l.decimalChars)))

/-- The time as a reader takes it down. -/
def written (l : LocalTime) : Written :=
  ⟨l.date.year, l.date.month, l.date.day, ⟨l.hour, l.minute, l.second, l.nano⟩⟩

/-- Nanoseconds since the beginning of 1970, the time being one of Greenwich. -/
def instant (l : LocalTime) : Int :=
  (((l.date.toDays * 24 + l.hour) * 60 + l.minute) * 60 + l.second) * 10 ^ 9 + l.nano

theorem decimals_lt (l : LocalTime) : ∀ d ∈ l.decimals.map Fin.val, d < 10 :=
  List.forall_mem_map.mpr fun d _ => d.isLt

theorem fraction_chars (l : LocalTime) (z : Zone) :
    fraction (l.decimalChars ++ z.chars) = some (l.nano, z.chars) := by
  by_cases hnone : l.decimals = []
  · have hpoint : fraction z.chars = some (0, z.chars) := by
      rcases z with _ | _ | ⟨west, _, _⟩
      · rfl
      · rfl
      · cases west <;> rfl
    simpa [decimalChars, nano, hnone] using hpoint
  · have hlength : (l.decimals.map Fin.val).length = l.decimals.length := List.length_map _
    have hmost : (l.decimals.map Fin.val).length ≤ 9 := hlength.le.trans l.decimals_length
    have hleast : 1 ≤ (l.decimals.map Fin.val).length := hlength ▸ List.length_pos_iff.mpr hnone
    have hfigures : (figures (l.decimals.map Fin.val)).length = l.decimals.length :=
      (List.length_map _).trans hlength
    have hread := digits_figures l.decimals_lt hleast hmost (.inr z.head?_chars)
    rw [decimalChars, if_neg hnone, List.cons_append, fraction,
      takeWhile_figures l.decimals_lt hmost (.inr z.head?_chars), hread]
    simp only [Option.bind_eq_bind, Option.bind_some, hfigures,
      Text.dropWhile_of_head? z.head?_chars]
    rfl

theorem nano_lt (l : LocalTime) : l.nano < 10 ^ 9 := by
  have hlt := Decimal.ofDigits_lt l.decimals_lt
  rw [List.length_map] at hlt
  calc l.nano < 10 ^ l.decimals.length * 10 ^ (9 - l.decimals.length) :=
    Nat.mul_lt_mul_of_pos_right hlt (by positivity)
    _ = 10 ^ 9 := by rw [← pow_add, Nat.add_sub_cancel' l.decimals_length]

theorem month_lt (l : LocalTime) : l.date.month < 100 := l.proper.month_le.trans_lt (by decide)

theorem day_lt (l : LocalTime) : l.date.day < 100 := by
  have hday := l.proper.day_le
  have hdays := daysInMonth_le l.date.year l.date.month
  omega

theorem clock_lt (l : LocalTime) : l.hour.val < 100 ∧ l.minute.val < 100 ∧ l.second.val < 100 := by
  have hhour := l.hour.isLt
  have hminute := l.minute.isLt
  have hsecond := l.second.isLt
  omega

theorem year_lt (l : LocalTime) : l.date.year.toNat < 10000 := by
  have hyear := l.year_le
  omega

theorem toNat_year (l : LocalTime) : ((l.date.year.toNat : Nat) : Int) = l.date.year :=
  Int.toNat_of_nonneg l.year_nonneg

theorem renderChars_date (l : LocalTime) : l.date.renderChars =
    padded 4 l.date.year.toNat ++ '-' :: (padded 2 l.date.month ++ '-' :: padded 2 l.date.day) := by
  have hyear : Date.renderYear l.date.year = padded 4 l.date.year.toNat :=
    if_pos ⟨l.year_nonneg, l.year_le⟩
  simp [Date.renderChars, hyear]

theorem blank_of_mem_chars (l : LocalTime) (z : Zone) :
    ∀ c ∈ l.chars ++ z.chars, Text.blank c = false := by
  have hnumber (width n : Nat) : ∀ c ∈ padded width n, Text.blank c = false :=
    fun _ => blank_of_mem_padded
  have hdecimals : ∀ c ∈ l.decimalChars, Text.blank c = false := by
    rw [decimalChars]
    split
    · exact List.forall_mem_nil _
    · exact List.forall_mem_cons.mpr ⟨rfl,
        fun c hc => blank_of_isDigit (Decimal.isDigit_of_mem_figures l.decimals_lt c hc)⟩
  have hzone : ∀ c ∈ z.chars, Text.blank c = false := by
    rcases z with _ | _ | ⟨west, hours, minutes⟩
    · exact List.forall_mem_nil _
    · exact List.forall_mem_singleton.mpr rfl
    · refine List.forall_mem_cons.mpr ⟨by cases west <;> rfl, ?_⟩
      simp only [List.forall_mem_append, List.forall_mem_cons]
      exact ⟨hnumber _ _, rfl, hnumber _ _⟩
  simp only [chars, renderChars_date, List.append_assoc, List.cons_append, List.forall_mem_append,
    List.forall_mem_cons]
  exact ⟨hnumber _ _, rfl, hnumber _ _, rfl, hnumber _ _, rfl, hnumber _ _, rfl, hnumber _ _, rfl,
    hnumber _ _, hdecimals, hzone⟩

section
variable (l : LocalTime)

/-- The strict reader takes every part of a time, and then wants an offset. -/
theorem strict?_chars (z : Zone) : strict? (l.chars ++ z.chars) =
    (offset (exactly ':') z.chars).bind fun p =>
      if p.2.isEmpty then l.written.instant? p.1 else none := by
  obtain ⟨hhour, hminute, hsecond⟩ := l.clock_lt
  rw [chars, renderChars_date]
  simp only [List.append_assoc, List.cons_append]
  rw [strict?]
  refine (bind_of_eq (digits_padded (by decide) le_rfl l.year_lt _) _).trans ?_
  refine (bind_of_eq (exactly_cons '-' _) _).trans ?_
  refine (bind_of_eq (digits_two l.month_lt _) _).trans ?_
  refine (bind_of_eq (exactly_cons '-' _) _).trans ?_
  refine (bind_of_eq (digits_two l.day_lt _) _).trans ?_
  refine (bind_of_eq (o := some _) rfl _).trans ?_
  refine (bind_of_eq (digits_two hhour _) _).trans ?_
  refine (bind_of_eq (exactly_cons ':' _) _).trans ?_
  refine (bind_of_eq (digits_two hminute _) _).trans ?_
  refine (bind_of_eq (exactly_cons ':' _) _).trans ?_
  refine (bind_of_eq (digits_two hsecond _) _).trans ?_
  refine (bind_of_eq (l.fraction_chars z) _).trans ?_
  rw [written, l.toNat_year]
  rfl

theorem strict?_unnamed : strict? (l.chars ++ Zone.unnamed.chars) = none := l.strict?_chars .unnamed

theorem strict?_named {z : Zone} (h : z ≠ .unnamed) :
    strict? (l.chars ++ z.chars) = l.written.instant? z.seconds := by
  rw [l.strict?_chars, Zone.offset_chars h]
  rfl

theorem plain?_chars : plain? l.chars = l.written.instant? 0 := by
  obtain ⟨hhour, hminute, hsecond⟩ := l.clock_lt
  have hfraction := l.fraction_chars .unnamed
  rw [Zone.chars, List.append_nil] at hfraction
  rw [chars, renderChars_date, plain?]
  simp only [datePart, timePart, noGap, List.append_assoc, List.cons_append, year_four l.year_lt,
    twoDigits_two l.month_lt, twoDigits_two l.day_lt, twoDigits_two hhour, twoDigits_two hminute,
    twoDigits_two hsecond, exactly_cons, hfraction, Option.bind_eq_bind, Option.bind_some,
    l.toNat_year]
  rfl

end

/-- A time of four digits stays far inside the calendar, whatever offset moves it. -/
theorem year_ofDays (l : LocalTime) {shift : Int} (hpast : -1 ≤ shift) (hfuture : shift ≤ 1) :
    Date.firstYear ≤ (Date.ofDays (l.date.toDays + shift)).year ∧
      (Date.ofDays (l.date.toDays + shift)).year ≤ Date.lastYear := by
  have hfrom : Date.toDays ⟨0, 1, 1⟩ ≤ l.date.toDays := l.proper.yearDay_le_iff.mpr l.year_nonneg
  have hto : ¬ Date.toDays ⟨10000, 1, 1⟩ ≤ l.date.toDays := fun h => by
    have hyear := l.proper.yearDay_le_iff.mp h
    have hyear' := l.year_le
    omega
  have hproper := Date.proper_ofDays (l.date.toDays + shift)
  constructor
  · rw [← hproper.yearDay_le_iff, Date.toDays_ofDays]
    have hvalue : Date.toDays ⟨Date.firstYear, 1, 1⟩ + 1 ≤ Date.toDays ⟨0, 1, 1⟩ := by decide
    omega
  · have hlast : ¬ Date.toDays ⟨Date.lastYear + 1, 1, 1⟩ ≤
        (Date.ofDays (l.date.toDays + shift)).toDays := by
      have hvalue : Date.toDays ⟨10000, 1, 1⟩ + 1 ≤ Date.toDays ⟨Date.lastYear + 1, 1, 1⟩ := by
        decide
      rw [Date.toDays_ofDays]
      omega
    rw [hproper.yearDay_le_iff] at hlast
    omega

theorem valid_date (l : LocalTime) : l.date.valid = true := by
  have hyear := l.year_nonneg
  have hyear' := l.year_le
  exact Date.valid_iff.mpr ⟨⟨by rw [Date.firstYear]; omega, by rw [Date.lastYear]; omega⟩, l.proper⟩

theorem valid_time (l : LocalTime) : l.written.time.valid = true := by
  simp only [TimeOfDay.valid, Bool.and_eq_true]
  exact ⟨⟨⟨decide_eq_true l.hour.isLt, decide_eq_true l.minute.isLt⟩,
    decide_eq_true l.second.isLt.le⟩, decide_eq_true l.nano_lt⟩

theorem instant?_written (l : LocalTime) {east : Int} (hwest : -86400 < east)
    (heast : east < 86400) :
    l.written.instant? east = some (.ofNanos (l.instant - east * 10 ^ 9)) := by
  have hhour := l.hour.isLt
  have hminute := l.minute.isLt
  have hsecond := l.second.isLt
  have hdate : Date.ofParts? l.date.year l.date.month l.date.day = some l.date :=
    if_pos l.valid_date
  have hleap : ¬ l.written.time.second = 60 := hsecond.ne
  obtain ⟨total, htotal⟩ : ∃ total : Int,
      total = (l.hour * 3600 + l.minute * 60 + l.second : Nat) - east := ⟨_, rfl⟩
  have htime : ((l.written.time.hour * 3600 + l.written.time.minute * 60 +
      l.written.time.second : Nat) : Int) - east = total := htotal.symm
  have hday : total.fdiv Timestamp.secondsPerDay = total / 86400 :=
    Int.fdiv_eq_ediv_of_nonneg _ (by decide)
  have hrest : total.fmod Timestamp.secondsPerDay = total % 86400 :=
    Int.fmod_eq_emod_of_nonneg _ (by decide)
  have hyear : Date.firstYear ≤ (Date.ofDays (l.date.toDays + total / 86400)).year ∧
      (Date.ofDays (l.date.toDays + total / 86400)).year ≤ Date.lastYear :=
      l.year_ofDays (by omega) (by omega)
  have hlocal : Timestamp.ofLocal? l.date l.written.time east =
      some ⟨l.date.toDays + total / 86400, (total % 86400).toNat, l.nano⟩ := by
    simp only [Timestamp.ofLocal?, hleap, if_false, htime, hday, hrest, if_pos hyear]
    rfl
  have hinstant : l.instant - east * 10 ^ 9 =
      ((l.date.toDays + total / 86400) * 86400 + (total % 86400).toNat) * 10 ^ 9 + l.nano := by
    rw [instant]
    omega
  rw [hinstant, Timestamp.ofNanos_eq (by omega) l.nano_lt]
  exact (bind_of_eq hdate _).trans ((if_pos l.valid_time).trans hlocal)

end LocalTime

end Calendar
end AnswerStream
