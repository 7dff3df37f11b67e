import AnswerStream.Calendar.Date
import Mathlib.Tactic.IntervalCases

/-!
Days and their numbers. The months follow one another without a gap, each as long as the calendar
has it, so that the numbers of days are in the order of year, month and day. Every number is that of
one day of the calendar.
-/

namespace AnswerStream.Calendar

theorem isLeap_iff {year : Int} :
    isLeap year = true ↔ year % 4 = 0 ∧ (year % 100 ≠ 0 ∨ year % 400 = 0) := by
  simp [isLeap]

theorem daysInMonth_pos (year : Int) (month : Nat) : 0 < daysInMonth year month := by
  rw [daysInMonth]
  split_ifs <;> decide

theorem daysInMonth_le (year : Int) (month : Nat) : daysInMonth year month ≤ 31 := by
  rw [daysInMonth]
  split_ifs <;> decide

namespace Date

/-- A day that the calendar has. -/
structure Proper (d : Date) : Prop where
  month_pos : 1 ≤ d.month
  month_le : d.month ≤ 12
  day_pos : 1 ≤ d.day
  day_le : d.day ≤ daysInMonth d.year d.month

theorem valid_iff {d : Date} : d.valid = true ↔ (firstYear ≤ d.year ∧ d.year ≤ lastYear) ∧
    d.Proper := by
  simp only [valid, Bool.and_eq_true, decide_eq_true_eq]
  exact ⟨fun ⟨⟨⟨⟨⟨hfirst, hlast⟩, h₁⟩, h₂⟩, h₃⟩, h₄⟩ => ⟨⟨hfirst, hlast⟩, ⟨h₁, h₂, h₃, h₄⟩⟩,
    fun ⟨⟨hfirst, hlast⟩, h⟩ =>
      ⟨⟨⟨⟨⟨hfirst, hlast⟩, h.month_pos⟩, h.month_le⟩, h.day_pos⟩, h.day_le⟩⟩

/-- By year, month and day, the first date is not after the second. -/
def Upto (a b : Date) : Prop :=
  a.year < b.year ∨ a.year = b.year ∧ (a.month < b.month ∨ a.month = b.month ∧ a.day ≤ b.day)

instance (a b : Date) : Decidable (a.Upto b) := by
  unfold Upto
  infer_instance

/-- The year that begins in March. -/
def marchYear (d : Date) : Int := if d.month ≤ 2 then d.year - 1 else d.year

/-- The days since the beginning of March. -/
def dayOfYear (d : Date) : Nat := (153 * ((d.month + 9) % 12) + 2) / 5 + d.day - 1

/-- The days before a year: every fourth year has a leap day, but of the hundredth ones only every
fourth. -/
def yearStart (y : Int) : Int := 365 * y + y / 4 - y / 100 + y / 400

/-- From one March to the next there are 337 days and the February between. -/
theorem yearStart_eq_pred (y : Int) : yearStart y = yearStart (y - 1) + 337 + daysInMonth y 2 := by
  simp only [yearStart, daysInMonth, isLeap_iff, if_true]
  split_ifs <;> omega

theorem toDays_eq (d : Date) : d.toDays = yearStart d.marchYear + d.dayOfYear - 719468 := by
  simp only [toDays, marchYear, dayOfYear, yearStart,
    Int.fdiv_eq_ediv_of_nonneg _ (show (0 : Int) ≤ 400 by decide)]
  split <;> omega

theorem toDays_eq_add {d : Date} (h : 1 ≤ d.day) :
    d.toDays = toDays ⟨d.year, d.month, 1⟩ + (d.day - 1) := by
  simp only [toDays_eq, marchYear, dayOfYear]
  omega

theorem toDays_next_month {year : Int} {month : Nat} (hfirst : 1 ≤ month) (hlast : month < 12) :
    toDays ⟨year, month + 1, 1⟩ = toDays ⟨year, month, 1⟩ + daysInMonth year month := by
  rw [toDays_eq, toDays_eq]
  by_cases hmonth : month = 2
  · subst hmonth
    have hstart : yearStart (marchYear ⟨year, 3, 1⟩) =
        yearStart (marchYear ⟨year, 2, 1⟩) + 337 + daysInMonth year 2 :=
      yearStart_eq_pred year
    simp only [hstart, dayOfYear]
    omega
  · have hyear : marchYear ⟨year, month + 1, 1⟩ = marchYear ⟨year, month, 1⟩ := by
      simp only [marchYear]
      split_ifs <;> omega
    have hday : dayOfYear ⟨year, month + 1, 1⟩ =
        dayOfYear ⟨year, month, 1⟩ + daysInMonth year month := by
      rw [daysInMonth, if_neg hmonth, dayOfYear, dayOfYear]
      interval_cases month <;> simp at hmonth ⊢
    rw [hyear, hday]
    omega

theorem toDays_next_year (year : Int) :
    toDays ⟨year + 1, 1, 1⟩ = toDays ⟨year, 12, 1⟩ + daysInMonth year 12 := by
  have hyear : marchYear ⟨year + 1, 1, 1⟩ = marchYear ⟨year, 12, 1⟩ := by simp [marchYear]
  have hday : dayOfYear ⟨year + 1, 1, 1⟩ = dayOfYear ⟨year, 12, 1⟩ + daysInMonth year 12 := by
    simp [dayOfYear, daysInMonth]
  rw [toDays_eq, toDays_eq, hyear, hday]
  omega

/-- Months are numbered through the years. -/
def monthNumber (d : Date) : Int := 12 * d.year + d.month - 1

/-- The number of the first day of a month. -/
def firstDay (k : Int) : Int := toDays ⟨k / 12, (k % 12).toNat + 1, 1⟩

theorem firstDay_eq {k year : Int} {month : Nat} (hk : k = 12 * year + month - 1)
    (hfirst : 1 ≤ month) (hlast : month ≤ 12) :
    firstDay k = toDays ⟨year, month, 1⟩ := by
  have hyear : k / 12 = year := by omega
  have hmonth : (k % 12).toNat + 1 = month := by omega
  rw [firstDay, hyear, hmonth]

theorem Proper.firstDay_succ {d : Date} (h : d.Proper) :
    firstDay (d.monthNumber + 1) = firstDay d.monthNumber + daysInMonth d.year d.month := by
  have hfirst := h.month_pos
  have hlast := h.month_le
  have hthis : firstDay d.monthNumber = toDays ⟨d.year, d.month, 1⟩ := firstDay_eq rfl hfirst hlast
  by_cases hmonth : d.month = 12
  · have hnext : firstDay (d.monthNumber + 1) = toDays ⟨d.year + 1, 1, 1⟩ :=
      firstDay_eq (by rw [monthNumber]; omega) le_rfl (by decide)
    rw [hthis, hnext, hmonth]
    exact toDays_next_year d.year
  · have hnext : firstDay (d.monthNumber + 1) = toDays ⟨d.year, d.month + 1, 1⟩ :=
      firstDay_eq (by rw [monthNumber]; omega) (by omega) (by omega)
    rw [hthis, hnext]
    exact toDays_next_month hfirst (by omega)

theorem firstDay_lt {j k : Int} (h : j < k) : firstDay j < firstDay k := by
  refine strictMono_int_of_lt_succ (fun k => ?_) h
  have hproper : Proper ⟨k / 12, (k % 12).toNat + 1, 1⟩ :=
    ⟨by simp, by simp only; omega, le_rfl, daysInMonth_pos _ _⟩
  have hk : monthNumber ⟨k / 12, (k % 12).toNat + 1, 1⟩ = k := by
    simp only [monthNumber]
    omega
  have hsucc := hproper.firstDay_succ
  have hpos := daysInMonth_pos (k / 12) ((k % 12).toNat + 1)
  rw [hk] at hsucc
  simp only at hsucc
  omega

section
variable {a b : Date}

theorem Proper.toDays_eq (h : a.Proper) : a.toDays = firstDay a.monthNumber + (a.day - 1) := by
  have hfirst : firstDay a.monthNumber = toDays ⟨a.year, a.month, 1⟩ :=
    firstDay_eq rfl h.month_pos h.month_le
  rw [toDays_eq_add h.day_pos, hfirst]

theorem Proper.toDays_lt (ha : a.Proper) (hb : b.Proper) (h : a.monthNumber < b.monthNumber) :
    a.toDays < b.toDays := by
  have hnext : firstDay (a.monthNumber + 1) ≤ firstDay b.monthNumber :=
    (Int.add_one_le_iff.mpr h).eq_or_lt.elim (fun h => (congrArg firstDay h).le) fun h =>
      (firstDay_lt h).le
  have hsucc := ha.firstDay_succ
  have hday := ha.day_le
  have hpos := hb.day_pos
  rw [ha.toDays_eq, hb.toDays_eq]
  omega

/-- Numbers of days are in the order of the calendar. -/
theorem Proper.toDays_le_iff (ha : a.Proper) (hb : b.Proper) : a.toDays ≤ b.toDays ↔ a.Upto b := by
  have hupto : a.Upto b ↔ a.monthNumber < b.monthNumber ∨ a.monthNumber = b.monthNumber ∧
      a.day ≤ b.day := by
    have ha₁ := ha.month_pos
    have ha₂ := ha.month_le
    have hb₁ := hb.month_pos
    have hb₂ := hb.month_le
    simp only [Upto, monthNumber]
    omega
  rw [hupto]
  rcases lt_trichotomy a.monthNumber b.monthNumber with hmonth | hmonth | hmonth
  · exact iff_of_true (ha.toDays_lt hb hmonth).le (.inl hmonth)
  · rw [ha.toDays_eq, hb.toDays_eq, hmonth]
    omega
  · exact iff_of_false (hb.toDays_lt ha hmonth).not_ge (by omega)

theorem Proper.eq_of_toDays_eq (ha : a.Proper) (hb : b.Proper) (h : a.toDays = b.toDays) :
    a = b := by
  have hab := (ha.toDays_le_iff hb).mp h.le
  have hba := (hb.toDays_le_iff ha).mp h.ge
  rcases a with ⟨year, month, day⟩
  rcases b with ⟨year', month', day'⟩
  simp only [Upto] at hab hba
  simp only [mk.injEq]
  omega

theorem Proper.yearDay_le_iff (h : a.Proper) {year : Int} :
    toDays ⟨year, 1, 1⟩ ≤ a.toDays ↔ year ≤ a.year := by
  have hfirst : Proper ⟨year, 1, 1⟩ := ⟨le_rfl, Nat.one_le_ofNat, le_rfl, daysInMonth_pos _ _⟩
  have hmonth := h.month_pos
  have hday := h.day_pos
  rw [hfirst.toDays_le_iff h]
  simp only [Upto]
  omega

end

/-- The days before a month, both counted from March. -/
def monthStart (m : Nat) : Nat := (153 * m + 2) / 5

/-- A day of a month counted from the March in which its year began. -/
def ofMarch (y : Int) (m day : Nat) : Date :=
  let month := if m < 10 then m + 3 else m - 9
  ⟨if month ≤ 2 then y + 1 else y, month, day⟩

section
variable {m : Nat}

theorem month_ofMarch (h : m ≤ 11) (y : Int) (day : Nat) :
    ((ofMarch y m day).month + 9) % 12 = m := by
  simp only [ofMarch]
  split_ifs <;> omega

theorem marchYear_ofMarch (y : Int) (m day : Nat) : (ofMarch y m day).marchYear = y := by
  simp only [ofMarch, marchYear]
  split_ifs <;> omega

theorem dayOfYear_ofMarch (h : m ≤ 11) (y : Int) (day : Nat) :
    (ofMarch y m day).dayOfYear = monthStart m + day - 1 := by
  rw [dayOfYear, month_ofMarch h, monthStart]
  rfl

theorem daysInMonth_ofMarch (h : m < 11) (y : Int) (day : Nat) :
    monthStart m + daysInMonth (ofMarch y m day).year (ofMarch y m day).month =
      monthStart (m + 1) := by
  interval_cases m <;> simp [ofMarch, monthStart, daysInMonth]

end

/-- A day of a cycle of 400 years lies in one of the four centuries, in one of its groups of four
years and in one of the years of that, the last of which has the leap day; of the centuries only the
last ends with one. -/
theorem exists_year_of_cycle {n : Nat} (h : n < 146097) :
    ∃ century ≤ 3, ∃ group ≤ 24, ∃ year ≤ 3, ∃ day,
      n = 36524 * century + 1461 * group + 365 * year + day ∧
      (day < 365 ∨ day = 365 ∧ year = 3 ∧ (group < 24 ∨ century = 3)) := by
  by_cases hlast : n = 146096
  · exact ⟨3, le_rfl, 24, le_rfl, 3, le_rfl, 365, hlast, by decide⟩
  · have hcentury : n / 36524 ≤ 3 := by omega
    have hgroup : n % 36524 / 1461 ≤ 24 := by omega
    refine ⟨n / 36524, hcentury, n % 36524 / 1461, hgroup, min (n % 36524 % 1461 / 365) 3, by omega,
      n % 36524 % 1461 - 365 * min (n % 36524 % 1461 / 365) 3, by omega, by omega⟩

theorem yearOfCycle_eq {century group year day : Nat} (hcentury : century ≤ 3) (hgroup : group ≤ 24)
    (hyear : year ≤ 3)
    (hday : day < 365 ∨ day = 365 ∧ year = 3 ∧ (group < 24 ∨ century = 3)) {n : Nat}
    (hn : n = 36524 * century + 1461 * group + 365 * year + day) :
    (n - n / 1460 + n / 36524 - n / 146096) / 365 = 100 * century + 4 * group + year := by
  have hgroups : n / 1460 =
      25 * century + group + (24 * century + group + 365 * year + day) / 1460 := by omega
  have hcenturies : n / 36524 - n / 146096 = century := by
    by_cases hlast : n = 146096
    · subst hlast
      omega
    · have hrest : 1461 * group + 365 * year + day < 36524 := by omega
      omega
  omega

/-- How a day is computed from its number: cycle, year and day are taken off one after the other. -/
theorem ofDays_eq {n cycle : Int} {r year t : Nat} (hn : n + 719468 = 146097 * cycle + r)
    (hr : r < 146097) (hyear : (r - r / 1460 + r / 36524 - r / 146096) / 365 = year)
    (ht : r - (365 * year + year / 4 - year / 100) = t) :
    ofDays n = ofMarch (year + cycle * 400) ((5 * t + 2) / 153)
      (t - monthStart ((5 * t + 2) / 153) + 1) := by
  have hcycle : (n + 719468).fdiv 146097 = cycle := by
    rw [Int.fdiv_eq_ediv_of_nonneg _ (show (0 : Int) ≤ 146097 by decide)]
    omega
  have hrest : (n + 719468 - cycle * 146097).toNat = r := by omega
  simp only [ofDays, hcycle, hrest, hyear, ht]
  rfl

theorem yearStart_add_cycles (y cycle : Int) :
    yearStart (y + cycle * 400) = yearStart y + 146097 * cycle := by
  simp only [yearStart]
  omega

theorem exists_ofDays_eq (n : Int) : ∃ (y : Int) (t : Nat), n = yearStart y + t - 719468 ∧
    (t < 365 ∨ t = 365 ∧ isLeap (y + 1) = true) ∧
    ofDays n = ofMarch y ((5 * t + 2) / 153) (t - monthStart ((5 * t + 2) / 153) + 1) := by
  obtain ⟨cycle, r, hr, hn⟩ : ∃ (cycle : Int) (r : Nat), r < 146097 ∧
      n + 719468 = 146097 * cycle + r :=
    ⟨(n + 719468) / 146097, ((n + 719468) % 146097).toNat, by omega, by omega⟩
  obtain ⟨century, hcentury, group, hgroup, year, hyear, t, hrest, ht⟩ := exists_year_of_cycle hr
  have hfours : (100 * century + 4 * group + year) / 4 = 25 * century + group := by omega
  have hhundreds : (100 * century + 4 * group + year) / 100 = century := by omega
  have hday : r - (365 * (100 * century + 4 * group + year) +
      (100 * century + 4 * group + year) / 4 -
      (100 * century + 4 * group + year) / 100) = t := by
    rw [hfours, hhundreds]
    omega
  refine ⟨(100 * century + 4 * group + year : Nat) + cycle * 400, t, ?_, ?_,
    ofDays_eq hn hr (yearOfCycle_eq hcentury hgroup hyear ht hrest) hday⟩
  · rw [yearStart_add_cycles, yearStart]
    omega
  · refine ht.imp id fun ⟨ht, hlast, hleap⟩ => ⟨ht, isLeap_iff.mpr ?_⟩
    obtain rfl := hlast
    rcases hleap with hleap | rfl <;> omega

theorem monthStart_le {t : Nat} (h : t ≤ 365) : (5 * t + 2) / 153 ≤ 11 ∧
    monthStart ((5 * t + 2) / 153) ≤ t ∧ t < monthStart ((5 * t + 2) / 153 + 1) := by
  simp only [monthStart]
  omega

theorem toDays_ofDays (n : Int) : (ofDays n).toDays = n := by
  obtain ⟨y, t, hn, ht, hdate⟩ := exists_ofDays_eq n
  obtain ⟨hmonth, hstart, -⟩ := monthStart_le (t := t) (by omega)
  rw [hdate, toDays_eq, marchYear_ofMarch, dayOfYear_ofMarch hmonth, hn]
  omega

theorem proper_ofDays (n : Int) : (ofDays n).Proper := by
  obtain ⟨y, t, -, ht, hdate⟩ := exists_ofDays_eq n
  obtain ⟨hmonth, hstart, hend⟩ := monthStart_le (t := t) (by omega)
  rw [hdate]
  generalize (5 * t + 2) / 153 = m at hmonth hstart hend
  have hbounds : 1 ≤ (ofMarch y m 1).month ∧ (ofMarch y m 1).month ≤ 12 := by
    simp only [ofMarch]
    split_ifs <;> omega
  refine ⟨hbounds.1, hbounds.2, Nat.le_add_left 1 _, ?_⟩
  rcases hmonth.lt_or_eq with hm | rfl
  · have hdays := daysInMonth_ofMarch hm y (t - monthStart m + 1)
    have hday : (ofMarch y m (t - monthStart m + 1)).day = t - monthStart m + 1 := rfl
    omega
  · have hlast : monthStart 11 = 337 := rfl
    simp only [ofMarch, daysInMonth, hlast] at *
    rcases ht with ht | ⟨rfl, hleap⟩
    · split_ifs <;> omega
    · simp [hleap]

/-- The day after. -/
def next (d : Date) : Date :=
  if d.day < daysInMonth d.year d.month then ⟨d.year, d.month, d.day + 1⟩
  else if d.month < 12 then ⟨d.year, d.month + 1, 1⟩
  else ⟨d.year + 1, 1, 1⟩

theorem Proper.next {d : Date} (h : d.Proper) : d.next.Proper := by
  rw [Date.next]
  split_ifs with hday hmonth
  · exact ⟨h.month_pos, h.month_le, Nat.le_add_left 1 _, hday⟩
  · exact ⟨Nat.le_add_left 1 _, hmonth, le_rfl, daysInMonth_pos _ _⟩
  · exact ⟨le_rfl, Nat.one_le_ofNat, le_rfl, daysInMonth_pos _ _⟩

theorem Proper.toDays_next {d : Date} (h : d.Proper) : d.next.toDays = d.toDays + 1 := by
  have hfirst := h.month_pos
  have hthis := toDays_eq_add h.day_pos
  have hlast := h.day_le
  rw [Date.next]
  split_ifs with hday hmonth
  · have hnext : toDays ⟨d.year, d.month, d.day + 1⟩ = toDays ⟨d.year, d.month, 1⟩ +
        ((d.day + 1 : Nat) - 1) :=
      toDays_eq_add (Nat.le_add_left 1 _)
    omega
  · have hnext : toDays ⟨d.year, d.month + 1, 1⟩ =
        toDays ⟨d.year, d.month, 1⟩ + daysInMonth d.year d.month :=
      toDays_next_month hfirst hmonth
    omega
  · have hdecember : d.month = 12 := by
      have hmonths := h.month_le
      omega
    have hnext := toDays_next_year d.year
    rw [hdecember] at hthis hlast hday
    omega

end Date
end AnswerStream.Calendar
