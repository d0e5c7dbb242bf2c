import Rehearsal.Time.Calendar

/-!
# Days and dates

The calendar repeats itself after 400 years, and up to their last day these consist of
centuries of one length, these of spans of four years, and these of years. A `Place` says where
a day stands in these cycles, which begin in March. Both conversions are read off it, so that a
date stands for the day that it is the date of, and is a date that the calendar has.
-/

namespace Rehearsal.Date

/-- Where a day stands in the cycles of the calendar. Each cycle but the last one of the cycle
above has one day less than it could have, so that the day 365 is rare. -/
structure Place where
  era : Int
  century : Int
  leap : Int
  year : Int
  day : Int
  centuries : 0 ≤ century ∧ century ≤ 3
  leaps : 0 ≤ leap ∧ leap ≤ 24
  years : 0 ≤ year ∧ year ≤ 3
  days : 0 ≤ day ∧ (day ≤ 364 ∨ day = 365 ∧ year = 3 ∧ (leap ≠ 24 ∨ century = 3))

theorem monthLength_le (year : Int) (month : Nat) : monthLength year month ≤ 31 := by
  rw [monthLength]
  repeat' split
  all_goals decide

theorem month_of_monthLength_pos {year : Int} {month : Nat} (positive : 0 < monthLength year month) :
    1 ≤ month ∧ month ≤ 12 := by
  simp only [monthLength, Bool.or_eq_true, Bool.and_eq_true, decide_eq_true_eq] at positive
  repeat' split at positive
  all_goals omega

/-- A date that the calendar has is one of a month, and of a day that some month has. -/
theorem bounds_of_isValid {d : Date} (valid : d.isValid = true) :
    (1 ≤ d.month ∧ d.month ≤ 12) ∧ 1 ≤ d.day ∧ d.day ≤ 31 := by
  rw [isValid, Bool.and_eq_true, decide_eq_true_eq, decide_eq_true_eq] at valid
  obtain ⟨first, last⟩ := valid
  exact ⟨month_of_monthLength_pos (Nat.le_trans first last), first,
    Nat.le_trans last (monthLength_le d.year d.month)⟩

/-- From March to January the lengths of the months follow a rule. -/
theorem monthLength_of_lt (year : Int) {month : Int} (low : 0 ≤ month) (high : month < 11) :
    (monthLength year (if month < 10 then month + 3 else month - 9).toNat : Int) =
      (153 * (month + 1) + 2) / 5 - (153 * month + 2) / 5 := by
  obtain rfl | rfl | rfl | rfl | rfl | rfl | rfl | rfl | rfl | rfl | rfl :
      month = 0 ∨ month = 1 ∨ month = 2 ∨ month = 3 ∨ month = 4 ∨ month = 5 ∨ month = 6 ∨
        month = 7 ∨ month = 8 ∨ month = 9 ∨ month = 10 := by omega
  all_goals rfl

namespace Place

variable (p : Place)

/-- The days since the beginning of the era. -/
def dayOfEra : Int := 36524 * p.century + 1461 * p.leap + 365 * p.year + p.day

/-- The days since the first of January 1970. -/
def toDays : Int := 146097 * p.era + p.dayOfEra - 719468

/-- The years since the beginning of the era. -/
def yearOfEra : Int := 100 * p.century + 4 * p.leap + p.year

/-- The year that began with the last March. -/
def marchYear : Int := 400 * p.era + p.yearOfEra

/-- The months since March. -/
def month : Int := (5 * p.day + 2) / 153

/-- The day of the month. -/
def dayOfMonth : Int := p.day - (153 * p.month + 2) / 5 + 1

def date : Date where
  year := if p.month < 10 then p.marchYear else p.marchYear + 1
  month := (if p.month < 10 then p.month + 3 else p.month - 9).toNat
  day := p.dayOfMonth.toNat

theorem dayOfEra_bounds : 0 ≤ p.dayOfEra ∧ p.dayOfEra < 146097 := by
  obtain ⟨era, century, leap, year, day, centuries, leaps, years, days⟩ := p
  simp only [dayOfEra]
  omega

/-- The year is found from the day by taking off the leap days before it. -/
theorem yearOfEra_eq :
    (p.dayOfEra - p.dayOfEra / 1460 + p.dayOfEra / 36524 - p.dayOfEra / 146096) / 365 =
      p.yearOfEra := by
  obtain ⟨era, century, leap, year, day, centuries, leaps, years, days⟩ := p
  simp only [dayOfEra, yearOfEra]
  generalize total : 36524 * century + 1461 * leap + 365 * year + day = dayOfEra
  have skipped : dayOfEra / 36524 - dayOfEra / 146096 = century := by
    by_cases last : dayOfEra = 146096
    · subst last
      omega
    · have within : 1461 * leap + 365 * year + day < 36524 := by omega
      have below : dayOfEra / 146096 = 0 := by omega
      omega
  -- at the end of a span of four years its leap day is taken off too early
  have taken : dayOfEra / 1460 = 25 * century + leap ∧ day ≤ 364 ∨
      dayOfEra / 1460 = 25 * century + leap + 1 ∧ 0 < day := by omega
  obtain ⟨count, fits⟩ | ⟨count, some⟩ := taken
  · have rest : dayOfEra - (25 * century + leap) + century =
        365 * (100 * century + 4 * leap + year) + day := by omega
    omega
  · have rest : dayOfEra - (25 * century + leap + 1) + century =
        365 * (100 * century + 4 * leap + year) + (day - 1) := by omega
    omega

theorem dayOfYear_eq :
    p.dayOfEra - (365 * p.yearOfEra + p.yearOfEra / 4 - p.yearOfEra / 100) = p.day := by
  obtain ⟨era, century, leap, year, day, centuries, leaps, years, days⟩ := p
  simp only [dayOfEra, yearOfEra]
  omega

/-- The date of a day is the one of its place. -/
theorem ofDays_toDays : ofDays p.toDays = p.date := by
  obtain ⟨low, high⟩ := p.dayOfEra_bounds
  have era : (p.toDays + 719468) / 146097 = p.era := by
    rw [toDays]
    omega
  have dayOfEra : (p.toDays + 719468) % 146097 = p.dayOfEra := by
    rw [toDays]
    omega
  simp only [ofDays, era, dayOfEra, p.yearOfEra_eq, p.dayOfYear_eq, Int.add_comm p.yearOfEra]
  rfl

theorem month_bounds : 0 ≤ p.month ∧ p.month ≤ 11 := by
  obtain ⟨low, high⟩ := p.days
  rw [month]
  omega

theorem dayOfMonth_pos : 0 < p.dayOfMonth := by
  obtain ⟨low, high⟩ := p.days
  rw [dayOfMonth, month]
  omega

/-- A day is counted from the beginning of its year, which is in March. -/
theorem toDays_marchYear :
    365 * p.marchYear + p.marchYear / 4 - p.marchYear / 100 + p.marchYear / 400 + p.day - 719468 =
      p.toDays := by
  obtain ⟨era, century, leap, year, day, centuries, leaps, years, days⟩ := p
  simp only [marchYear, yearOfEra, toDays, dayOfEra]
  omega

/-- The date of a place stands for its day. -/
theorem toDays_date : p.date.toDays = p.toDays := by
  obtain ⟨low, high⟩ := p.month_bounds
  have positive := p.dayOfMonth_pos
  have year : (if p.date.month ≤ 2 then p.date.year - 1 else p.date.year) = p.marchYear := by
    simp only [date]
    split <;> split <;> omega
  have month : (if p.date.month ≤ 2 then (p.date.month : Int) + 9 else p.date.month - 3) =
      p.month := by
    simp only [date]
    split <;> split <;> omega
  have day : (p.date.day : Int) = p.day - (153 * p.month + 2) / 5 + 1 :=
    Int.toNat_of_nonneg (Int.le_of_lt positive)
  have years := p.toDays_marchYear
  simp only [Date.toDays, year, month, day]
  omega

/-- The day 365 comes before the first of March of a leap year only. -/
theorem isLeap_of_day (last : p.day = 365) : isLeap (p.marchYear + 1) = true := by
  obtain ⟨era, century, leap, year, day, centuries, leaps, years, days⟩ := p
  simp only [marchYear, yearOfEra, isLeap, Bool.and_eq_true, Bool.or_eq_true, beq_iff_eq,
    bne_iff_ne] at last ⊢
  omega

theorem dayOfMonth_le : p.dayOfMonth ≤ monthLength p.date.year p.date.month := by
  obtain ⟨low, high⟩ := p.days
  obtain ⟨first, last⟩ := p.month_bounds
  have month : p.month = (5 * p.day + 2) / 153 := rfl
  rw [dayOfMonth]
  by_cases february : p.month = 11
  · simp only [date, february]
    change _ ≤ ((if isLeap (p.marchYear + 1) then 29 else 28 : Nat) : Int)
    by_cases rare : p.day = 365
    · rw [if_pos (p.isLeap_of_day rare)]
      omega
    · split <;> omega
  · have length := monthLength_of_lt p.date.year first (by omega)
    simp only [date] at length ⊢
    omega

/-- The date of a place is one that the calendar has. -/
theorem isValid_date : p.date.isValid = true := by
  have positive := p.dayOfMonth_pos
  have small := p.dayOfMonth_le
  have day : (p.date.day : Int) = p.dayOfMonth := Int.toNat_of_nonneg (Int.le_of_lt positive)
  simp only [isValid, Bool.and_eq_true, decide_eq_true_eq]
  omega

/-- A year begins with its first of January. -/
theorem firstDay_le_iff (year : Int) :
    Date.toDays ⟨year, 1, 1⟩ ≤ p.toDays ↔ year ≤ p.date.year := by
  obtain ⟨low, high⟩ := p.days
  have firstDay : Date.toDays ⟨year, 1, 1⟩ =
      365 * (year - 1) + (year - 1) / 4 - (year - 1) / 100 + (year - 1) / 400 + 306 - 719468 := by
    simp [Date.toDays]
  have month : p.month < 10 ↔ p.day < 306 := by
    rw [Place.month]
    omega
  rw [firstDay, ← p.toDays_marchYear]
  simp only [date, month]
  split <;> omega

end Place

/-- Every day has a place. -/
theorem exists_place (days : Int) : ∃ p : Place, p.toDays = days := by
  obtain ⟨dayOfEra, within⟩ : ∃ day, day = (days + 719468) % 146097 := ⟨_, rfl⟩
  obtain ⟨century, hundred⟩ : ∃ c, c = min (dayOfEra / 36524) 3 := ⟨_, rfl⟩
  obtain ⟨leap, four⟩ : ∃ l, l = (dayOfEra - 36524 * century) / 1461 := ⟨_, rfl⟩
  obtain ⟨year, one⟩ : ∃ y, y = min ((dayOfEra - 36524 * century - 1461 * leap) / 365) 3 :=
    ⟨_, rfl⟩
  refine ⟨⟨(days + 719468) / 146097, century, leap, year,
    dayOfEra - 36524 * century - 1461 * leap - 365 * year, ?_, ?_, ?_, ?_⟩, ?_⟩
  · omega
  · omega
  · omega
  · omega
  · simp only [Place.toDays, Place.dayOfEra]
    omega

/-- The date of a day stands for that day. -/
theorem toDays_ofDays (days : Int) : (ofDays days).toDays = days := by
  obtain ⟨p, rfl⟩ := exists_place days
  rw [p.ofDays_toDays, p.toDays_date]

theorem isValid_ofDays (days : Int) : (ofDays days).isValid = true := by
  obtain ⟨p, rfl⟩ := exists_place days
  rw [p.ofDays_toDays, p.isValid_date]

/-- The days of a year and of those after it are the days from its first of January on. -/
theorem firstDay_le_iff (year days : Int) :
    toDays ⟨year, 1, 1⟩ ≤ days ↔ year ≤ (ofDays days).year := by
  obtain ⟨p, rfl⟩ := exists_place days
  rw [p.ofDays_toDays, p.firstDay_le_iff]

/-- The days of a year and of those before it are the days up to its last of December. -/
theorem le_lastDay_iff (year days : Int) :
    days ≤ toDays ⟨year, 12, 31⟩ ↔ (ofDays days).year ≤ year := by
  have next : toDays ⟨year, 12, 31⟩ + 1 = toDays ⟨year + 1, 1, 1⟩ := by
    simp only [toDays, Nat.reduceLeDiff, if_true, if_false, Int.add_sub_cancel]
    omega
  rw [← Int.lt_add_one_iff, next, ← Int.not_le, firstDay_le_iff, Int.not_le, Int.lt_add_one_iff]

end Rehearsal.Date
