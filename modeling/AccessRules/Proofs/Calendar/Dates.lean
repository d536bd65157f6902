import Mathlib
import AccessRules.Calendar.Date

/-!
The calendar by plain counting. From a day to the next one the date moves on by the lengths of the
months, and the day of the week by one; with one day known, that fixes every date and every day of
the week in both directions. Division in cycles of years comes to the same.
-/

namespace AccessRules

namespace Date

theorem isLeapYear_iff (year : Int) :
    isLeapYear year = true ↔ year % 4 = 0 ∧ (year % 100 ≠ 0 ∨ year % 400 = 0) := by
  simp [isLeapYear]

theorem isValid_iff (date : Date) : date.isValid = true ↔
    1 ≤ date.month ∧ date.month ≤ 12 ∧ 1 ≤ date.day ∧
      date.day ≤ daysInMonth date.year date.month := by
  simp [isValid, and_assoc]

/-- The year in which a date lies if years begin in March. -/
def marchYear (date : Date) : Int :=
  if date.month ≤ 2 then date.year - 1 else date.year

def monthsFromMarch (date : Date) : Nat :=
  if date.month ≤ 2 then date.month + 9 else date.month - 3

def lengthFromMarch (year : Int) (month : Nat) : Nat :=
  if month = 11 then if isLeapYear (year + 1) then 29 else 28
  else daysBeforeMonth (month + 1) - daysBeforeMonth month

theorem daysInMonth_eq (date : Date) (first : 1 ≤ date.month) (last : date.month ≤ 12) :
    daysInMonth date.year date.month = lengthFromMarch date.marchYear date.monthsFromMarch := by
  obtain ⟨year, month, day⟩ := date
  dsimp only at first last ⊢
  interval_cases month <;> simp [daysInMonth, lengthFromMarch, daysBeforeMonth, marchYear,
    monthsFromMarch]

theorem toDays_eq (date : Date) : date.toDays = 365 * date.marchYear + date.marchYear / 4 -
    date.marchYear / 100 + date.marchYear / 400 +
      (daysBeforeMonth date.monthsFromMarch + date.day : Nat) - 1 - epochOffset :=
  rfl

theorem ext_march {date other : Date} (first : 1 ≤ date.month) (first' : 1 ≤ other.month)
    (last : date.month ≤ 12) (last' : other.month ≤ 12)
    (years : date.marchYear = other.marchYear)
    (months : date.monthsFromMarch = other.monthsFromMarch) (days : date.day = other.day) :
    date = other := by
  obtain ⟨year, month, day⟩ := date
  obtain ⟨year', month', day'⟩ := other
  dsimp only at first first' last last' days
  simp only [marchYear, monthsFromMarch] at years months
  rw [mk.injEq]
  split at years <;> split at years <;> simp only [*, if_true, if_false] at months <;> omega

end Date

/-- The place of a day in the cycles of 400, 100, 4 and 1 years, all beginning in March. Day 365 is
the leap day of the year. -/
structure CycleDay where
  era : Int
  century : Nat
  cycle : Nat
  year : Nat
  day : Nat
  century_le : century ≤ 3
  cycle_le : cycle ≤ 24
  year_le : year ≤ 3
  day_le : day ≤ 365
  leapDay : day = 365 → year = 3 ∧ (cycle = 24 → century = 3)

namespace CycleDay

def count (place : CycleDay) : Int :=
  146097 * place.era +
    (36524 * place.century + 1461 * place.cycle + 365 * place.year + place.day : Nat)

def marchYear (place : CycleDay) : Int :=
  place.era * 400 + (place.century * 100 + place.cycle * 4 + place.year : Nat)

def monthsFromMarch (place : CycleDay) : Nat :=
  (5 * place.day + 2) / 153

def date (place : CycleDay) : Date :=
  let day := place.day - Date.daysBeforeMonth place.monthsFromMarch + 1
  if place.monthsFromMarch < 10 then ⟨place.marchYear, place.monthsFromMarch + 3, day⟩
  else ⟨place.marchYear + 1, place.monthsFromMarch - 9, day⟩

theorem exists_count (n : Int) : ∃ place : CycleDay, place.count = n := by
  obtain ⟨k, inEra⟩ : ∃ k : Nat, n % 146097 = k := ⟨(n % 146097).toNat, by omega⟩
  have bound : k < 146097 := by omega
  obtain ⟨century, inCentury⟩ : ∃ c, min (k / 36524) 3 = c := ⟨_, rfl⟩
  obtain ⟨rest, split⟩ : ∃ rest, k - century * 36524 = rest := ⟨_, rfl⟩
  obtain ⟨year, inCycle⟩ : ∃ y, min (rest % 1461 / 365) 3 = y := ⟨_, rfl⟩
  refine ⟨⟨n / 146097, century, rest / 1461, year, rest % 1461 - year * 365, by omega, by omega,
    by omega, by omega, by omega⟩, ?_⟩
  simp only [count]
  omega

theorem ofDays_count (place : CycleDay) :
    Date.ofDays (place.count - Date.epochOffset) = place.date := by
  obtain ⟨era, century, cycle, year, day, century_le, cycle_le, year_le, day_le, leapDay⟩ := place
  obtain ⟨k, inEra⟩ : ∃ k, 36524 * century + 1461 * cycle + 365 * year + day = k := ⟨_, rfl⟩
  have bound : k < 146097 := by omega
  have centuries : min (k / 36524) 3 = century := by omega
  have cycles : (k - century * 36524) / 1461 = cycle := by omega
  have years : min ((k - century * 36524) % 1461 / 365) 3 = year := by omega
  have days : (k - century * 36524) % 1461 - year * 365 = day := by omega
  have eras : (146097 * era + (k : Int)) / 146097 = era := by omega
  have within : ((146097 * era + (k : Int)) % 146097).toNat = k := by omega
  simp only [Date.ofDays, count, date, marchYear, monthsFromMarch, inEra, Int.sub_add_cancel, eras,
    within, centuries, cycles, years, days]
  rfl

theorem monthsFromMarch_le (place : CycleDay) : place.monthsFromMarch ≤ 11 := by
  have := place.day_le
  rw [monthsFromMarch]
  omega

theorem daysBeforeMonth_le (place : CycleDay) :
    Date.daysBeforeMonth place.monthsFromMarch ≤ place.day := by
  have := place.day_le
  rw [Date.daysBeforeMonth, monthsFromMarch]
  omega

theorem month_date (place : CycleDay) : 1 ≤ place.date.month ∧ place.date.month ≤ 12 := by
  have := place.monthsFromMarch_le
  simp only [date]
  split <;> dsimp only <;> omega

theorem marchYear_date (place : CycleDay) : place.date.marchYear = place.marchYear := by
  have := place.monthsFromMarch_le
  simp only [date]
  split <;> simp only [Date.marchYear] <;> split <;> omega

theorem monthsFromMarch_date (place : CycleDay) :
    place.date.monthsFromMarch = place.monthsFromMarch := by
  have := place.monthsFromMarch_le
  simp only [date]
  split <;> simp only [Date.monthsFromMarch] <;> split <;> omega

theorem day_date (place : CycleDay) :
    Date.daysBeforeMonth place.monthsFromMarch + place.date.day = place.day + 1 := by
  have := place.daysBeforeMonth_le
  simp only [date]
  split <;> dsimp only <;> omega

theorem toDays_date (place : CycleDay) :
    place.date.toDays = place.count - Date.epochOffset := by
  rw [Date.toDays_eq, marchYear_date, monthsFromMarch_date, day_date, marchYear, count]
  have := place.century_le
  have := place.cycle_le
  have := place.year_le
  omega

theorem isLeapYear_iff (place : CycleDay) : Date.isLeapYear (place.marchYear + 1) = true ↔
    place.year = 3 ∧ (place.cycle = 24 → place.century = 3) := by
  have := place.century_le
  have := place.cycle_le
  have := place.year_le
  rw [Date.isLeapYear_iff, marchYear]
  omega

theorem isValid_date (place : CycleDay) : place.date.isValid = true := by
  obtain ⟨first, last⟩ := place.month_date
  have day := place.day_date
  have day_le := place.day_le
  have leapDay := place.leapDay
  have month : place.monthsFromMarch = (5 * place.day + 2) / 153 := rfl
  rw [Date.isValid_iff, Date.daysInMonth_eq _ first last, marchYear_date, monthsFromMarch_date]
  simp only [Date.lengthFromMarch, isLeapYear_iff]
  simp only [Date.daysBeforeMonth] at day ⊢
  refine ⟨first, last, by omega, ?_⟩
  split
  · split <;> omega
  · omega

/-- Every date of the calendar has its place in the cycles. -/
theorem exists_date {date : Date} (valid : date.isValid = true) :
    ∃ place : CycleDay, place.date = date := by
  obtain ⟨first, last, day, dayLast⟩ := (Date.isValid_iff date).mp valid
  rw [Date.daysInMonth_eq _ first last, Date.lengthFromMarch] at dayLast
  have month : date.monthsFromMarch ≤ 11 := by
    rw [Date.monthsFromMarch]
    split <;> omega
  obtain ⟨n, counted⟩ : ∃ n, Date.daysBeforeMonth date.monthsFromMarch + date.day = n + 1 :=
    ⟨Date.daysBeforeMonth date.monthsFromMarch + date.day - 1, by omega⟩
  have inMonth : (5 * n + 2) / 153 = date.monthsFromMarch := by
    simp only [Date.daysBeforeMonth] at counted dayLast
    split at dayLast
    · split at dayLast <;> omega
    · omega
  have inYear : n ≤ 365 := by
    simp only [Date.daysBeforeMonth] at counted dayLast
    split at dayLast
    · split at dayLast <;> omega
    · omega
  have leapDay (late : n = 365) : Date.isLeapYear (date.marchYear + 1) = true := by
    by_contra common
    rw [Date.daysBeforeMonth] at counted
    rw [if_pos (by omega), if_neg common] at dayLast
    omega
  simp only [Date.isLeapYear_iff] at leapDay
  let place : CycleDay := ⟨date.marchYear / 400, (date.marchYear % 400 / 100).toNat,
    (date.marchYear % 100 / 4).toNat, (date.marchYear % 4).toNat, n, by omega, by omega,
    by omega, inYear, by omega⟩
  have sameYear : place.marchYear = date.marchYear := by
    simp only [place, marchYear]
    omega
  have sameMonth : place.monthsFromMarch = date.monthsFromMarch := inMonth
  have sameDay : place.day = n := rfl
  have day := place.day_date
  rw [sameMonth, sameDay, ← counted] at day
  exact ⟨place, Date.ext_march place.month_date.1 first place.month_date.2 last
    (by rw [marchYear_date, sameYear]) (by rw [monthsFromMarch_date, sameMonth]) (by omega)⟩

end CycleDay

namespace Date

theorem toDays_ofDays (days : Int) : (ofDays days).toDays = days := by
  obtain ⟨place, counted⟩ := CycleDay.exists_count (days + epochOffset)
  obtain rfl : days = place.count - epochOffset := by omega
  rw [place.ofDays_count, place.toDays_date]

theorem isValid_ofDays (days : Int) : (ofDays days).isValid = true := by
  obtain ⟨place, counted⟩ := CycleDay.exists_count (days + epochOffset)
  obtain rfl : days = place.count - epochOffset := by omega
  rw [place.ofDays_count]
  exact place.isValid_date

theorem ofDays_toDays {date : Date} (valid : date.isValid = true) : ofDays date.toDays = date := by
  obtain ⟨place, rfl⟩ := CycleDay.exists_date valid
  rw [place.toDays_date, place.ofDays_count]

def next (date : Date) : Date :=
  if date.day < daysInMonth date.year date.month then ⟨date.year, date.month, date.day + 1⟩
  else if date.month < 12 then ⟨date.year, date.month + 1, 1⟩
  else ⟨date.year + 1, 1, 1⟩

def previous (date : Date) : Date :=
  if 1 < date.day then ⟨date.year, date.month, date.day - 1⟩
  else if 1 < date.month then
    ⟨date.year, date.month - 1, daysInMonth date.year (date.month - 1)⟩
  else ⟨date.year - 1, 12, 31⟩

theorem daysInMonth_pos (year : Int) (month : Nat) : 1 ≤ daysInMonth year month := by
  rw [daysInMonth]
  repeat' split
  all_goals omega

theorem daysInMonth_le (year : Int) (month : Nat) : daysInMonth year month ≤ 31 := by
  rw [daysInMonth]
  repeat' split
  all_goals omega

theorem isValid_next {date : Date} (valid : date.isValid = true) : date.next.isValid = true := by
  obtain ⟨first, last, day, dayLast⟩ := (isValid_iff date).mp valid
  rw [next, isValid_iff]
  split
  · dsimp only
    omega
  · split
    · have fits := daysInMonth_pos date.year (date.month + 1)
      dsimp only
      omega
    · have fits := daysInMonth_pos (date.year + 1) 1
      dsimp only
      omega

theorem isValid_previous {date : Date} (valid : date.isValid = true) :
    date.previous.isValid = true := by
  obtain ⟨first, last, day, dayLast⟩ := (isValid_iff date).mp valid
  rw [previous, isValid_iff]
  split
  · dsimp only
    omega
  · split
    · have fits := daysInMonth_pos date.year (date.month - 1)
      dsimp only
      omega
    · have december : daysInMonth (date.year - 1) 12 = 31 := rfl
      dsimp only
      omega

theorem toDays_next {date : Date} (valid : date.isValid = true) :
    date.next.toDays = date.toDays + 1 := by
  obtain ⟨year, month, day⟩ := date
  rw [isValid_iff] at valid
  obtain ⟨first, last, -, dayLast⟩ := valid
  dsimp only at first last dayLast
  rw [next]
  dsimp only
  split
  · simp only [toDays]
    omega
  · -- At the end of a month the lengths of the months must agree with the formula for March years.
    obtain rfl : day = daysInMonth year month := by omega
    have leap := isLeapYear_iff year
    cases leapYear : isLeapYear year <;> rw [leapYear] at leap <;> interval_cases month <;>
      simp [daysInMonth, toDays, daysBeforeMonth, leapYear] at leap ⊢ <;> omega

theorem next_previous {date : Date} (valid : date.isValid = true) :
    date.previous.next = date := by
  obtain ⟨year, month, day⟩ := date
  rw [isValid_iff] at valid
  obtain ⟨first, last, dayFirst, dayLast⟩ := valid
  dsimp only at first last dayFirst dayLast
  simp only [previous]
  split
  · have inside : day - 1 < daysInMonth year month := by omega
    simp only [next, inside, if_true, mk.injEq, true_and]
    omega
  · obtain rfl : day = 1 := by omega
    split
    · have inside : month - 1 < 12 := by omega
      simp only [next, lt_irrefl, if_false, inside, if_true, mk.injEq, true_and, and_true]
      omega
    · have december : daysInMonth (year - 1) 12 = 31 := rfl
      simp only [next, december, lt_irrefl, if_false, mk.injEq, and_true]
      omega

theorem ofDays_succ (days : Int) : ofDays (days + 1) = (ofDays days).next := by
  have valid := isValid_ofDays days
  rw [← ofDays_toDays (isValid_next valid), toDays_next valid, toDays_ofDays]

theorem ofDays_pred (days : Int) : ofDays (days - 1) = (ofDays days).previous := by
  have valid := isValid_ofDays days
  have before := toDays_next (isValid_previous valid)
  rw [next_previous valid, toDays_ofDays] at before
  rw [← ofDays_toDays (isValid_previous valid)]
  exact congrArg ofDays (by omega)

def newYear (year : Int) : Date := ⟨year, 1, 1⟩

theorem toDays_newYear (year : Int) : (newYear year).toDays = 365 * (year - 1) + (year - 1) / 4 -
    (year - 1) / 100 + (year - 1) / 400 + 306 - epochOffset := by
  simp [toDays, newYear, daysBeforeMonth]
  omega

theorem strictMono_newYear : StrictMono fun year => (newYear year).toDays := by
  refine strictMono_int_of_lt_succ fun year => ?_
  simp only [toDays_newYear]
  omega

theorem newYear_bounds {date : Date} (valid : date.isValid = true) :
    (newYear date.year).toDays ≤ date.toDays ∧ date.toDays < (newYear (date.year + 1)).toDays := by
  obtain ⟨first, last, dayFirst, dayLast⟩ := (isValid_iff date).mp valid
  have dayLast := dayLast.trans (daysInMonth_le _ _)
  rw [toDays_newYear, toDays_newYear]
  simp only [toDays, daysBeforeMonth]
  split <;> omega

/-- A day between two turns of the year lies in the years between them. -/
theorem year_bounds {date : Date} (valid : date.isValid = true) {first last : Int}
    (after : (newYear first).toDays ≤ date.toDays)
    (before : date.toDays < (newYear (last + 1)).toDays) :
    first ≤ date.year ∧ date.year ≤ last := by
  obtain ⟨begun, notOver⟩ := newYear_bounds valid
  have notEarlier := strictMono_newYear.lt_iff_lt.mp (after.trans_lt notOver)
  have notLater := strictMono_newYear.lt_iff_lt.mp (begun.trans_lt before)
  omega

/-- Counting of days: 1970-01-01 was a Thursday, and from one day to the next the date and the day
of the week, Monday being 1, move on by one. -/
inductive Counted : Int → Date → Nat → Prop where
  | origin : Counted 0 ⟨1970, 1, 1⟩ 4
  | later {days : Int} {date : Date} {weekday : Nat} (counted : Counted days date weekday) :
      Counted (days + 1) date.next (if weekday = 7 then 1 else weekday + 1)
  | earlier {days : Int} {date : Date} {weekday : Nat} (counted : Counted days date weekday) :
      Counted (days - 1) date.previous (if weekday = 1 then 7 else weekday - 1)

theorem weekdayOfDays_succ (days : Int) : weekdayOfDays (days + 1) =
    if weekdayOfDays days = 7 then 1 else weekdayOfDays days + 1 := by
  split <;> simp only [weekdayOfDays] at * <;> omega

theorem weekdayOfDays_pred (days : Int) : weekdayOfDays (days - 1) =
    if weekdayOfDays days = 1 then 7 else weekdayOfDays days - 1 := by
  split <;> simp only [weekdayOfDays] at * <;> omega

theorem counted_ofDays (days : Int) : Counted days (ofDays days) (weekdayOfDays days) := by
  induction days using Int.induction_on with
  | zero => exact .origin
  | succ n counted =>
    rw [ofDays_succ, weekdayOfDays_succ]
    exact .later counted
  | pred n counted =>
    rw [ofDays_pred, weekdayOfDays_pred]
    exact .earlier counted

/-- Division in cycles finds what counting finds. -/
theorem counted_iff (days : Int) (date : Date) (weekday : Nat) :
    Counted days date weekday ↔ date = ofDays days ∧ weekday = weekdayOfDays days := by
  constructor
  · intro counted
    induction counted with
    | origin => decide
    | later counted ih =>
      rw [ofDays_succ, weekdayOfDays_succ, ← ih.1, ← ih.2]
      exact ⟨rfl, rfl⟩
    | earlier counted ih =>
      rw [ofDays_pred, weekdayOfDays_pred, ← ih.1, ← ih.2]
      exact ⟨rfl, rfl⟩
  · rintro ⟨rfl, rfl⟩
    exact counted_ofDays days

end Date

end AccessRules
