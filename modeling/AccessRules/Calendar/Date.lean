/-!
The proleptic Gregorian calendar. Days are counted from 1970-01-01, and a year is taken to begin in
March, so that the leap day is its last day; dates are then a matter of division in cycles of 400,
100, 4 and 1 years.
-/

namespace AccessRules

structure Date where
  year : Int
  month : Nat
  day : Nat
deriving DecidableEq

namespace Date

def isLeapYear (year : Int) : Bool :=
  year % 4 = 0 && (year % 100 != 0 || year % 400 = 0)

def daysInMonth (year : Int) (month : Nat) : Nat :=
  if month = 2 then (if isLeapYear year then 29 else 28)
  else if month = 4 ∨ month = 6 ∨ month = 9 ∨ month = 11 then 30
  else 31

def isValid (date : Date) : Bool :=
  decide (1 ≤ date.month) && decide (date.month ≤ 12) && decide (1 ≤ date.day) &&
    decide (date.day ≤ daysInMonth date.year date.month)

/-- The days from 0000-03-01 to 1970-01-01. -/
def epochOffset : Int := 719468

/-- The days before a month, counted from March, which is month 0. -/
def daysBeforeMonth (fromMarch : Nat) : Nat :=
  (153 * fromMarch + 2) / 5

def toDays (date : Date) : Int :=
  let year := if date.month ≤ 2 then date.year - 1 else date.year
  let fromMarch := if date.month ≤ 2 then date.month + 9 else date.month - 3
  365 * year + year / 4 - year / 100 + year / 400 +
    (daysBeforeMonth fromMarch + date.day : Nat) - 1 - epochOffset

/-- The date that lies a number of days after 1970-01-01. The last century of a cycle of 400 years
and the last year of a cycle of 4 are one day longer than the others. -/
def ofDays (days : Int) : Date :=
  let shifted := days + epochOffset
  let era := shifted / 146097
  let inEra := (shifted % 146097).toNat
  let century := min (inEra / 36524) 3
  let inCentury := inEra - century * 36524
  let cycle := inCentury / 1461
  let inCycle := inCentury % 1461
  let yearOfCycle := min (inCycle / 365) 3
  let dayOfYear := inCycle - yearOfCycle * 365
  let fromMarch := (5 * dayOfYear + 2) / 153
  let day := dayOfYear - daysBeforeMonth fromMarch + 1
  let year := era * 400 + (century * 100 + cycle * 4 + yearOfCycle : Nat)
  if fromMarch < 10 then ⟨year, fromMarch + 3, day⟩ else ⟨year + 1, fromMarch - 9, day⟩

/-- The day of the week, Monday being 1, a number of days after 1970-01-01, which was a
Thursday. -/
def weekdayOfDays (days : Int) : Nat :=
  ((days + 3) % 7).toNat + 1

end Date

end AccessRules
