import Mathlib.Order.Bounds.Basic
import AccessRules.Proofs.Calendar.Dates
import AccessRules.Proofs.Calendar.Digits

/-!
The environment of an instant against its text. The hours and the minutes of the environment are
those that the text shows, and the day of the week is that of the date in the text; seconds do not
count, and after a week, but no earlier, everything comes again.
-/

namespace AccessRules

namespace Timestamp

theorem hour_lt (t : Timestamp) : t.hour < 24 := by
  rw [hour, secondOfDay]
  omega

theorem minute_lt (t : Timestamp) : t.minute < 60 := by
  rw [minute]
  omega

theorem hour_eq (t : Timestamp) : (t.hour : Int) = t.seconds / 3600 % 24 := by
  rw [hour, secondOfDay]
  omega

theorem minute_eq (t : Timestamp) : (t.minute : Int) = t.seconds / 60 % 60 := by
  rw [minute, secondOfDay]
  omega

theorem weekday_eq (t : Timestamp) : (t.weekday : Int) = (t.seconds / 86400 + 3) % 7 + 1 := by
  rw [weekday, days, Date.weekdayOfDays]
  omega

theorem isWeekend_eq (t : Timestamp) : t.isWeekend = decide (t.weekday = 6 ∨ t.weekday = 7) := by
  have := t.weekday_eq
  rw [isWeekend, decide_eq_decide]
  omega

theorem month_lt (t : Timestamp) : t.date.month < 100 := by
  have := (Date.isValid_iff _).mp (Date.isValid_ofDays t.days)
  rw [date]
  omega

theorem day_lt (t : Timestamp) : t.date.day < 100 := by
  have valid := (Date.isValid_iff _).mp (Date.isValid_ofDays t.days)
  have := Date.daysInMonth_le (Date.ofDays t.days).year (Date.ofDays t.days).month
  rw [date]
  omega

/-- A text that begins with a date, a `T`, the hour and the minute. -/
inductive Shows : String → Date → Nat → Nat → Prop where
  | intro {year month day hours minutes rest : List Char} {date : Date} {hour minute : Nat}
      (inYear : WritesYear year date.year) (inMonth : TwoDigits month date.month)
      (onDay : TwoDigits day date.day) (atHour : TwoDigits hours hour)
      (atMinute : TwoDigits minutes minute) :
      Shows (String.ofList (year ++ '-' :: month ++ '-' :: day ++ 'T' :: hours ++ ':' :: minutes ++
        ':' :: rest)) date hour minute

def shown? (s : List Char) : Option (Date × Nat × Nat) := do
  let (year, s) ← year? s
  let s ← separator? '-' s
  let (month, s) ← field? s
  let s ← separator? '-' s
  let (day, s) ← field? s
  let s ← separator? 'T' s
  let (hour, s) ← field? s
  let s ← separator? ':' s
  let (minute, _) ← field? s
  return (⟨year, month, day⟩, hour, minute)

theorem Shows.shown? {text : String} {date : Date} {hour minute : Nat}
    (shows : Shows text date hour minute) :
    Timestamp.shown? text.toList = some (date, hour, minute) := by
  obtain ⟨inYear, inMonth, onDay, atHour, atMinute⟩ := shows
  have ends {rest : List Char} : NoDigit ('-' :: rest) := by simp [NoDigit]
  rw [String.toList_ofList, Timestamp.shown?]
  simp only [List.append_assoc, List.cons_append]
  refine (bind_found (inYear.year? ends) _).trans ?_
  refine (bind_found (separator?_cons (by decide) _) _).trans ?_
  refine (bind_found (inMonth.field? _) _).trans ?_
  refine (bind_found (separator?_cons (by decide) _) _).trans ?_
  refine (bind_found (onDay.field? _) _).trans ?_
  refine (bind_found (separator?_cons (by decide) _) _).trans ?_
  refine (bind_found (atHour.field? _) _).trans ?_
  refine (bind_found (separator?_cons (by decide) _) _).trans ?_
  exact bind_found (atMinute.field? _) _

theorem shows_text (t : Timestamp) : Shows t.text t.date t.hour t.minute := by
  have shown : Shows _ t.date t.hour t.minute :=
    @Shows.intro _ _ _ _ _ (padded 2 t.second ++ fractionChars t.fraction ++ ['Z']) _ _ _
      (writesYear_yearChars _) (twoDigits_padded t.month_lt) (twoDigits_padded t.day_lt)
      (twoDigits_padded (by have := t.hour_lt; omega))
      (twoDigits_padded (by have := t.minute_lt; omega))
  rw [text, chars, dateChars, timeChars]
  simpa only [List.append_assoc, List.cons_append] using shown

/-- The text of an instant shows one date, one hour and one minute. -/
theorem shows_text_iff (t : Timestamp) (date : Date) (hour minute : Nat) :
    Shows t.text date hour minute ↔ date = t.date ∧ hour = t.hour ∧ minute = t.minute := by
  constructor
  · intro shows
    have same := shows.shown?.symm.trans t.shows_text.shown?
    simpa using same
  · rintro ⟨rfl, rfl, rfl⟩
    exact t.shows_text

theorem counted_date (t : Timestamp) : Date.Counted (t.seconds / 86400) t.date t.weekday :=
  Date.counted_ofDays t.days

theorem counted_weekday_iff (t : Timestamp) (weekday : Nat) :
    (∃ days, Date.Counted days t.date weekday) ↔ weekday = t.weekday := by
  constructor
  · rintro ⟨days, counted⟩
    obtain ⟨same, rfl⟩ := (Date.counted_iff _ _ _).mp counted
    have days_eq : days = t.days := by
      rw [← Date.toDays_ofDays days, ← same, date, Date.toDays_ofDays]
    rw [days_eq, Timestamp.weekday]
  · rintro rfl
    exact ⟨_, t.counted_date⟩

theorem environment_eq_iff (s t : Timestamp) :
    s.environment = t.environment ↔ s.seconds / 60 % 10080 = t.seconds / 60 % 10080 := by
  have told : s.environment = t.environment ↔
      s.hour = t.hour ∧ s.minute = t.minute ∧ s.weekday = t.weekday := by
    constructor
    · intro same
      have fields : s.hour = t.hour ∧ s.minute = t.minute ∧ s.weekday = t.weekday ∧
          s.isWeekend = t.isWeekend := by
        simpa [environment, Json.int, and_assoc] using same
      exact ⟨fields.1, fields.2.1, fields.2.2.1⟩
    · rintro ⟨hours, minutes, weekdays⟩
      simp [environment, isWeekend, hours, minutes, weekdays]
  have := s.hour_eq
  have := t.hour_eq
  have := s.minute_eq
  have := t.minute_eq
  have := s.weekday_eq
  have := t.weekday_eq
  rw [told]
  omega

/-- A shift by less than a week moves some instant into another minute of the week. -/
theorem exists_environment_ne {period : Nat} (positive : 0 < period) (short : period < 604800) :
    ∃ s t : Timestamp, t.seconds = s.seconds + period ∧ t.environment ≠ s.environment := by
  have shifted (start : Nat) (early : start < 60) : ∃ s t : Timestamp,
      s.seconds = start ∧ t.seconds = s.seconds + period :=
    ⟨⟨start, 0, by omega, by omega, by omega, by omega⟩,
      ⟨start + period, 0, by omega, by omega, by omega, by omega⟩, rfl, rfl⟩
  rcases Nat.lt_or_ge period 60 with within | beyond
  · -- A shift within a minute is seen from the minute's last second on.
    obtain ⟨s, t, start, later⟩ := shifted 59 (by decide)
    refine ⟨s, t, later, fun same => ?_⟩
    rw [environment_eq_iff] at same
    omega
  · obtain ⟨s, t, start, later⟩ := shifted 0 (by decide)
    refine ⟨s, t, later, fun same => ?_⟩
    rw [environment_eq_iff] at same
    omega

/-- The environment of an instant holds the hour and the minute that its text shows and the day of
the week of the date that its text shows, found by counting days from a known Thursday; in seconds,
divided downwards, they are what the equations say. Instants have one environment exactly in one
minute of the week, so that the least period is a week. -/
theorem environment_tells_clock_and_weekday :
    (∀ t : Timestamp, ∃ (date : Date) (hour minute weekday : Nat),
      t.environment = .obj [
        ("time", .obj [("hours", .int hour), ("minutes", .int minute)]),
        ("day", .obj [("weekday", .int weekday),
          ("is_weekend", .bool (decide (weekday = 6 ∨ weekday = 7)))])] ∧
      (∀ day hours minutes, Shows t.text day hours minutes ↔
        day = date ∧ hours = hour ∧ minutes = minute) ∧
      Date.Counted (t.seconds / 86400) date weekday ∧
      (∀ other, (∃ days, Date.Counted days date other) ↔ other = weekday) ∧
      (hour : Int) = t.seconds / 3600 % 24 ∧
      (minute : Int) = t.seconds / 60 % 60 ∧
      (weekday : Int) = (t.seconds / 86400 + 3) % 7 + 1) ∧
    (∀ s t : Timestamp,
      s.environment = t.environment ↔ s.seconds / 60 % 10080 = t.seconds / 60 % 10080) ∧
    IsLeast {period : Nat | 0 < period ∧ ∀ s t : Timestamp,
      t.seconds = s.seconds + period → t.environment = s.environment} 604800 := by
  refine ⟨fun t => ?_, environment_eq_iff, ⟨by decide, fun s t later => ?_⟩, ?_⟩
  · refine ⟨t.date, t.hour, t.minute, t.weekday, ?_, t.shows_text_iff, t.counted_date,
      t.counted_weekday_iff, t.hour_eq, t.minute_eq, t.weekday_eq⟩
    rw [environment, isWeekend_eq]
  · rw [environment_eq_iff, later]
    omega
  · rintro period ⟨positive, repeats⟩
    by_contra short
    obtain ⟨s, t, later, differ⟩ := exists_environment_ne positive (not_le.mp short)
    exact differ (repeats s t later)

theorem environment_tells_clock_and_weekday_leap_second :
    let t : Timestamp := ⟨-1, 1500000000, by decide⟩
    let nextWeek : Timestamp := ⟨604799, 0, by decide⟩
    (∃ date, Shows t.text date 23 59) ∧ t.environment = nextWeek.environment := by
  intro t nextWeek
  obtain ⟨each, same, -⟩ := environment_tells_clock_and_weekday
  obtain ⟨date, hour, minute, weekday, -, shown, -, -, hours, minutes, -⟩ := each t
  simp only [t] at hours minutes
  obtain rfl : hour = 23 := by omega
  obtain rfl : minute = 59 := by omega
  exact ⟨⟨date, (shown _ _ _).mpr ⟨rfl, rfl, rfl⟩⟩, (same t nextWeek).mpr (by decide)⟩

end Timestamp

end AccessRules
