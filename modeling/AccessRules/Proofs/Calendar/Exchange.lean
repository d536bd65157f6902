import AccessRules.Exchange.Access
import AccessRules.Proofs.Calendar.Environment
import AccessRules.Proofs.Json.Strings

/-!
Instants as they are exchanged. What is written for an instant is read back as that instant, to the
nanosecond; and the same date and time with an offset from universal time is read as the instant
that lies by the offset apart.
-/

namespace AccessRules

namespace Timestamp

theorem fraction?_padded {width n : Nat} (positive : 0 < width) (narrow : width ≤ 9)
    (fits : n < 10 ^ width) {rest : List Char} (ends : NoDigit rest) :
    fraction? ('.' :: padded width n ++ rest) = some (n * 10 ^ (9 - width), rest) := by
  have spelled := spells_padded width n
  have length := length_padded positive fits
  have read := digitsUpTo_append spelled.digit (by omega : _ ≤ 9) (.inr ends)
  have nothingLeft : rest.dropWhile Char.isDigit = rest := by
    cases rest with
    | nil => rfl
    | cons c rest => simp [ends c rfl]
  rw [List.cons_append, fraction?, read]
  split
  · rename_i none
    exact absurd (Prod.mk.inj none).1 spelled.nonempty
  · rename_i found
    obtain ⟨rfl, rfl⟩ := Prod.mk.inj found
    rw [length, numberOf_eq, spelled.value, nothingLeft]
    rfl

theorem fraction?_fractionChars {n : Nat} (fits : n < 1000000000) {rest : List Char}
    (ends : NoDigit rest) (noPoint : '.' ∉ rest.head?) :
    fraction? (fractionChars n ++ rest) = some (n, rest) := by
  rw [fractionChars]
  split
  · rename_i none
    rw [List.nil_append, fraction?, none]
    rintro later rfl
    exact noPoint rfl
  · split
    · rw [fraction?_padded (by decide) (by decide) (by omega) ends]
      congr 2
      omega
    · split
      · rw [fraction?_padded (by decide) (by decide) (by omega) ends]
        congr 2
        omega
      · rw [fraction?_padded (by decide) (by decide) (by omega) ends]
        congr 2
        omega

def StartsZone (zone : List Char) : Prop :=
  ∃ c rest, zone = c :: rest ∧ c.isDigit = false ∧ c ≠ '.' ∧ isUnicodeBlank c = false

def reading (t : Timestamp) : List Char :=
  dateChars t.date ++ 'T' :: t.timeChars

theorem second_lt (t : Timestamp) : t.second < 100 := by
  rw [second]
  split <;> omega

theorem fraction_lt (t : Timestamp) : t.fraction < 1000000000 := by
  have := t.inRange.2.2.1
  rw [fraction]
  split <;> omega

theorem ofChars?_reading (t : Timestamp) {zone : List Char} {offset : Int}
    (starts : StartsZone zone) (read : offset? zone = some (offset, [])) :
    ofChars? (t.reading ++ zone) =
      ofWallClock? t.date t.hour t.minute t.second t.fraction offset := by
  obtain ⟨c, rest, rfl, noDigit, noPoint, visible⟩ := starts
  have ends {c : Char} {rest : List Char} (noDigit : c.isDigit = false) : NoDigit (c :: rest) := by
    simpa [NoDigit] using noDigit
  have hours : TwoDigits (padded 2 t.hour) t.hour :=
    twoDigits_padded (by have := t.hour_lt; omega)
  have minutes : TwoDigits (padded 2 t.minute) t.minute :=
    twoDigits_padded (by have := t.minute_lt; omega)
  have fraction : fraction? (fractionChars t.fraction ++ c :: rest) =
      some (t.fraction, c :: rest) :=
    fraction?_fractionChars t.fraction_lt (ends noDigit) (by simpa using noPoint)
  rw [reading, dateChars, timeChars, ofChars?]
  simp only [List.append_assoc, List.cons_append]
  refine (bind_found ((writesYear_yearChars t.date.year).year? (ends rfl)) _).trans ?_
  refine (bind_found (separator?_cons (by decide) _) _).trans ?_
  refine (bind_found ((twoDigits_padded t.month_lt).field? _) _).trans ?_
  refine (bind_found (separator?_cons (by decide) _) _).trans ?_
  refine (bind_found ((twoDigits_padded t.day_lt).field? _) _).trans ?_
  refine (bind_found rfl _).trans ?_
  refine (bind_found (hours.field? _) _).trans ?_
  refine (bind_found (separator?_cons (by decide) _) _).trans ?_
  refine (bind_found (minutes.field? _) _).trans ?_
  refine (bind_found (separator?_cons (by decide) _) _).trans ?_
  refine (bind_found ((twoDigits_padded t.second_lt).field? _) _).trans ?_
  refine (bind_found fraction _).trans ?_
  refine (bind_found ((congrArg offset? (trimStart_cons visible _)).trans read) _).trans ?_
  rfl

theorem year_mem (t : Timestamp) : -262143 ≤ t.date.year ∧ t.date.year ≤ 262142 := by
  obtain ⟨after, before, -⟩ := t.inRange
  have first : (Date.newYear (-262143)).toDays = -96465292 := by decide
  have last : (Date.newYear (262142 + 1)).toDays = 95026237 := by decide
  refine Date.year_bounds (Date.isValid_ofDays t.days) ?_ ?_
  · rw [first, Date.toDays_ofDays, days]
    omega
  · rw [last, Date.toDays_ofDays, days]
    omega

theorem toDays_date (t : Timestamp) : t.date.toDays = t.seconds / 86400 :=
  Date.toDays_ofDays t.days

/-- The clock shows second 60 in a leap second only, and then second 59 is meant. -/
theorem shown_second (t : Timestamp) :
    (if t.second = 60 then 59 else t.second) = t.secondOfDay % 60 ∧
      (if t.second = 60 then t.fraction + 1000000000 else t.fraction) = t.nanos := by
  obtain ⟨-, -, -, leapSecond⟩ := t.inRange
  have within : (t.secondOfDay : Int) = t.seconds % 86400 := by
    rw [secondOfDay]
    omega
  rw [second, fraction]
  split <;> split <;> omega

theorem ofWallClock?_clock (t : Timestamp) {offset : Int} (small : offset.natAbs < 86400) :
    ofWallClock? t.date t.hour t.minute t.second t.fraction offset =
      ofUnix? (t.seconds - offset) t.nanos := by
  obtain ⟨first, last⟩ := t.year_mem
  obtain ⟨second_eq, nanos_eq⟩ := t.shown_second
  have second_le : t.second ≤ 60 := by
    rw [second]
    split <;> omega
  have valid : t.date.isValid = true := Date.isValid_ofDays t.days
  rw [ofWallClock?, if_pos ⟨valid, first, last, t.hour_lt, t.minute_lt, second_le, small⟩]
  simp only [second_eq, nanos_eq, toDays_date]
  -- Days, hours, minutes and seconds add up to the seconds that they came from.
  congr 1
  simp only [hour, minute, secondOfDay]
  omega

theorem ofUnix?_eq_some_iff (seconds : Int) (nanos : Nat) (instant : Timestamp) :
    ofUnix? seconds nanos = some instant ↔ instant.seconds = seconds ∧ instant.nanos = nanos := by
  obtain ⟨s, n, inRange⟩ := instant
  rw [ofUnix?]
  constructor
  · intro found
    split at found
    · cases found
      exact ⟨rfl, rfl⟩
    · cases found
  · rintro ⟨rfl, rfl⟩
    rw [dif_pos inRange]

/-- An offset from universal time, before it in the east and behind it in the west, with or without
a colon when it is written. -/
structure Offset where
  east : Bool
  hours : Fin 24
  minutes : Fin 60
  colon : Bool

namespace Offset

def seconds (offset : Offset) : Int :=
  let size : Nat := offset.hours * 3600 + offset.minutes * 60
  if offset.east then size else -size

def chars (offset : Offset) : List Char :=
  (if offset.east then '+' else '-') :: padded 2 offset.hours ++
    (if offset.colon then [':'] else []) ++ padded 2 offset.minutes

theorem natAbs_seconds_lt (offset : Offset) : offset.seconds.natAbs < 86400 := by
  rw [seconds]
  split <;> omega

theorem offsetDigits?_padded {hours minutes : Nat} (hours_lt : hours < 24)
    (minutes_lt : minutes < 60) (colon : Bool) :
    offsetDigits? (padded 2 hours ++ ((if colon then [':'] else []) ++ padded 2 minutes)) =
      some (hours * 3600 + minutes * 60, []) := by
  obtain ⟨twoHours, hoursSpelled⟩ := twoDigits_padded (by omega : hours < 100)
  obtain ⟨twoMinutes, minutesSpelled⟩ := twoDigits_padded (by omega : minutes < 100)
  obtain ⟨a, b, hourDigits⟩ := List.length_eq_two.mp twoHours
  obtain ⟨c, d, minuteDigits⟩ := List.length_eq_two.mp twoMinutes
  rw [hourDigits] at hoursSpelled ⊢
  rw [minuteDigits] at minutesSpelled ⊢
  have aDigit := hoursSpelled.digit a (by simp)
  have bDigit := hoursSpelled.digit b (by simp)
  have cDigit := minutesSpelled.digit c (by simp)
  have dDigit := minutesSpelled.digit d (by simp)
  have noColon : c ≠ ':' := by
    rintro rfl
    cases cDigit
  have found : ((if colon then [':'] else []) ++ [c, d]).dropWhile
      (fun c => c = ':' || isUnicodeBlank c) = [c, d] := by
    cases colon <;> simp [noColon, isUnicodeBlank_of_isDigit cDigit]
  have below : c < '6' := by
    have value := minutesSpelled.value
    rw [Nat.ofDigitChars_cons, Nat.ofDigitChars_cons, Nat.ofDigitChars_nil] at value
    have ten : c.toNat - '0'.toNat < 6 := by omega
    have zero : '0'.toNat = 48 := rfl
    have small : c.toNat < '6'.toNat := by
      have six : '6'.toNat = 54 := rfl
      omega
    exact small
  rw [List.cons_append, List.cons_append, List.nil_append, offsetDigits?, found]
  simp only [aDigit, bDigit, cDigit, dDigit, below, numberOf_eq, hoursSpelled.value,
    minutesSpelled.value, Bool.and_self, decide_true, if_true]

theorem offset?_chars (offset : Offset) : offset? offset.chars = some (offset.seconds, []) := by
  obtain ⟨east, hours, minutes, colon⟩ := offset
  have read := offsetDigits?_padded hours.isLt minutes.isLt colon
  cases east with
  | true =>
    simp only [chars, if_true, List.cons_append, List.append_assoc, offset?, read]
    rfl
  | false =>
    simp only [chars, Bool.false_eq_true, if_false, List.cons_append, List.append_assoc, offset?,
      read]
    rfl

end Offset

def textAt (t : Timestamp) (offset : Offset) : String :=
  String.ofList (t.reading ++ offset.chars)

theorem ofText?_text (t : Timestamp) : ofText? t.text = some t := by
  have zone : StartsZone ['Z'] := ⟨'Z', [], rfl, by decide, by decide, by decide⟩
  have read : ofChars? (t.reading ++ ['Z']) =
      ofWallClock? t.date t.hour t.minute t.second t.fraction 0 := t.ofChars?_reading zone rfl
  rw [t.ofWallClock?_clock (by decide), Int.sub_zero] at read
  rw [ofText?, text, String.toList_ofList, chars]
  simp only [reading, List.append_assoc, List.cons_append] at read ⊢
  rw [read, ofUnix?_eq_some_iff]
  exact ⟨rfl, rfl⟩

theorem ofText?_textAt (t : Timestamp) (offset : Offset) :
    ofText? (t.textAt offset) = ofUnix? (t.seconds - offset.seconds) t.nanos := by
  have zone : StartsZone offset.chars := by
    obtain ⟨east, hours, minutes, colon⟩ := offset
    refine ⟨if east then '+' else '-', _, rfl, ?_⟩
    cases east <;> decide
  rw [ofText?, textAt, String.toList_ofList, t.ofChars?_reading zone offset.offset?_chars,
    t.ofWallClock?_clock offset.natAbs_seconds_lt]

def storage (written : String) : String :=
  (Json.obj [("timestamp", .str written)]).text

def stored? (text : String) : Option Timestamp :=
  (Source.ofText? text).bind ofSource?

theorem stored?_storage (written : String) : stored? (storage written) = ofText? written := by
  obtain ⟨nameUnits, units, read, named, means⟩ := Source.ofText?_single "timestamp" written
  have field : (Source.obj [(nameUnits, .str units)]).record? ["timestamp"] =
      some [some (.str units)] := by
    simp [Source.record?, Source.namedFields?, named, Source.countName, Source.lookup]
  rw [stored?, storage, read, Option.bind_some, ofSource?, field]
  simp [Source.fieldOr, Source.string?, means]

/-- What is stored for an instant is read back as the instant. The same date and time with an offset
are read as the instant that lies by the offset apart, if it is within range, and as nothing else;
so the environment is the same however an instant is written. -/
theorem instant_survives_exchange :
    (∀ t : Timestamp, t.toJson.text = storage t.text ∧ stored? (storage t.text) = some t ∧
      t.text = String.ofList (t.reading ++ ['Z'])) ∧
    (∀ (t : Timestamp) (offset : Offset) (instant : Timestamp),
      stored? (storage (t.textAt offset)) = some instant ↔
        instant.seconds = t.seconds - offset.seconds ∧ instant.nanos = t.nanos) ∧
    ∀ (s t : Timestamp) (offset other : Offset),
      s.seconds - offset.seconds = t.seconds - other.seconds → s.nanos = t.nanos →
        (stored? (storage (s.textAt offset))).map environment =
          (stored? (storage (t.textAt other))).map environment := by
  refine ⟨fun t => ⟨rfl, ?_, ?_⟩, fun t offset instant => ?_,
    fun s t offset other seconds nanos => ?_⟩
  · rw [stored?_storage, t.ofText?_text]
  · simp only [text, chars, reading, List.append_assoc, List.cons_append]
  · rw [stored?_storage, ofText?_textAt, ofUnix?_eq_some_iff]
  · rw [stored?_storage, stored?_storage, ofText?_textAt, ofText?_textAt, seconds, nanos]

theorem instant_survives_exchange_west :
    let clock : Timestamp := ⟨-1, 1500000000, by decide⟩
    let instant : Timestamp := ⟨19799, 1500000000, by decide⟩
    let west : Offset := ⟨false, 5, 30, true⟩
    stored? (storage (clock.textAt west)) = some instant ∧
      (stored? (storage (clock.textAt west))).map environment =
        (stored? (storage (instant.textAt ⟨true, 0, 0, false⟩))).map environment := by
  intro clock instant west
  obtain ⟨-, shifted, same⟩ := instant_survives_exchange
  exact ⟨(shifted clock west instant).mpr ⟨by decide, by decide⟩,
    same clock instant west ⟨true, 0, 0, false⟩ (by decide) (by decide)⟩

end Timestamp

end AccessRules
