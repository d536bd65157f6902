import AccessRules.Calendar.Date
import AccessRules.Json.Value

/-!
Instants, in seconds and nanoseconds from 1970-01-01 in universal time. A leap second is the
second 59 of a minute with a full second or more of nanoseconds.
-/

namespace AccessRules

/-- The seconds that the calendar reaches, and nanoseconds that a leap second alone may overrun. -/
def Timestamp.InRange (seconds : Int) (nanos : Nat) : Prop :=
  -8334601228800 ≤ seconds ∧ seconds ≤ 8210266876799 ∧ nanos < 2000000000 ∧
    (1000000000 ≤ nanos → seconds % 60 = 59)

instance (seconds : Int) (nanos : Nat) : Decidable (Timestamp.InRange seconds nanos) :=
  inferInstanceAs (Decidable (_ ∧ _ ∧ _ ∧ (_ → _)))

structure Timestamp where
  seconds : Int
  nanos : Nat
  inRange : Timestamp.InRange seconds nanos
deriving DecidableEq

namespace Timestamp

def ofUnix? (seconds : Int) (nanos : Nat) : Option Timestamp :=
  if h : InRange seconds nanos then some ⟨seconds, nanos, h⟩ else none

def days (t : Timestamp) : Int := t.seconds / 86400

def secondOfDay (t : Timestamp) : Nat := (t.seconds % 86400).toNat

def date (t : Timestamp) : Date := .ofDays t.days

def hour (t : Timestamp) : Nat := t.secondOfDay / 3600

def minute (t : Timestamp) : Nat := t.secondOfDay / 60 % 60

/-- The second of the minute; 60 is a leap second. -/
def second (t : Timestamp) : Nat :=
  t.secondOfDay % 60 + if 1000000000 ≤ t.nanos then 1 else 0

def fraction (t : Timestamp) : Nat :=
  if 1000000000 ≤ t.nanos then t.nanos - 1000000000 else t.nanos

def weekday (t : Timestamp) : Nat := Date.weekdayOfDays t.days

def isWeekend (t : Timestamp) : Bool := decide (6 ≤ t.weekday)

def padded (width n : Nat) : List Char :=
  let digits := Nat.toDigits 10 n
  List.replicate (width - digits.length) '0' ++ digits

/-- Years of at most four digits stand alone; others have a sign. -/
def yearChars (year : Int) : List Char :=
  if 0 ≤ year ∧ year ≤ 9999 then padded 4 year.natAbs
  else (if year < 0 then '-' else '+') :: padded 4 year.natAbs

def dateChars (date : Date) : List Char :=
  yearChars date.year ++ '-' :: padded 2 date.month ++ '-' :: padded 2 date.day

/-- The fewest of 0, 3, 6 and 9 digits that are exact, after a point. -/
def fractionChars (nanos : Nat) : List Char :=
  if nanos = 0 then []
  else if nanos % 1000000 = 0 then '.' :: padded 3 (nanos / 1000000)
  else if nanos % 1000 = 0 then '.' :: padded 6 (nanos / 1000)
  else '.' :: padded 9 nanos

def timeChars (t : Timestamp) : List Char :=
  padded 2 t.hour ++ ':' :: padded 2 t.minute ++ ':' :: padded 2 t.second ++
    fractionChars t.fraction

def chars (t : Timestamp) : List Char :=
  dateChars t.date ++ 'T' :: (t.timeChars ++ ['Z'])

def text (t : Timestamp) : String := String.ofList t.chars

def environment (t : Timestamp) : Json :=
  .obj [
    ("time", .obj [("hours", Json.int t.hour), ("minutes", Json.int t.minute)]),
    ("day", .obj [("weekday", Json.int t.weekday), ("is_weekend", .bool t.isWeekend)])]

end Timestamp

end AccessRules
