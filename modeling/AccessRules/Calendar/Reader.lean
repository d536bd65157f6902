import AccessRules.Calendar.Timestamp
import AccessRules.Text.Basic

/-!
Reading an instant from text: a date, a `T` or a blank, a time of day and an offset from universal
time. Fields may be short, and blanks may stand before a number or a separator. A year of more than
four digits needs a sign. Second 60 is a leap second.
-/

namespace AccessRules

namespace Timestamp

/-- The digits in front, at most `most` of them, as a number, with their count. -/
def digitsUpTo (most : Nat) (s : List Char) : List Char × List Char :=
  let taken := (s.take most).takeWhile Char.isDigit
  (taken, s.drop taken.length)

def numberOf (digits : List Char) : Nat :=
  digits.foldl (fun n d => n * 10 + (d.toNat - '0'.toNat)) 0

def number? (most : Nat) (s : List Char) : Option (Nat × List Char) :=
  match digitsUpTo most s with
  | ([], _) => none
  | (digits, rest) => some (numberOf digits, rest)

def year? (s : List Char) : Option (Int × List Char) :=
  match trimStart s with
  | '-' :: rest => (number? rest.length rest).map fun (n, rest) => (-(n : Int), rest)
  | '+' :: rest => (number? rest.length rest).map fun (n, rest) => ((n : Int), rest)
  | s => (number? 4 s).map fun (n, rest) => ((n : Int), rest)

def field? (s : List Char) : Option (Nat × List Char) :=
  number? 2 (trimStart s)

def separator? (c : Char) (s : List Char) : Option (List Char) :=
  match trimStart s with
  | d :: rest => if d = c then some rest else none
  | [] => none

/-- The fraction of a second in nanoseconds. Digits after the ninth are dropped. -/
def fraction? (s : List Char) : Option (Nat × List Char) :=
  match s with
  | '.' :: rest =>
    match digitsUpTo 9 rest with
    | ([], _) => none
    | (digits, rest) =>
      some (numberOf digits * Nat.pow 10 (9 - digits.length), rest.dropWhile Char.isDigit)
  | s => some (0, s)

def offsetDigits? (s : List Char) : Option (Nat × List Char) :=
  match s with
  | a :: b :: rest =>
    if a.isDigit && b.isDigit then
      match rest.dropWhile fun c => c = ':' || isUnicodeBlank c with
      | c :: d :: rest =>
        if c.isDigit && d.isDigit && decide (c < '6') then
          some (numberOf [a, b] * 3600 + numberOf [c, d] * 60, rest)
        else none
      | _ => none
    else none
  | _ => none

def offset? (s : List Char) : Option (Int × List Char) :=
  match s with
  | 'Z' :: rest | 'z' :: rest => some (0, rest)
  | '+' :: rest => (offsetDigits? rest).map fun (n, rest) => ((n : Int), rest)
  | '-' :: rest | '\u2212' :: rest => (offsetDigits? rest).map fun (n, rest) => (-(n : Int), rest)
  | a :: b :: c :: rest =>
    if [a, b, c].map Char.toUpper = ['U', 'T', 'C'] then some (0, rest) else none
  | _ => none

/-- The instant of a wall-clock reading in a place with an offset. Second 60 is the second 59 with
another second of nanoseconds. -/
def ofWallClock? (date : Date) (hour minute second nanos : Nat) (offset : Int) :
    Option Timestamp :=
  if date.isValid ∧ -262143 ≤ date.year ∧ date.year ≤ 262142 ∧ hour < 24 ∧ minute < 60 ∧
      second ≤ 60 ∧ offset.natAbs < 86400 then
    let shown := if second = 60 then 59 else second
    let nanos := if second = 60 then nanos + 1000000000 else nanos
    ofUnix? (date.toDays * 86400 + (hour * 3600 + minute * 60 + shown : Nat) - offset) nanos
  else none

def ofChars? (s : List Char) : Option Timestamp := do
  let (year, s) ← year? s
  let s ← separator? '-' s
  let (month, s) ← field? s
  let s ← separator? '-' s
  let (day, s) ← field? s
  let s ← match s with
    | 'T' :: rest | 't' :: rest | ' ' :: rest => some rest
    | _ => none
  let (hour, s) ← field? s
  let s ← separator? ':' s
  let (minute, s) ← field? s
  let s ← separator? ':' s
  let (second, s) ← field? s
  let (nanos, s) ← fraction? s
  let (offset, s) ← offset? (trimStart s)
  if (trimStart s).isEmpty then ofWallClock? ⟨year, month, day⟩ hour minute second nanos offset
  else none

def ofText? (text : String) : Option Timestamp :=
  ofChars? text.toList

end Timestamp

end AccessRules
