import AccessRules.Calendar.Date
import AccessRules.Toml.Document
import AccessRules.Toml.Text

/-!
Reading TOML documents. A document is a sequence of lines, each of them empty, a header or a key
with its value, with comments at their ends; only strings, arrays, inline tables and the comments in
them reach over several lines.
-/

namespace AccessRules

namespace Toml

open Text (isInlineBlank isForbidden lineEnd?)

def skipInline (s : List Char) : List Char :=
  s.dropWhile isInlineBlank

def isBareKeyChar (c : Char) : Bool :=
  c.isAlphanum || c = '_' || c = '-'

def keyName? (s : List Char) : Option (String × List Char) :=
  match s with
  | '"' :: rest => (Text.readBasic rest).map fun (name, rest) => (String.ofList name, rest)
  | '\'' :: rest => (Text.readLiteral rest).map fun (name, rest) => (String.ofList name, rest)
  | s =>
    match s.takeWhile isBareKeyChar with
    | [] => none
    | name => some (String.ofList name, s.dropWhile isBareKeyChar)

/-- How many arrays and inline tables may lie around each other, and how many names a key has. -/
def depthLimit : Nat := 80

def names? : Nat → List Char → Option (List String × List Char)
  | 0, _ => none
  | limit + 1, s => do
    let (name, rest) ← keyName? (skipInline s)
    match skipInline rest with
    | '.' :: rest =>
      let (names, rest) ← names? limit rest
      return (name :: names, rest)
    | rest => return ([name], rest)

def key? (s : List Char) : Option (List String × List Char) :=
  names? depthLimit s

def skipComment (s : List Char) : Option (List Char) :=
  let rest := s.dropWhile fun c => !isForbidden c
  match rest with
  | [] => some []
  | '\n' :: _ => some rest
  | '\r' :: '\n' :: _ => some rest
  | _ => none

def endOfLine? (s : List Char) : Option (List Char) :=
  let finish (s : List Char) : Option (List Char) :=
    match s with
    | [] => some []
    | s => lineEnd? s
  match skipInline s with
  | '#' :: rest => (skipComment rest).bind finish
  | s => finish s

def skipLines : Nat → List Char → Option (List Char)
  | 0, _ => none
  | fuel + 1, s =>
    match skipInline s with
    | '\n' :: rest => skipLines fuel rest
    | '\r' :: '\n' :: rest => skipLines fuel rest
    | '#' :: rest => (skipComment rest).bind (skipLines fuel)
    | s => some s

def groupedDigits? (isDigit : Char → Bool) (s : List Char) : Option (List Char) :=
  let groups := s.splitOn '_'
  if groups.all fun group => !group.isEmpty && group.all isDigit then some groups.flatten else none

def wholeDigits? (s : List Char) : Option (List Char) :=
  match groupedDigits? Char.isDigit s with
  | some ('0' :: _ :: _) => none
  | found => found

def radixNumber? (radix : Nat) (s : List Char) : Option Setting := do
  let value? (c : Char) : Option Nat := (Hex.value? c).filter fun n => decide (n < radix)
  let digits ← groupedDigits? (fun c => (value? c).isSome) s
  let n := digits.foldl (fun n c => n * radix + (value? c).getD 0) 0
  if n < Nat.pow 2 63 then return .integer n else none

def splitSign (s : List Char) : List Char × List Char :=
  match s with
  | '-' :: rest => (['-'], rest)
  | '+' :: rest => (['+'], rest)
  | s => ([], s)

/-- A number with a point or an exponent, unless it is out of range. -/
def float? (s : List Char) : Option Setting := do
  let (sign, s) := splitSign s
  let isMark (c : Char) : Bool := c = 'e' || c = 'E'
  let mantissa := s.takeWhile fun c => !isMark c
  let whole ← wholeDigits? (mantissa.takeWhile (· != '.'))
  let fraction ← match mantissa.dropWhile (· != '.') with
    | [] => some []
    | _ :: digits => (groupedDigits? Char.isDigit digits).map ('.' :: ·)
  let exponent ← match s.dropWhile fun c => !isMark c with
    | [] => some []
    | _ :: rest =>
      let (sign, digits) := splitSign rest
      (groupedDigits? Char.isDigit digits).map fun digits => 'e' :: (sign ++ digits)
  if fraction.isEmpty && exponent.isEmpty then none
  else
    match FloatValue.ofChars? (sign ++ whole ++ fraction ++ exponent) with
    | some (.finite x) => some (.float (.finite x))
    | _ => none

def integer? (s : List Char) : Option Setting := do
  let (sign, digits) := splitSign s
  let digits ← wholeDigits? digits
  (integerOfChars? (sign ++ digits)).map .integer

def number (s : List Char) : Nat :=
  FloatValue.ofDigits (FloatValue.digitValues s)

def isDate (s : List Char) : Bool :=
  match s with
  | [a, b, c, d, '-', e, f, '-', g, h] =>
    [a, b, c, d, e, f, g, h].all Char.isDigit &&
      (⟨number [a, b, c, d], number [e, f], number [g, h]⟩ : Date).isValid
  | _ => false

/-- A fraction of a second, cut after nine digits and without zeros at its end, but for one that
stands alone. -/
def fraction? (s : List Char) : Option (List Char) :=
  match s with
  | [] => some []
  | '.' :: digits =>
    if digits.isEmpty || !digits.all Char.isDigit then none
    else
      match ((digits.take 9).reverse.dropWhile (· = '0')).reverse with
      | [] => some ['.', '0']
      | digits => some ('.' :: digits)
  | _ => none

/-- A time of day. It may go without seconds. -/
def time? (s : List Char) : Option (List Char) :=
  match s with
  | a :: b :: ':' :: c :: d :: seconds =>
    if [a, b, c, d].all Char.isDigit && decide (number [a, b] < 24) && decide (number [c, d] < 60)
    then
      match seconds with
      | [] => some s
      | ':' :: e :: f :: fraction =>
        if e.isDigit && f.isDigit && decide (number [e, f] ≤ 60) then
          (fraction? fraction).map fun fraction => [a, b, ':', c, d, ':', e, f] ++ fraction
        else none
      | _ => none
    else none
  | _ => none

/-- The distance from universal time, of which zero has no other sign than the plus. -/
def offset? (s : List Char) : Option (List Char) :=
  match s with
  | [] => some []
  | ['Z'] | ['z'] => some ['Z']
  | [sign, a, b, ':', c, d] =>
    if (sign = '+' || sign = '-') && [a, b, c, d].all Char.isDigit &&
        decide (number [a, b] < 24) && decide (number [c, d] < 60) then
      some ((if number [a, b, c, d] = 0 then '+' else sign) :: [a, b, ':', c, d])
    else none
  | _ => none

/-- A date, a time of day, or both; it stands for its text. -/
def moment? (s : List Char) : Option Setting :=
  let date := s.take 10
  if isDate date then
    match s.drop 10 with
    | [] => some (.text (String.ofList date))
    | mark :: rest => do
      let time := rest.takeWhile fun c => c.isDigit || c = ':' || c = '.'
      let offset ← offset? (rest.drop time.length)
      let time ← time? time
      if mark = 'T' || mark = 't' || mark = ' ' then
        return .text (String.ofList (date ++ 'T' :: time ++ offset))
      else none
  else (time? s).map fun time => .text (String.ofList time)

def word? (s : List Char) : Option Setting :=
  match s with
  | ['t', 'r', 'u', 'e'] => some (.bool true)
  | ['f', 'a', 'l', 's', 'e'] => some (.bool false)
  | ['i', 'n', 'f'] | ['+', 'i', 'n', 'f'] => some (.float (.infinity false))
  | ['-', 'i', 'n', 'f'] => some (.float (.infinity true))
  | ['n', 'a', 'n'] | ['+', 'n', 'a', 'n'] | ['-', 'n', 'a', 'n'] => some (.float .notANumber)
  | '0' :: 'x' :: digits => radixNumber? 16 digits
  | '0' :: 'o' :: digits => radixNumber? 8 digits
  | '0' :: 'b' :: digits => radixNumber? 2 digits
  | s =>
    match integer? s with
    | some value => some value
    | none =>
      match float? s with
      | some value => some value
      | none => moment? s

def isWordChar (c : Char) : Bool :=
  c.isAlphanum || c = '_' || c = '-' || c = '+' || c = '.' || c = ':'

/-- The word in front. A date takes a time of day with it over one blank. -/
def word (s : List Char) : List Char × List Char :=
  let first := s.takeWhile isWordChar
  let rest := s.dropWhile isWordChar
  match rest with
  | ' ' :: a :: b :: ':' :: _ =>
    if isDate first && a.isDigit && b.isDigit then
      let time := (rest.drop 1).takeWhile isWordChar
      (first ++ ' ' :: time, (rest.drop 1).dropWhile isWordChar)
    else (first, rest)
  | _ => (first, rest)

mutual

/-- A value with at most `depth` arrays and inline tables around its innermost part. -/
def value? : Nat → Nat → List Char → Option (Setting × List Char)
  | 0, _, _ => none
  | fuel + 1, depth, s =>
    match s, depth with
    | '"' :: _, _ => (Text.read s).map fun (text, rest) => (.text (String.ofList text), rest)
    | '\'' :: _, _ => (Text.read s).map fun (text, rest) => (.text (String.ofList text), rest)
    | '[' :: rest, depth + 1 =>
      (items? fuel depth rest).map fun (items, rest) => (.list items, rest)
    | '\x7b' :: rest, depth + 1 =>
      (pairs? fuel depth [] rest).map fun (entries, rest) => (.table (settingsOf entries), rest)
    | s, _ =>
      let (found, rest) := word s
      (word? found).map fun value => (value, rest)

/-- The items of an array up to its closing bracket. A comma may follow the last one. -/
def items? : Nat → Nat → List Char → Option (List Setting × List Char)
  | 0, _, _ => none
  | fuel + 1, depth, s => do
    match ← skipLines (s.length + 1) s with
    | ']' :: rest => return ([], rest)
    | s =>
      let (item, rest) ← value? fuel depth s
      match ← skipLines (rest.length + 1) rest with
      | ']' :: rest => return ([item], rest)
      | ',' :: rest =>
        let (items, rest) ← items? fuel depth rest
        return (item :: items, rest)
      | _ => none

/-- The pairs of an inline table up to its closing brace. A comma may follow the last one, and lines
may end around the equals sign. -/
def pairs? : Nat → Nat → Entries → List Char → Option (Entries × List Char)
  | 0, _, _, _ => none
  | fuel + 1, depth, entries, s => do
    match ← skipLines (s.length + 1) s with
    | '\x7d' :: rest => return (entries, rest)
    | s =>
      let (names, rest) ← key? s
      match ← skipLines (rest.length + 1) rest with
      | '=' :: rest =>
        let (value, rest) ← value? fuel depth (← skipLines (rest.length + 1) rest)
        let entries ← entries.setNew value names
        match ← skipLines (rest.length + 1) rest with
        | '\x7d' :: rest => return (entries, rest)
        | ',' :: rest => pairs? fuel depth entries rest
        | _ => none
      | _ => none

end

structure Reading where
  entries : Entries
  table : List String

def headerPath? (s : List Char) : Option (List String × List Char) := do
  let (names, rest) ← key? s
  match rest with
  | ']' :: rest => return (names, rest)
  | _ => none

def line? (reading : Reading) (s : List Char) : Option (Reading × List Char) :=
  match s with
  | '[' :: '[' :: rest => do
    let (names, rest) ← headerPath? rest
    match rest with
    | ']' :: rest =>
      let entries ← reading.entries.changeHeader Entries.openElement names
      return (⟨entries, names⟩, ← endOfLine? rest)
    | _ => none
  | '[' :: rest => do
    let (names, rest) ← headerPath? rest
    let entries ← reading.entries.changeHeader Entries.openTable names
    return (⟨entries, names⟩, ← endOfLine? rest)
  | s => do
    let (names, rest) ← key? s
    match rest with
    | '=' :: rest =>
      let (value, rest) ← value? (2 * rest.length + 2) depthLimit (skipInline rest)
      let entries ← reading.entries.changeAt (fun table => table.setNew value names) reading.table
      return (⟨entries, reading.table⟩, ← endOfLine? rest)
    | _ => none

def lines? : Nat → Reading → List Char → Option Entries
  | 0, _, _ => none
  | fuel + 1, reading, s =>
    match skipInline s with
    | [] => some reading.entries
    | '\n' :: rest => lines? fuel reading rest
    | '\r' :: '\n' :: rest => lines? fuel reading rest
    | '#' :: rest => (skipComment rest).bind (lines? fuel reading)
    | s => do
      let (reading, rest) ← line? reading s
      lines? fuel reading rest

def skipMark : List Char → List Char
  | '\ufeff' :: rest => rest
  | s => s

def ofText? (text : String) : Option Settings :=
  let s := skipMark text.toList
  (lines? (s.length + 2) ⟨[], []⟩ s).map settingsOf

end Toml

end AccessRules
