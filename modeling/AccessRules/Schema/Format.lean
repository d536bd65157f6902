import AccessRules.Address.Url
import AccessRules.Calendar.Date
import AccessRules.Regex.Pattern

/-!
The formats of texts that schemas can ask for. A format that is not among them asks for nothing.
-/

namespace AccessRules

inductive Format where
  | date
  | dateTime
  | email
  | hostname
  | idnEmail
  | idnHostname
  | ipv4
  | ipv6
  | iri
  | iriReference
  | jsonPointer
  | regex
  | relativeJsonPointer
  | time
  | uri
  | uriReference
  | uriTemplate
deriving DecidableEq

namespace Format

def all : List Format :=
  [.date, .dateTime, .email, .hostname, .idnEmail, .idnHostname, .ipv4, .ipv6, .iri, .iriReference,
    .jsonPointer, .regex, .relativeJsonPointer, .time, .uri, .uriReference, .uriTemplate]

def key : Format → String
  | .date => "date"
  | .dateTime => "date-time"
  | .email => "email"
  | .hostname => "hostname"
  | .idnEmail => "idn-email"
  | .idnHostname => "idn-hostname"
  | .ipv4 => "ipv4"
  | .ipv6 => "ipv6"
  | .iri => "iri"
  | .iriReference => "iri-reference"
  | .jsonPointer => "json-pointer"
  | .regex => "regex"
  | .relativeJsonPointer => "relative-json-pointer"
  | .time => "time"
  | .uri => "uri"
  | .uriReference => "uri-reference"
  | .uriTemplate => "uri-template"

def ofKey? (text : String) : Option Format :=
  all.find? fun format => format.key == text

def digits? (count : Nat) (s : List Char) : Option (Nat × List Char) :=
  if (s.take count).length = count then
    (numeral? 10 (s.take count)).map fun n => (n, s.drop count)
  else none

def mark? (c : Char) (s : List Char) : Option (List Char) :=
  match s with
  | d :: rest => if d = c then some rest else none
  | [] => none

def date? (s : List Char) : Option (Date × List Char) := do
  let (year, s) ← digits? 4 s
  let s ← mark? '-' s
  let (month, s) ← digits? 2 s
  let s ← mark? '-' s
  let (day, s) ← digits? 2 s
  let found : Date := ⟨year, month, day⟩
  if found.isValid then return (found, s) else none

def isDate (s : List Char) : Bool :=
  match date? s with
  | some (_, rest) => rest.isEmpty
  | none => false

def hourAndMinute? (s : List Char) : Option ((Nat × Nat) × List Char) := do
  let (hour, s) ← digits? 2 s
  let s ← mark? ':' s
  let (minute, s) ← digits? 2 s
  if hour < 24 ∧ minute < 60 then return ((hour, minute), s) else none

def offset? (s : List Char) : Option Int :=
  let offset (s : List Char) : Option Int :=
    match hourAndMinute? s with
    | some ((hour, minute), []) => some (hour * 60 + minute : Nat)
    | _ => none
  match s with
  | ['Z'] | ['z'] => some 0
  | '+' :: rest => offset rest
  | '-' :: rest => (offset rest).map (- ·)
  | _ => none

/-- The last second of a month in universal time, which a leap second may follow. -/
def endsMonth (date : Date) (minutes : Int) : Bool :=
  let day := Date.ofDays (date.toDays + minutes / 1440)
  minutes % 1440 == 1439 && day.day == Date.daysInMonth day.year day.month

/-- A date and a time of day with its offset. Any character may stand between the two. Second 60 is
a leap second. -/
def isDateTime (s : List Char) : Bool :=
  (do
    let (day, s) ← date? s
    let s ← match s with
      | c :: rest => if c.toNat < 128 then some rest else none
      | [] => none
    let ((hour, minute), s) ← hourAndMinute? s
    let s ← mark? ':' s
    let (second, s) ← digits? 2 s
    let s ← match s with
      | '.' :: c :: rest => if c.isDigit then some (rest.dropWhile Char.isDigit) else none
      | s => some s
    let offset ← offset? s
    return decide (second < 60) ||
      (second == 60 && endsMonth day ((hour * 60 + minute : Nat) - offset))).getD false

/-- A time of day with its offset. A fraction of a second has six digits, and a bar may stand for
the sign of the offset. -/
def isTime (s : List Char) : Bool :=
  (do
    let (_, s) ← hourAndMinute? s
    let s ← mark? ':' s
    let (second, s) ← digits? 2 s
    let (_, s) ← match s with
      | '.' :: rest => digits? 6 rest
      | s => some (0, s)
    let s := match s with
      | '|' :: rest => '+' :: rest
      | s => s
    return decide (second < 60) && (offset? s).isSome).getD false

/-- An at sign stands after a name of one character at least, which neither begins nor ends with a
dot and has no two dots together. -/
def isEmail (s : List Char) : Bool :=
  match s with
  | [] => false
  | first :: rest =>
    let name := first :: rest.takeWhile (· != '@')
    decide (name.length < s.length) &&
      (piecesBetween (· == '.') name).all fun part => !part.isEmpty

/-- Letters, digits, hyphens and dots, with a hyphen at neither end, in parts of bounded length. -/
def isHostname (s : List Char) : Bool :=
  !s.isEmpty && s.head? != some '-' && s.getLast? != some '-' && decide (s.length ≤ 255) &&
    (s.all fun c => isAlphanumeric c || c == '-' || c == '.') &&
    (piecesBetween (· == '.') s).all fun part => decide (part.length ≤ 63)

def isIpv4 (s : List Char) : Bool :=
  s.head? != some '0' && (Ipv4.ofText? s).isSome

def isUri (s : List Char) : Bool :=
  match Url.ofText? none (String.ofList s) with
  | .ok _ => true
  | .error _ => false

/-- Backslashes and blanks may not stand in a reference. -/
def isUriReference (s : List Char) : Bool :=
  s.all fun c => c != '\\' && !isUnicodeBlank c

def hasEscapes : List Char → Bool
  | '~' :: '0' :: rest | '~' :: '1' :: rest => hasEscapes rest
  | '~' :: _ => false
  | _ :: rest => hasEscapes rest
  | [] => true

def isJsonPointer (s : List Char) : Bool :=
  (s.isEmpty || s.head? == some '/') && hasEscapes s

def isRelativeJsonPointer (s : List Char) : Bool :=
  let number := s.takeWhile Char.isDigit
  let rest := s.drop number.length
  (number == ['0'] || (!number.isEmpty && number.head? != some '0')) &&
    (rest == ['#'] || isJsonPointer rest)

/-- A template holds literals, escapes and expressions; these have names in small letters. -/
def template : Option Pattern :=
  let name := "(?:[a-z0-9_]|%[0-9a-f]\x7b2\x7d)+"
  let item := name ++ "(?::[1-9][0-9]\x7b0,3\x7d|\\*)?"
  let literal := "[^\\x00-\\x20\"'<>%\\\\^`\x7b|\x7d]|%[0-9a-f]\x7b2\x7d"
  let expression := "\\\x7b[+#./;?&=,!@|]?" ++ item ++ "(?:," ++ item ++ ")*\\\x7d"
  Pattern.ofText? ("^(?:(?:" ++ literal ++ ")|" ++ expression ++ ")*\\z")

def isUriTemplate (s : List Char) : Bool :=
  match template with
  | some pattern => pattern.occursIn (String.ofList s)
  | none => false

def holds (format : Format) (text : String) : Bool :=
  let s := text.toList
  match format with
  | .date => isDate s
  | .dateTime => isDateTime s
  | .email | .idnEmail => isEmail s
  | .hostname | .idnHostname => isHostname s
  | .ipv4 => isIpv4 s
  | .ipv6 => (Ipv6.ofText? s).isSome
  | .iri | .uri => isUri s
  | .iriReference | .uriReference => isUriReference s
  | .jsonPointer => isJsonPointer s
  | .regex => (Pattern.ofShorthand? text).isSome
  | .relativeJsonPointer => isRelativeJsonPointer s
  | .time => isTime s
  | .uriTemplate => isUriTemplate s

end Format

end AccessRules
