import AccessRules.Json.Source
import AccessRules.Text.Basic

/-!
The grammar of JSON text. A text is one value with blanks around it; the result keeps everything
that was written.
-/

namespace AccessRules

namespace Source

def isBlank (c : Char) : Bool :=
  c = ' ' || c = '\t' || c = '\n' || c = '\r'

def skipBlanks (s : List Char) : List Char :=
  s.dropWhile isBlank

def digitValue? (c : Char) : Option Nat :=
  if '0' ≤ c ∧ c ≤ '9' then some (c.toNat - '0'.toNat) else none

def digits : List Char → List Nat × List Char
  | [] => ([], [])
  | c :: rest =>
    match digitValue? c with
    | some d => let (ds, rest) := digits rest; (d :: ds, rest)
    | none => ([], c :: rest)

def someDigits? (s : List Char) : Option (List Nat × List Char) :=
  match digits s with
  | ([], _) => none
  | found => some found

/-- Digits without a zero in front, unless it stands alone. -/
def wholePart? (s : List Char) : Option (List Nat × List Char) :=
  match digits s with
  | ([], _) => none
  | (0 :: _ :: _, _) => none
  | found => some found

def fractionPart? (s : List Char) : Option (Option (List Nat) × List Char) :=
  match s with
  | '.' :: rest => (someDigits? rest).map fun (ds, rest) => (some ds, rest)
  | s => some (none, s)

def exponentDigits? (negative : Bool) (s : List Char) :
    Option (Option (Bool × List Nat) × List Char) :=
  (someDigits? s).map fun (ds, rest) => (some (negative, ds), rest)

def exponentPart? (s : List Char) : Option (Option (Bool × List Nat) × List Char) :=
  match s with
  | 'e' :: '+' :: rest | 'E' :: '+' :: rest => exponentDigits? false rest
  | 'e' :: '-' :: rest | 'E' :: '-' :: rest => exponentDigits? true rest
  | 'e' :: rest | 'E' :: rest => exponentDigits? false rest
  | s => some (none, s)

def unsigned? (negative : Bool) (s : List Char) : Option (Source × List Char) := do
  let (whole, s) ← wholePart? s
  let (fraction, s) ← fractionPart? s
  let (exponent, s) ← exponentPart? s
  return (.num ⟨negative, whole, fraction, exponent⟩, s)

def escaped? (c : Char) : Option Char :=
  match c with
  | '"' => some '"'
  | '\\' => some '\\'
  | '/' => some '/'
  | 'b' => some '\x08'
  | 'f' => some '\x0c'
  | 'n' => some '\n'
  | 'r' => some '\r'
  | 't' => some '\t'
  | _ => none

def consUnit (unit : StringUnit) (found : Option (List StringUnit × List Char)) :
    Option (List StringUnit × List Char) :=
  found.map fun (units, rest) => (unit :: units, rest)

/-- A string after its opening quote. No control below the space stands in it raw. -/
def stringUnits? : List Char → Option (List StringUnit × List Char)
  | [] => none
  | '"' :: rest => some ([], rest)
  | '\\' :: 'u' :: a :: b :: c :: d :: rest =>
    match Hex.number? [a, b, c, d] with
    | some u => consUnit (.codeUnit u) (stringUnits? rest)
    | none => none
  | '\\' :: e :: rest =>
    match escaped? e with
    | some c => consUnit (.char c) (stringUnits? rest)
    | none => none
  | c :: rest =>
    if c.toNat < 32 ∨ c = '\\' then none else consUnit (.char c) (stringUnits? rest)

def fieldName? (s : List Char) : Option (List StringUnit × List Char) :=
  match skipBlanks s with
  | '"' :: rest =>
    match stringUnits? rest with
    | some (units, rest) =>
      match skipBlanks rest with
      | ':' :: rest => some (units, rest)
      | _ => none
    | none => none
  | _ => none

mutual

/-- One value, blanks before it allowed. Each call takes one unit of fuel and every two calls take
a character at least. -/
def valueAt? : Nat → List Char → Option (Source × List Char)
  | 0, _ => none
  | fuel + 1, s =>
    match skipBlanks s with
    | 'n' :: 'u' :: 'l' :: 'l' :: rest => some (.null, rest)
    | 't' :: 'r' :: 'u' :: 'e' :: rest => some (.bool true, rest)
    | 'f' :: 'a' :: 'l' :: 's' :: 'e' :: rest => some (.bool false, rest)
    | '"' :: rest => (stringUnits? rest).map fun (units, rest) => (.str units, rest)
    | '-' :: rest => unsigned? true rest
    | '[' :: rest =>
      match skipBlanks rest with
      | ']' :: rest => some (.arr [], rest)
      | rest => (itemsAt? fuel rest).map fun (items, rest) => (.arr items, rest)
    | '\x7b' :: rest =>
      match skipBlanks rest with
      | '\x7d' :: rest => some (.obj [], rest)
      | rest => (fieldsAt? fuel rest).map fun (fields, rest) => (.obj fields, rest)
    | rest => unsigned? false rest

def itemsAt? : Nat → List Char → Option (List Source × List Char)
  | 0, _ => none
  | fuel + 1, s => do
    let (item, rest) ← valueAt? fuel s
    match skipBlanks rest with
    | ']' :: rest => return ([item], rest)
    | ',' :: rest =>
      let (items, rest) ← itemsAt? fuel rest
      return (item :: items, rest)
    | _ => none

def fieldsAt? : Nat → List Char → Option (List (List StringUnit × Source) × List Char)
  | 0, _ => none
  | fuel + 1, s => do
    let (name, rest) ← fieldName? s
    let (value, rest) ← valueAt? fuel rest
    match skipBlanks rest with
    | '\x7d' :: rest => return ([(name, value)], rest)
    | ',' :: rest =>
      let (fields, rest) ← fieldsAt? fuel rest
      return ((name, value) :: fields, rest)
    | _ => none

end

def ofText? (text : String) : Option Source :=
  let s := text.toList
  match valueAt? (2 * s.length + 2) s with
  | some (source, rest) => if (skipBlanks rest).isEmpty then some source else none
  | none => none

end Source

namespace Json

def ofText? (text : String) : Option Json :=
  match Source.ofText? text with
  | some source => source.value? 0
  | none => none

end Json

end AccessRules
