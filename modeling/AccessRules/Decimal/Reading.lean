import AccessRules.Decimal.Layout

/-!
Floating-point numbers as text: decimal digits with an optional point and exponent, rounded once to
the nearest double, and the names of the infinities and of what is no number.
-/

namespace AccessRules

inductive FloatValue where
  | finite (value : Binary64)
  | infinity (negative : Bool)
  | notANumber
deriving DecidableEq

namespace FloatValue

def text : FloatValue → String
  | .finite x => x.positionalText
  | .infinity negative => if negative then "-inf" else "inf"
  | .notANumber => "NaN"

def isZero : FloatValue → Bool
  | .finite x => x.significand == 0
  | _ => false

def digitValues (s : List Char) : List Nat :=
  s.map fun c => c.toNat - '0'.toNat

def ofDigits (digits : List Nat) : Nat :=
  digits.foldl (fun n d => n * 10 + d) 0

/-- The double nearest to `digits * 10 ^ exponent`; beyond the range, an infinity or zero. -/
def ofDecimal (negative : Bool) (digits : List Nat) (exponent : Int) : FloatValue :=
  let n := ofDigits digits
  let size := ((Nat.toDigits 10 n).length : Int) + exponent
  if n = 0 ∨ size < -400 then .finite (Binary64.zero negative)
  else if 400 < size then .infinity negative
  else
    let (num, den) := Binary64.shifted 10 n 1 (-exponent)
    match Binary64.ofRatio? negative num den with
    | some x => .finite x
    | none => .infinity negative

/-- A decimal number without its sign: digits on at least one side of a point. -/
def unsigned? (negative : Bool) (s : List Char) : Option FloatValue :=
  let whole := s.takeWhile Char.isDigit
  let s := s.dropWhile Char.isDigit
  let (fraction, s) := match s with
    | '.' :: rest => (rest.takeWhile Char.isDigit, rest.dropWhile Char.isDigit)
    | s => ([], s)
  let digits := digitValues (whole ++ fraction)
  let exponent (sign : Int) (s : List Char) : Option FloatValue :=
    if s.isEmpty || !s.all Char.isDigit then none
    else
      let power := sign * (ofDigits (digitValues s) : Int)
      some (ofDecimal negative digits (power - fraction.length))
  if digits.isEmpty then none
  else match s with
    | [] => some (ofDecimal negative digits (-fraction.length))
    | 'e' :: '+' :: rest | 'E' :: '+' :: rest => exponent 1 rest
    | 'e' :: '-' :: rest | 'E' :: '-' :: rest => exponent (-1) rest
    | 'e' :: rest | 'E' :: rest => exponent 1 rest
    | _ => none

/-- A number after its sign; the names are read in any case. -/
def named? (negative : Bool) (s : List Char) : Option FloatValue :=
  let name := String.ofList (s.map Char.toLower)
  if name = "inf" || name = "infinity" then some (.infinity negative)
  else if name = "nan" then some .notANumber
  else unsigned? negative s

def ofChars? (s : List Char) : Option FloatValue :=
  match s with
  | '-' :: rest => named? true rest
  | '+' :: rest => named? false rest
  | s => named? false s

end FloatValue

def integerOfChars? (s : List Char) : Option Int :=
  let (negative, digits) := match s with
    | '-' :: rest => (true, rest)
    | '+' :: rest => (false, rest)
    | s => (false, s)
  if digits.isEmpty || !digits.all Char.isDigit then none
  else
    let n := FloatValue.ofDigits (FloatValue.digitValues digits)
    let i : Int := if negative then -(n : Int) else n
    if -(Nat.pow 2 63 : Int) ≤ i ∧ i < Nat.pow 2 63 then some i else none

end AccessRules
