import AccessRules.Decimal.Binary64

/-!
The shortest decimal that reads back as a given double. Of the decimals with the fewest digits
among those that round to the double, the one nearest to it is taken, a tie going to the even last
digit. Everything is exact arithmetic on naturals.
-/

namespace AccessRules

/-- The decimal `digits * 10 ^ exponent`. -/
structure Decimal where
  digits : Nat
  exponent : Int
deriving DecidableEq

namespace Decimal

def digitChars (n : Nat) : List Char :=
  Nat.toDigits 10 n

/-- Moves zeros at the end of the digits into the exponent. The fuel bounds the digit count. -/
def trim (d : Decimal) : Nat → Decimal
  | 0 => d
  | fuel + 1 =>
    if d.digits ≠ 0 ∧ d.digits % 10 = 0 then trim ⟨d.digits / 10, d.exponent + 1⟩ fuel else d

/-- How many digits stand before the decimal point; zero or less when the first digit comes
after it. -/
def pointPosition (d : Decimal) : Int :=
  (digitChars d.digits).length + d.exponent

def ratio (d : Decimal) : Nat × Nat :=
  Binary64.shifted 10 d.digits 1 (-d.exponent)

end Decimal

/-- An interval of magnitudes, open or closed at both ends. -/
structure RoundingInterval where
  low : Nat × Nat
  high : Nat × Nat
  closed : Bool

def fractionLt (a b : Nat × Nat) : Bool :=
  decide (a.1 * b.2 < b.1 * a.2)

def RoundingInterval.contains (i : RoundingInterval) (x : Nat × Nat) : Bool :=
  if i.closed then !fractionLt x i.low && !fractionLt i.high x
  else fractionLt i.low x && fractionLt x i.high

namespace Binary64

/-- The magnitudes that round to this double: half way to each neighbour, the lower neighbour
being nearer at a power of two. The ends belong to it when the significand is even. -/
def interval (x : Binary64) : RoundingInterval :=
  let quarters := 4 * x.significand
  let below := if x.significand = Nat.pow 2 52 ∧ -1074 < x.exponent then 1 else 2
  { low := shifted 2 (quarters - below) 1 (2 - x.exponent)
    high := shifted 2 (quarters + 2) 1 (2 - x.exponent)
    closed := x.significand % 2 = 0 }

/-- The exponent `k` with `10 ^ k ≤ |x| < 10 ^ (k + 1)`, for a nonzero double. -/
def decimalExponent (x : Binary64) : Int :=
  let (num, den) := x.magnitude
  let guess : Int :=
    ((Decimal.digitChars num).length : Int) - (Decimal.digitChars den).length
  let (n, d) := shifted 10 num den guess
  if n < d then guess - 1 else guess

/-- The nearer of the two decimals with this last place around the double, provided that it rounds
to the double. -/
def decimalAt? (x : Binary64) (lastPlace : Int) : Option Decimal :=
  let (num, den) := x.magnitude
  let (n, d) := shifted 10 num den lastPlace
  let below : Decimal := ⟨n / d, lastPlace⟩
  let above : Decimal := ⟨n / d + 1, lastPlace⟩
  let fits (c : Decimal) := x.interval.contains c.ratio
  let rest := n % d
  let preferAbove := decide (d < 2 * rest) || (decide (d = 2 * rest) && n / d % 2 == 1)
  match fits below, fits above with
  | true, true => some (if preferAbove then above else below)
  | true, false => some below
  | false, true => some above
  | false, false => none

/-- The shortest decimal that reads back as the magnitude of `x`. Seventeen digits always do. -/
def shortest (x : Binary64) : Decimal :=
  if x.significand = 0 then ⟨0, 0⟩
  else
    let k := x.decimalExponent
    match (List.range 17).findSome? fun (i : Nat) => x.decimalAt? (k - i) with
    | some d => d.trim 20
    | none => ⟨0, 0⟩

end Binary64

end AccessRules
