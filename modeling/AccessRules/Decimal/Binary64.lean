/-!
A finite double-precision number, held as a sign, a significand and a binary exponent in canonical
form, so that equal fields mean equal numbers. Arithmetic is exact on ratios of naturals and is
rounded once, to the nearest double, a tie going to the even significand.
-/

namespace AccessRules

/-- The one significand and exponent that stand for a magnitude: at most 53 bits, the exponent in
range, and the top bit set unless the exponent is already the least one. -/
def Binary64.Canonical (significand : Nat) (exponent : Int) : Prop :=
  significand < Nat.pow 2 53 ∧ -1074 ≤ exponent ∧ exponent ≤ 971 ∧
    (significand < Nat.pow 2 52 → exponent = -1074)

instance (significand : Nat) (exponent : Int) :
    Decidable (Binary64.Canonical significand exponent) :=
  inferInstanceAs (Decidable (_ ∧ _ ∧ _ ∧ (_ → _)))

/-- The number `significand * 2 ^ exponent`, negated if `negative`. Zero keeps its sign. -/
structure Binary64 where
  negative : Bool
  significand : Nat
  exponent : Int
  canonical : Binary64.Canonical significand exponent
deriving DecidableEq

namespace Binary64

def ofParts? (negative : Bool) (significand : Nat) (exponent : Int) : Option Binary64 :=
  if h : Canonical significand exponent then some ⟨negative, significand, exponent, h⟩ else none

def zero (negative : Bool) : Binary64 :=
  ⟨negative, 0, -1074, by decide⟩

/-- The quotient as a natural number, the nearest one, a half going to the even neighbour. -/
def divNearestEven (num den : Nat) : Nat :=
  let below := num / den
  let rest := num % den
  if 2 * rest < den then below
  else if den < 2 * rest then below + 1
  else if below % 2 = 0 then below else below + 1

/-- The fraction `num / den` divided by `base ^ power`, as a fraction. -/
def shifted (base : Nat) (num den : Nat) (power : Int) : Nat × Nat :=
  if 0 ≤ power then (num, den * Nat.pow base power.toNat)
  else (num * Nat.pow base (-power).toNat, den)

/-- The least exponent at which `num / den` has an integral part of at most 53 bits. -/
def roundingExponent (num den : Nat) : Int :=
  let guess := max (-1074) ((num.log2 : Int) - den.log2 - 53)
  let (n, d) := shifted 2 num den guess
  if n / d < Nat.pow 2 53 then guess else guess + 1

/-- The double nearest to `num / den`, or nothing when that magnitude is out of range. -/
def ofRatio? (negative : Bool) (num den : Nat) : Option Binary64 :=
  if num = 0 then some (zero negative)
  else
    let exponent := roundingExponent num den
    let (n, d) := shifted 2 num den exponent
    let significand := divNearestEven n d
    if significand = Nat.pow 2 53 then ofParts? negative (Nat.pow 2 52) (exponent + 1)
    else ofParts? negative significand exponent

def magnitude (x : Binary64) : Nat × Nat :=
  shifted 2 x.significand 1 (-x.exponent)

def ratio (x : Binary64) : Int × Nat :=
  let (num, den) := x.magnitude
  (if x.negative then -(num : Int) else num, den)

/-- The product of the magnitudes under the sign of `x`. -/
def scaleUp? (x factor : Binary64) : Option Binary64 :=
  let (n, d) := x.magnitude
  let (n', d') := factor.magnitude
  ofRatio? x.negative (n * n') (d * d')

def scaleDown? (x divisor : Binary64) : Option Binary64 :=
  let (n, d) := x.magnitude
  let (n', d') := divisor.magnitude
  ofRatio? x.negative (n * d') (d * n')

def powerOfTen? (power : Nat) : Option Binary64 :=
  ofRatio? false (Nat.pow 10 power) 1

def ofInt? (i : Int) : Option Binary64 :=
  ofRatio? (decide (i < 0)) i.natAbs 1

end Binary64

end AccessRules
