import AccessRules.Decimal.Layout

/-!
JSON numbers: integers of at most 64 bits, signed or unsigned, are exact, and every other number is
a double. Numbers of the two kinds are compared by value.
-/

namespace AccessRules

inductive Number where
  | integer (value : Int)
  | double (value : Binary64)
deriving DecidableEq

namespace Number

def exactRange (i : Int) : Bool :=
  decide (-(Nat.pow 2 63 : Int) ≤ i) && decide (i < Nat.pow 2 64)

def ratio : Number → Int × Nat
  | integer i => (i, 1)
  | double x => x.ratio

def lt (a b : Number) : Bool :=
  decide (a.ratio.1 * b.ratio.2 < b.ratio.1 * a.ratio.2)

/-- Equal by value: `1` and `1.0` are, and so are the two zeros. -/
def same (a b : Number) : Bool :=
  decide (a.ratio.1 * b.ratio.2 = b.ratio.1 * a.ratio.2)

def isWhole (a : Number) : Bool :=
  decide (a.ratio.1 % a.ratio.2 = 0)

def toDouble? : Number → Option Binary64
  | integer i => Binary64.ofInt? i
  | double x => some x

def doubleRatio : Number → Int × Nat
  | integer i => match Binary64.ofInt? i with
    | some x => x.ratio
    | none => (i, 1)
  | double x => x.ratio

/-- Doubles are written with the shortest digits, positionally from `0.00001` up to and without
`10000000000000000` and scientifically beyond; a positional one always shows a fraction. -/
def doubleText (x : Binary64) : String :=
  let d := x.shortest
  let magnitude :=
    if d.digits = 0 then ['0', '.', '0']
    else if -4 ≤ d.pointPosition ∧ d.pointPosition ≤ 16 then d.positionalWithPoint
    else d.scientific
  String.ofList (x.signChars ++ magnitude)

def text : Number → String
  | integer i => toString i
  | double x => doubleText x

end Number

end AccessRules
