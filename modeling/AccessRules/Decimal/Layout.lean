import AccessRules.Decimal.Shortest

/-!
The two ways to spell a decimal: positional, with zeros filled in up to the point, and scientific,
with one digit before the point and a signed exponent.
-/

namespace AccessRules

namespace Decimal

def positionalParts (d : Decimal) : List Char × List Char :=
  let digits := digitChars d.digits
  let point := d.pointPosition
  if point ≤ 0 then (['0'], List.replicate (-point).toNat '0' ++ digits)
  else (digits.take point.toNat ++ List.replicate (point.toNat - digits.length) '0',
    digits.drop point.toNat)

def positional (d : Decimal) : List Char :=
  match d.positionalParts with
  | (whole, []) => whole
  | (whole, fraction) => whole ++ '.' :: fraction

def positionalWithPoint (d : Decimal) : List Char :=
  match d.positionalParts with
  | (whole, []) => whole ++ ['.', '0']
  | (whole, fraction) => whole ++ '.' :: fraction

/-- One digit, the others after a point if there are any, and the exponent with its sign. -/
def scientific (d : Decimal) : List Char :=
  let digits := digitChars d.digits
  let power := d.pointPosition - 1
  let fraction := match digits.drop 1 with
    | [] => []
    | rest => '.' :: rest
  digits.take 1 ++ fraction ++ 'e' :: (if power < 0 then '-' else '+') ::
    digitChars power.natAbs

end Decimal

namespace Binary64

def signChars (x : Binary64) : List Char :=
  if x.negative then ['-'] else []

def positionalText (x : Binary64) : String :=
  String.ofList (x.signChars ++ x.shortest.positional)

end Binary64

end AccessRules
