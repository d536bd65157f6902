/-!
Base 64: four characters for three octets. The last four may stand for fewer octets; equals signs
then fill them up, and the bits that are left over are zero.
-/

namespace AccessRules

namespace Base64

def value? (c : Char) : Option Nat :=
  if 'A' ≤ c ∧ c ≤ 'Z' then some (c.toNat - 'A'.toNat)
  else if 'a' ≤ c ∧ c ≤ 'z' then some (c.toNat - 'a'.toNat + 26)
  else if '0' ≤ c ∧ c ≤ '9' then some (c.toNat - '0'.toNat + 52)
  else if c = '+' then some 62
  else if c = '/' then some 63
  else none

def octets (values : List Nat) : List UInt8 := values.map UInt8.ofNat

def decode? : List Char → Option (List UInt8)
  | [] => some []
  | [a, b, '=', '='] => do
    let a ← value? a
    let b ← value? b
    if b % 16 = 0 then return octets [a * 4 + b / 16] else none
  | [a, b, c, '='] => do
    let a ← value? a
    let b ← value? b
    let c ← value? c
    if c % 4 = 0 then return octets [a * 4 + b / 16, b % 16 * 16 + c / 4] else none
  | a :: b :: c :: d :: rest => do
    let a ← value? a
    let b ← value? b
    let c ← value? c
    let d ← value? d
    let others ← decode? rest
    return octets [a * 4 + b / 16, b % 16 * 16 + c / 4, c % 4 * 64 + d] ++ others
  | _ => none

end Base64

end AccessRules
