import AccessRules.Json.Value

/-!
A JSON text as it was written: numbers by their digits, strings by their escapes, every field of an
object, repeated names included. What it means comes after: a number is rounded, a pair of escapes
is joined to one character, and a repeated name keeps its first place with its last value. A part
that nobody asks the meaning of may hold a number out of range or half a pair.
-/

namespace AccessRules

/-- A number as written. The fraction is absent when there is no point, and the exponent is
absent when there is no `e`. -/
structure NumberText where
  negative : Bool
  whole : List Nat
  fraction : Option (List Nat)
  exponent : Option (Bool × List Nat)
deriving DecidableEq

/-- A character of a string as written, or the code unit of a four-digit escape. -/
inductive StringUnit where
  | char (c : Char)
  | codeUnit (u : Nat)
deriving DecidableEq

inductive Source where
  | null
  | bool (value : Bool)
  | num (text : NumberText)
  | str (units : List StringUnit)
  | arr (items : List Source)
  | obj (fields : List (List StringUnit × Source))

namespace NumberText

/-- The digits so far, and by how many places the point has to move. -/
structure Scaled where
  significand : Nat
  exponent : Int

def largestSignificand : Nat := Nat.pow 2 64 - 1

/-- Takes the digits before the point while the significand fits in 64 bits. The digits that are
left out count as places. -/
def takeWhole (s : Nat) : List Nat → Scaled
  | [] => ⟨s, 0⟩
  | d :: rest =>
    if s * 10 + d ≤ largestSignificand then takeWhole (s * 10 + d) rest
    else ⟨s, (d :: rest).length⟩

/-- Takes the digits after the point while the significand fits in 64 bits; the others are
dropped. -/
def takeFraction (s : Scaled) : List Nat → Scaled
  | [] => s
  | d :: rest =>
    if s.significand * 10 + d ≤ largestSignificand then
      takeFraction ⟨s.significand * 10 + d, s.exponent - 1⟩ rest
    else s

def ofDigits (digits : List Nat) : Nat :=
  digits.foldl (fun n d => n * 10 + d) 0

/-- The significand, rounded, times or over a power of ten, rounded again; a small enough power
takes two divisions, and below that the number is zero. Nothing when it is out of range. -/
def Scaled.toDouble? (negative : Bool) (s : Scaled) : Option Binary64 := do
  let f ← Binary64.ofRatio? negative s.significand 1
  if s.significand = 0 then return Binary64.zero negative
  else if 0 ≤ s.exponent then
    if s.exponent ≤ 308 then f.scaleUp? (← Binary64.powerOfTen? s.exponent.toNat) else none
  else if -308 ≤ s.exponent then
    f.scaleDown? (← Binary64.powerOfTen? (-s.exponent).toNat)
  else if -616 ≤ s.exponent then
    (← f.scaleDown? (← Binary64.powerOfTen? 308)).scaleDown?
      (← Binary64.powerOfTen? (-s.exponent - 308).toNat)
  else return Binary64.zero negative

def writtenExponent (t : NumberText) : Int :=
  match t.exponent with
  | none => 0
  | some (negative, digits) => if negative then -(ofDigits digits : Int) else ofDigits digits

/-- An integer of at most 64 bits is exact. A negative zero, a number with a point or an exponent
and an integer out of range are doubles. -/
def number? (t : NumberText) : Option Number :=
  let whole := takeWhole 0 t.whole
  match t.fraction, t.exponent with
  | none, none =>
    let i : Int := if t.negative then -(ofDigits t.whole : Int) else ofDigits t.whole
    if Number.exactRange i ∧ ¬(t.negative ∧ i = 0) then some (.integer i)
    else (whole.toDouble? t.negative).map .double
  | fraction, _ =>
    let scaled := takeFraction whole (fraction.getD [])
    (Scaled.toDouble? t.negative
      ⟨scaled.significand, scaled.exponent + t.writtenExponent⟩).map .double

end NumberText

namespace StringUnit

def isHighSurrogate (u : Nat) : Bool := decide (0xD800 ≤ u) && decide (u < 0xDC00)

def isLowSurrogate (u : Nat) : Bool := decide (0xDC00 ≤ u) && decide (u < 0xE000)

/-- Joins escaped pairs; half a pair has no meaning. -/
def decode : List StringUnit → Option (List Char)
  | [] => some []
  | .char c :: rest => (decode rest).map (c :: ·)
  | .codeUnit u :: rest =>
    if isHighSurrogate u then
      match rest with
      | .codeUnit v :: rest =>
        if isLowSurrogate v then
          (decode rest).map (Char.ofNat (0x10000 + (u - 0xD800) * 0x400 + (v - 0xDC00)) :: ·)
        else none
      | _ => none
    else if isLowSurrogate u then none
    else (decode rest).map (Char.ofNat u :: ·)

def decodeString (units : List StringUnit) : Option String :=
  (decode units).map String.ofList

end StringUnit

namespace Source

mutual

def depth : Source → Nat
  | .arr items => depthOfItems items + 1
  | .obj fields => depthOfFields fields + 1
  | _ => 0
termination_by structural source => source

def depthOfItems : List Source → Nat
  | [] => 0
  | item :: rest => max (depth item) (depthOfItems rest)

def depthOfFields : List (List StringUnit × Source) → Nat
  | [] => 0
  | (_, value) :: rest => max (depth value) (depthOfFields rest)

end

mutual

def meaning? : Source → Option Json
  | .null => some .null
  | .bool b => some (.bool b)
  | .num t => t.number?.map .num
  | .str units => (StringUnit.decodeString units).map .str
  | .arr items => (meaningOfItems? items).map .arr
  | .obj fields => (meaningOfFields? [] fields).map .obj
termination_by structural source => source

def meaningOfItems? : List Source → Option (List Json)
  | [] => some []
  | item :: rest => do
    let value ← meaning? item
    return value :: (← meaningOfItems? rest)

def meaningOfFields? (before : Fields) : List (List StringUnit × Source) → Option Fields
  | [] => some before
  | (units, source) :: rest => do
    let name ← StringUnit.decodeString units
    let value ← meaning? source
    meaningOfFields? (before.put name value) rest

end

def deepest : Nat := 127

/-- The value of a part that lies inside `around` arrays and objects. -/
def value? (source : Source) (around : Nat) : Option Json :=
  if source.depth + around ≤ deepest then source.meaning? else none

end Source

end AccessRules
