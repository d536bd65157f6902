import AccessRules.Text.Alphabetic
import AccessRules.Text.Folding

/-!
Sets of characters in regular expressions, as ascending intervals of numbers with gaps between them.
Every set has one such form, and the operations on sets keep to it.
-/

namespace AccessRules

structure CharClass where
  intervals : List (Nat × Nat)
deriving DecidableEq

namespace CharClass

def contains (cls : CharClass) (c : Char) : Bool :=
  inRanges cls.intervals c.toNat

/-- Joins intervals in ascending order of their beginnings, given the one before them. -/
def joinedAfter (before : Nat × Nat) : List (Nat × Nat) → List (Nat × Nat)
  | [] => [before]
  | (low, high) :: rest =>
    if low ≤ before.2 + 1 then joinedAfter (before.1, max before.2 high) rest
    else before :: joinedAfter (low, high) rest

def ofIntervals (intervals : List (Nat × Nat)) : CharClass :=
  match intervals.mergeSort fun a b => decide (a.1 ≤ b.1) with
  | [] => ⟨[]⟩
  | first :: rest => ⟨joinedAfter first rest⟩

/-- The numbers from the first to the second, at steps of the third. -/
def ofRuns (runs : List (Nat × Nat × Nat)) : CharClass :=
  ofIntervals (runs.flatMap fun (low, high, step) =>
    if step = 1 then [(low, high)]
    else (List.range ((high - low) / step + 1)).map fun i => (low + i * step, low + i * step))

def range (low high : Char) : CharClass := ⟨[(low.toNat, high.toNat)]⟩

def single (c : Char) : CharClass := range c c

def ofChars (chars : List Char) : CharClass :=
  ofIntervals (chars.map fun c => (c.toNat, c.toNat))

def empty : CharClass := ⟨[]⟩

def union (a b : CharClass) : CharClass :=
  ofIntervals (a.intervals ++ b.intervals)

def unions (parts : List CharClass) : CharClass :=
  ofIntervals (parts.flatMap (·.intervals))

def lastNumber : Nat := 0x10ffff

def gaps (start : Nat) : List (Nat × Nat) → List (Nat × Nat)
  | [] => if start ≤ lastNumber then [(start, lastNumber)] else []
  | (low, high) :: rest =>
    if start < low then (start, low - 1) :: gaps (high + 1) rest else gaps (high + 1) rest

def complement (cls : CharClass) : CharClass :=
  ⟨gaps 0 cls.intervals⟩

def intersection (a b : CharClass) : CharClass :=
  (union a.complement b.complement).complement

def difference (a b : CharClass) : CharClass :=
  intersection a b.complement

def symmetricDifference (a b : CharClass) : CharClass :=
  union (difference a b) (difference b a)

/-- Some numbers of a run, moved by a distance, if they are in the set. -/
def moved (cls : CharClass) (low high step : Nat) (distance : Int) : List (Nat × Nat) :=
  cls.intervals.flatMap fun (first, last) =>
    let start := max first low
    let start := start + (step - (start - low) % step) % step
    let stop := min last high
    if stop < start then []
    else if step = 1 then [((start + distance).toNat, (stop + distance).toNat)]
    else
      (List.range ((stop - start) / step + 1)).map fun i =>
        let n := ((start + i * step : Nat) + distance).toNat
        (n, n)

/-- All characters that differ from one in the set in nothing but their case. -/
def caseless (cls : CharClass) : CharClass :=
  let folded := union cls (ofIntervals (foldedRuns.flatMap fun (low, high, step, distance) =>
    cls.moved low high step distance))
  union folded (ofIntervals (foldedRuns.flatMap fun (low, high, step, distance) =>
    folded.moved (low + distance).toNat (high + distance).toNat step (-distance)))

def lower : CharClass := range 'a' 'z'

def upper : CharClass := range 'A' 'Z'

def asciiDigit : CharClass := range '0' '9'

def asciiLetter : CharClass := unions [lower, upper]

def asciiWord : CharClass := unions [asciiLetter, asciiDigit, single '_']

def anything : CharClass := ⟨[(0, lastNumber)]⟩

def notLineFeed : CharClass := (single '\n').complement

def ofCategory (category : Category) : CharClass := ofRuns category.runs

def ofCategories (categories : List Category) : CharClass :=
  unions (categories.map ofCategory)

def letters : List Category :=
  [.uppercaseLetter, .lowercaseLetter, .titlecaseLetter, .modifierLetter, .otherLetter]

def marks : List Category := [.nonspacingMark, .spacingMark, .enclosingMark]

def alphabetic : CharClass :=
  union (ofCategories (.letterNumber :: letters)) (ofIntervals alphabeticSigns)

def digit : CharClass := ofCategory .decimalNumber

def blank : CharClass :=
  unions [range '\t' '\r', single '\u0085',
    ofCategories [.spaceSeparator, .lineSeparator, .paragraphSeparator]]

def word : CharClass :=
  unions [alphabetic, ofCategories (.decimalNumber :: .connectorPunctuation :: marks),
    range '\u200c' '\u200d']

def isWord (c : Char) : Bool :=
  if c.toNat < 128 then asciiWord.contains c else word.contains c

def named? (name : List Char) : Option CharClass :=
  match String.ofList name with
  | "alnum" => some (unions [asciiLetter, asciiDigit])
  | "alpha" => some asciiLetter
  | "ascii" => some (range '\x00' '\x7f')
  | "blank" => some (ofChars ['\t', ' '])
  | "cntrl" => some (unions [range '\x00' '\x1f', single '\x7f'])
  | "digit" => some asciiDigit
  | "graph" => some (range '!' '~')
  | "lower" => some lower
  | "print" => some (range ' ' '~')
  | "punct" =>
    some (unions [range '!' '/', range ':' '@', range '[' '\x60', range '\x7b' '~'])
  | "space" => some (unions [range '\t' '\r', single ' '])
  | "upper" => some upper
  | "word" => some asciiWord
  | "xdigit" => some (unions [asciiDigit, range 'a' 'f', range 'A' 'F'])
  | _ => none

end CharClass

end AccessRules
