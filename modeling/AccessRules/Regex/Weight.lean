import AccessRules.Regex.Regular

/-!
How much room the automaton of a regular expression takes, so that expressions that would take too
much are refused. A set of characters beyond ASCII is laid out as the octets of their codes: one
state for every beginning that its sequences of octets have in common.
-/

namespace AccessRules

namespace Utf8Octets

/-- The octets of a number, as a sequence of intervals of octets of one value each. -/
def octets (n : Nat) : List Nat :=
  if n < 0x80 then [n]
  else if n < 0x800 then [0xc0 + n / 64, 0x80 + n % 64]
  else if n < 0x10000 then [0xe0 + n / 4096, 0x80 + n / 64 % 64, 0x80 + n % 64]
  else [0xf0 + n / 262144, 0x80 + n / 4096 % 64, 0x80 + n / 64 % 64, 0x80 + n % 64]

def cutAt (bounds : List Nat) (interval : Nat × Nat) : List (Nat × Nat) :=
  bounds.foldl (fun parts bound =>
    parts.flatMap fun (low, high) =>
      if low < bound ∧ bound ≤ high then [(low, bound - 1), (bound, high)] else [(low, high)])
    [interval]

/-- Cuts an interval so that all of its numbers share what stands before their last `6 * i` binary
digits, or that these digits run through all of their values. -/
def cutBlocks (i : Nat) (interval : Nat × Nat) : List (Nat × Nat) :=
  let block := Nat.pow 64 i
  let (low, high) := interval
  if low / block = high / block then [interval]
  else cutAt [(low + block - 1) / block * block, (high + 1) / block * block] interval

/-- The intervals whose sequences of octets vary in each octet by itself, without the halves of
pairs. -/
def sequences (interval : Nat × Nat) : List (List (Nat × Nat)) :=
  let pieces := (cutAt [0x80, 0x800, 0xd800, 0xe000, 0x10000] interval).filter fun (low, _) =>
    !(decide (0xd800 ≤ low) && decide (low < 0xe000))
  let pieces := pieces.flatMap fun piece =>
    if piece.2 < 0x80 then [piece]
    else ((cutBlocks 1 piece).flatMap (cutBlocks 2)).flatMap (cutBlocks 3)
  pieces.map fun (low, high) => (octets low).zip (octets high)

def common : List (Nat × Nat) → List (Nat × Nat) → Nat
  | a :: as, b :: bs => if a = b then common as bs + 1 else 0
  | _, _ => 0

/-- How many different beginnings some sequences in ascending order have. -/
def beginnings : List (List (Nat × Nat)) → Nat
  | [] => 0
  | [s] => s.length
  | s :: t :: rest => s.length - common s t + beginnings (t :: rest)

end Utf8Octets

namespace Regular

def stateWeight : Nat := 32

def branchWeight (count : Nat) : Nat := 4 * count

/-- The room of a set of characters. A single character takes a state for each octet of its code,
and an ASCII set one state with all of its intervals. -/
def setWeight (cls : CharClass) : Nat :=
  match cls.intervals with
  | [(low, high)] =>
    if low = high then stateWeight * (Utf8Octets.octets low).length
    else if high < 0x80 then 2 * stateWeight + 8
    else wide [(low, high)]
  | intervals =>
    if intervals.all fun (_, high) => decide (high < 0x80) then
      2 * stateWeight + 8 * intervals.length
    else wide intervals
where
  wide (intervals : List (Nat × Nat)) : Nat :=
    let sequences := intervals.flatMap Utf8Octets.sequences
    stateWeight * (Utf8Octets.beginnings sequences + 2) + branchWeight sequences.length

def weight : Regular → Nat
  | .empty | .look _ => stateWeight
  | .chars cls => setWeight cls
  | .sequence first second => first.weight + second.weight
  | .either first second => first.weight + second.weight + 2 * stateWeight + branchWeight 2
  | .group _ inner => inner.weight + 2 * stateWeight
  | .times inner least most _ =>
    let turn := stateWeight + branchWeight 2
    match most with
    | none =>
      if least = 0 then
        inner.weight + turn + (if inner.isNullable then turn + stateWeight else 0)
      else inner.weight * least + turn
    | some most =>
      if least = most then max (inner.weight * least) stateWeight
      else inner.weight * most + turn * (most - least) + stateWeight

def frameWeight : Nat := 5 * stateWeight + branchWeight 2

def weightLimit : Nat := 10 * 1024 * 1024

def isBuildable (regular : Regular) : Bool :=
  decide (regular.weight + frameWeight ≤ weightLimit)

end Regular

end AccessRules
