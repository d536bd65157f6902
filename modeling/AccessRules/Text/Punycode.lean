/-!
Punycode: a label with characters beyond ASCII in ASCII. The ASCII characters come first; the others
follow in ascending order, each as its distance from the one before it, counted over all places in
the label. Distances are written in base 36 with thresholds that follow the sizes of earlier ones.
-/

namespace AccessRules

namespace Punycode

def digit (n : Nat) : Char :=
  if n < 26 then Char.ofNat (n + 'a'.toNat) else Char.ofNat (n - 26 + '0'.toNat)

/-- From this digit on, the digit at a place is not the last one. -/
def threshold (place bias : Nat) : Nat :=
  min 26 (max 1 (place - bias))

def digits (bias place n : Nat) : List Char :=
  let t := threshold place bias
  if n < t then [digit n]
  else digit (t + (n - t) % (36 - t)) :: digits bias (place + 36) ((n - t) / (36 - t))
termination_by n
decreasing_by
  have positive : 1 ≤ threshold place bias := by unfold threshold; omega
  exact Nat.lt_of_le_of_lt (Nat.div_le_self _ _) (by omega)

/-- Divides a distance by 35 while it is large, with 36 more for each division. -/
def reduced (distance steps : Nat) : Nat × Nat :=
  if 455 < distance then reduced (distance / 35) (steps + 36) else (distance, steps)
termination_by distance
decreasing_by exact Nat.div_lt_self (by omega) (by omega)

/-- The bias after a distance, given how many characters are written by then. -/
def adapted (distance written : Nat) (isFirst : Bool) : Nat :=
  let halved := if isFirst then distance / 700 else distance / 2
  let (rest, steps) := reduced (halved + halved / written) 0
  steps + 36 * rest / (rest + 38)

structure State where
  text : List Char
  written : Nat
  distance : Nat
  bias : Nat

/-- Passes one place of the label while the character with the number `n` is sought. -/
def pass (basic n : Nat) (state : State) (c : Char) : State :=
  if c.toNat < n then { state with distance := state.distance + 1 }
  else if c.toNat = n then
    { text := state.text ++ digits state.bias 36 state.distance
      written := state.written + 1
      distance := 0
      bias := adapted state.distance (state.written + 1) (state.written == basic) }
  else state

/-- Writes the characters with the given numbers, in ascending order, after the ones before
`next`. -/
def write (label : List Char) (basic : Nat) : List Nat → Nat → State → State
  | [], _, state => state
  | n :: rest, next, state =>
    let moved := { state with distance := state.distance + (n - next) * (state.written + 1) }
    let state := label.foldl (pass basic n) moved
    write label basic rest (n + 1) { state with distance := state.distance + 1 }

def isBasic (c : Char) : Bool := decide (c.toNat < 128)

def encode (label : List Char) : List Char :=
  let basic := label.filter isBasic
  let numbers := ((label.filter fun c => !isBasic c).map Char.toNat).mergeSort.eraseDups
  let state := write label basic.length numbers 128 ⟨[], basic.length, 0, 72⟩
  basic ++ (if basic.isEmpty then [] else ['-']) ++ state.text

end Punycode

end AccessRules
