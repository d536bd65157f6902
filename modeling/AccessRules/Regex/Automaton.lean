import AccessRules.Regex.Weight

/-!
The automaton of a regular expression and the search for a match. A state that forks prefers its
first branch. The search follows the branches in this order and enters each state at each place only
once: what failed there before would fail again. So the first match that it finds is the preferred
one, and its time is bounded by the number of states and places.
-/

namespace AccessRules

namespace Automaton

inductive State where
  | stop
  | take (cls : CharClass) (next : Nat)
  | check (look : Look) (next : Nat)
  | fork (first second : Nat)
  | note (slot next : Nat)

end Automaton

structure Automaton where
  states : Array Automaton.State
  start : Nat

namespace Automaton

def add (states : Array State) (state : State) : Nat × Array State :=
  (states.size, states.push state)

def choice (preference : Preference) (inside outside : Nat) : State :=
  match preference with
  | .more => .fork inside outside
  | .fewer => .fork outside inside

/-- How a part of an expression is built: given the state after it, it yields the state where it
begins. -/
abbrev Builder := Nat → Array State → Nat × Array State

def exactly (build : Builder) : Nat → Builder
  | 0, next, states => (next, states)
  | n + 1, next, states =>
    let (start, states) := exactly build n next states
    build start states

def atMost (preference : Preference) (build : Builder) (next : Nat) : Nat → Builder
  | 0, _, states => (next, states)
  | n + 1, _, states =>
    let (start, states) := atMost preference build next n next states
    let (inside, states) := build start states
    add states (choice preference inside next)

def onceOrMore (preference : Preference) (build : Builder) : Builder := fun next states =>
  let (again, states) := add states .stop
  let (inside, states) := build again states
  (inside, states.setIfInBounds again (choice preference inside next))

/-- A part any number of times. If it may be empty, it is once or more or not at all, so that an
empty turn comes before the end and not instead of it. -/
def anyTimes (preference : Preference) (nullable : Bool) (build : Builder) : Builder :=
  fun next states =>
    if nullable then
      let (inside, states) := onceOrMore preference build next states
      add states (choice preference inside next)
    else
      let (again, states) := add states .stop
      let (inside, states) := build again states
      (again, states.setIfInBounds again (choice preference inside next))

def build : Regular → Builder
  | .empty, next, states => (next, states)
  | .chars cls, next, states => add states (.take cls next)
  | .look look, next, states => add states (.check look next)
  | .sequence first second, next, states =>
    let (middle, states) := build second next states
    build first middle states
  | .either first second, next, states =>
    let (second, states) := build second next states
    let (first, states) := build first next states
    add states (.fork first second)
  | .group number inner, next, states =>
    let (stop, states) := add states (.note (2 * number + 1) next)
    let (inside, states) := build inner stop states
    add states (.note (2 * number) inside)
  | .times inner least most preference, next, states =>
    match most with
    | some most =>
      let (start, states) := atMost preference (build inner) next (most - least) next states
      exactly (build inner) least start states
    | none =>
      match least with
      | 0 => anyTimes preference inner.isNullable (build inner) next states
      | least + 1 =>
        let (start, states) := onceOrMore preference (build inner) next states
        exactly (build inner) least start states

def ofRegular (regular : Regular) : Automaton :=
  let (stop, states) := add #[] .stop
  let (start, states) := build regular stop states
  ⟨states, start⟩

/-- A branch of the search: where it is, and the slots that it noted, the last one first. -/
structure Thread where
  state : Nat
  place : Nat
  notes : List (Nat × Nat)

def steps (text : Array Char) (thread : Thread) : State → List Thread
  | .stop => []
  | .take cls next =>
    match text[thread.place]? with
    | some c =>
      if cls.contains c then [{ thread with state := next, place := thread.place + 1 }] else []
    | none => []
  | .check look next =>
    if look.holds text thread.place then [{ thread with state := next }] else []
  | .fork first second => [{ thread with state := first }, { thread with state := second }]
  | .note slot next =>
    [{ thread with state := next, notes := (slot, thread.place) :: thread.notes }]

/-- Follows branches until one of them stops, given which states were entered at which places. -/
def follow (automaton : Automaton) (text : Array Char) :
    Nat → Array Bool → List Thread → Option Thread
  | 0, _, _ => none
  | _, _, [] => none
  | fuel + 1, entered, thread :: others =>
    let index := thread.place * automaton.states.size + thread.state
    if entered.getD index true then follow automaton text fuel entered others
    else
      match automaton.states[thread.state]? with
      | none => none
      | some .stop => some thread
      | some state =>
        follow automaton text fuel (entered.setIfInBounds index true)
          (steps text thread state ++ others)

/-- The preferred match among those that begin at the given places, the first place first. -/
def search (automaton : Automaton) (text : Array Char) (places : List Nat) : Option Thread :=
  let room := automaton.states.size * (text.size + 1)
  follow automaton text (2 * room + places.length + 1) (Array.replicate room false)
    (places.map fun i => ⟨automaton.start, i, []⟩)

def matchAt? (automaton : Automaton) (text : Array Char) (place : Nat) : Option Thread :=
  automaton.search text [place]

def occursIn (automaton : Automaton) (text : Array Char) : Bool :=
  (automaton.search text (List.range (text.size + 1))).isSome

end Automaton

end AccessRules
