import AccessRules.Regex.Property
import AccessRules.Text.Basic

/-!
How sets of characters are written: escapes, and brackets around characters, ranges, named sets and
further brackets, with operators between the sets that these make up. Where case makes no
difference, every bracket takes in the variants of what it holds before it is negated. A reader also
tells how deep the brackets lie in each other.
-/

namespace AccessRules

namespace CharClass

inductive Escape where
  | char (c : Char)
  | set (cls : CharClass)
deriving DecidableEq

def Escape.toClass : Escape → CharClass
  | .char c => single c
  | .set cls => cls

def negatedIf (negated : Bool) (cls : CharClass) : CharClass :=
  if negated then cls.complement else cls

def caselessIf (caseless : Bool) (cls : CharClass) : CharClass :=
  if caseless then cls.caseless else cls

def propertyAhead? (caseless negated : Bool) (s : List Char) : Option (Escape × List Char) :=
  let set (name : List Char) (rest : List Char) : Option (Escape × List Char) :=
    (ofProperty? name).map fun cls => (.set (negatedIf negated (caselessIf caseless cls)), rest)
  match s with
  | '\x7b' :: rest =>
    match rest.dropWhile (· != '\x7d') with
    | _ :: after => set (rest.takeWhile (· != '\x7d')) after
    | [] => none
  | c :: rest => set [c] rest
  | [] => none

/-- The escape after a backslash. A letter or digit without a meaning is refused, and so are angle
brackets and everything beyond ASCII. -/
def escape? (caseless : Bool) (s : List Char) : Option (Escape × List Char) :=
  match s with
  | [] => none
  | 'd' :: rest => some (.set digit, rest)
  | 'D' :: rest => some (.set digit.complement, rest)
  | 's' :: rest => some (.set blank, rest)
  | 'S' :: rest => some (.set blank.complement, rest)
  | 'w' :: rest => some (.set word, rest)
  | 'W' :: rest => some (.set word.complement, rest)
  | 'p' :: rest => propertyAhead? caseless false rest
  | 'P' :: rest => propertyAhead? caseless true rest
  | 'a' :: rest => some (.char '\x07', rest)
  | 'f' :: rest => some (.char '\x0c', rest)
  | 'n' :: rest => some (.char '\n', rest)
  | 'r' :: rest => some (.char '\r', rest)
  | 't' :: rest => some (.char '\t', rest)
  | 'v' :: rest => some (.char '\x0b', rest)
  | c :: rest =>
    if c.isAlphanum || c = '<' || c = '>' || decide (128 ≤ c.toNat) then none
    else some (.char c, rest)

def member? (caseless : Bool) (s : List Char) : Option (Escape × List Char) :=
  match s with
  | [] => none
  | '\\' :: rest => escape? caseless rest
  | c :: rest => some (.char c, rest)

/-- A member, or the range from it to another one. A hyphen before the closing bracket or before
another hyphen makes no range. -/
def item? (caseless : Bool) (s : List Char) : Option (CharClass × List Char) := do
  let (first, rest) ← member? caseless s
  match rest with
  | '-' :: c :: more =>
    if c = ']' ∨ c = '-' then return (first.toClass, rest)
    else
      let (last, rest) ← member? caseless (c :: more)
      match first, last with
      | .char low, .char high => if low ≤ high then return (range low high, rest) else none
      | _, _ => none
  | [] => none
  | _ => return (first.toClass, rest)

/-- A named set after its opening bracket, such as `:digit:]` or `:^digit:]`. -/
def nameAhead? (caseless : Bool) (s : List Char) : Option (CharClass × List Char) :=
  match s with
  | ':' :: rest =>
    let (negated, rest) := match rest with
      | '^' :: rest => (true, rest)
      | rest => (false, rest)
    match rest.dropWhile (· != ':') with
    | ':' :: ']' :: after =>
      (named? (rest.takeWhile (· != ':'))).map fun cls =>
        (negatedIf negated (caselessIf caseless cls), after)
    | _ => none
  | _ => none

/-- An operator between two sets in brackets. All bind alike, from the left. -/
inductive Operator where
  | intersection
  | difference
  | symmetricDifference
deriving DecidableEq

def Operator.apply : Operator → CharClass → CharClass → CharClass
  | .intersection => CharClass.intersection
  | .difference => CharClass.difference
  | .symmetricDifference => CharClass.symmetricDifference

def operator? (s : List Char) : Option (Operator × List Char) :=
  match s with
  | '&' :: '&' :: rest => some (.intersection, rest)
  | '-' :: '-' :: rest => some (.difference, rest)
  | '~' :: '~' :: rest => some (.symmetricDifference, rest)
  | _ => none

structure Members where
  set : CharClass
  count : Nat
  depth : Nat

namespace Members

def none : Members := ⟨empty, 0, 0⟩

def add (members : Members) (cls : CharClass) (depth : Nat) : Members :=
  ⟨union members.set cls, members.count + 1, max members.depth depth⟩

def unionDepth (members : Members) : Nat :=
  if members.count ≤ 1 then members.depth else members.depth + 1

end Members

structure Operand where
  set : CharClass
  depth : Nat
  operator : Operator

def joined (caseless : Bool) (left : Option Operand) (members : Members) : CharClass × Nat :=
  match left with
  | some left =>
    (left.operator.apply (caselessIf caseless left.set) (caselessIf caseless members.set),
      max left.depth members.unionDepth + 1)
  | none => (members.set, members.unionDepth)

/-- The mark of a negated bracket, and the hyphens or the closing bracket that stand first in it as
members. -/
def opening (s : List Char) : Bool × Members × List Char :=
  let (negated, s) := match s with
    | '^' :: rest => (true, rest)
    | s => (false, s)
  match s with
  | ']' :: rest => (negated, Members.none.add (single ']') 0, rest)
  | s =>
    let hyphens := s.takeWhile (· = '-')
    (negated, hyphens.foldl (fun members c => members.add (single c) 0) Members.none,
      s.drop hyphens.length)

mutual

def bracket? (caseless : Bool) : Nat → List Char → Option ((CharClass × Nat) × List Char)
  | 0, _ => none
  | fuel + 1, s => do
    let (negated, members, rest) := opening s
    let ((cls, depth), rest) ← members? caseless fuel none members rest
    return ((negatedIf negated (caselessIf caseless cls), depth + 1), rest)

def members? (caseless : Bool) : Nat → Option Operand → Members → List Char →
    Option ((CharClass × Nat) × List Char)
  | 0, _, _, _ => none
  | fuel + 1, left, members, s =>
    match s with
    | [] => none
    | ']' :: rest => some (joined caseless left members, rest)
    | '[' :: rest =>
      match nameAhead? caseless rest with
      | some (cls, rest) => members? caseless fuel left (members.add cls 0) rest
      | none => do
        let ((cls, depth), rest) ← bracket? caseless fuel rest
        members? caseless fuel left (members.add cls depth) rest
    | s =>
      match operator? s with
      | some (operator, rest) =>
        let (set, depth) := joined caseless left members
        members? caseless fuel (some ⟨set, depth, operator⟩) Members.none rest
      | none => do
        let (cls, rest) ← item? caseless s
        members? caseless fuel left (members.add cls 0) rest

end

def ofBracket? (caseless : Bool) (s : List Char) : Option ((CharClass × Nat) × List Char) :=
  bracket? caseless (2 * s.length + 2) s

end CharClass

end AccessRules
