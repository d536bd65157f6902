import AccessRules.Regex.Automaton
import AccessRules.Regex.Reader

/-!
The program that matches an expression by trying its branches one after the other. Plain parts that
stand together are matched as one regular expression, so their matches are not taken back piece by
piece; the rest is laid out in instructions, with forks for its choices and slots for places and
counts.
-/

namespace AccessRules

inductive Instruction where
  | done
  | any (withLineFeed : Bool)
  | letters (text : List Char)
  /-- A regular expression, and the number of its first group. -/
  | regular (automaton : Automaton) (firstGroup : Nat)
  /-- Goes on with the first branch and keeps the second for later. -/
  | fork (first second : Nat)
  | jump (target : Nat)
  | note (slot : Nat)
  | returnTo (slot : Nat)
  /-- Begins a count of turns in a slot. -/
  | count (slot : Nat)
  /-- Another turn as the counts allow, or on to the next instruction after the turns. -/
  | turn (slot least : Nat) (most : Option Nat) (preference : Preference) (after : Nat)
  /-- Another turn, unless the last one beyond the least count was empty. -/
  | fullTurn (slot mark least : Nat) (preference : Preference) (after : Nat)
  /-- So many characters back. -/
  | back (size : Nat)
  /-- The look that must not succeed has succeeded. -/
  | denied
  /-- The text that a group matched. -/
  | same (group : Nat)
  | entered (group : Nat)
  /-- Between these two, what is matched first stands. -/
  | commitFrom
  | commitTo
  | searchStart

structure Draft where
  code : Array Instruction
  slots : Nat

namespace Draft

def place (draft : Draft) : Nat := draft.code.size

def add (draft : Draft) (instruction : Instruction) : Draft :=
  { draft with code := draft.code.push instruction }

def set (draft : Draft) (place : Nat) (instruction : Instruction) : Draft :=
  { draft with code := draft.code.setIfInBounds place instruction }

def withSlot (draft : Draft) : Draft := { draft with slots := draft.slots + 1 }

abbrev Builder := Draft → Option Draft

/-- Leaves room for an instruction that depends on the places before and after a part. -/
def around (draft : Draft) (build : Builder) (instruction : Nat → Nat → Instruction) :
    Option Draft :=
  let start := draft.place
  (build (draft.add .done)).map fun draft => draft.set start (instruction (start + 1) draft.place)

def choice (preference : Preference) (inside outside : Nat) : Instruction :=
  match preference with
  | .more => .fork inside outside
  | .fewer => .fork outside inside

def once (preference : Preference) (build : Builder) (draft : Draft) : Option Draft :=
  draft.around build (choice preference)

def anyTimes (preference : Preference) (build : Builder) (draft : Draft) : Option Draft :=
  let start := draft.place
  draft.around (fun draft => (build draft).map fun draft => draft.add (.jump start))
    (choice preference)

def onceOrMore (preference : Preference) (build : Builder) (draft : Draft) : Option Draft :=
  let start := draft.place
  (build draft).map fun draft => draft.add (choice preference start (draft.place + 1))

def counted (least : Nat) (most : Option Nat) (preference : Preference) (build : Builder)
    (draft : Draft) : Option Draft :=
  let slot := draft.slots
  let draft := draft.withSlot.add (.count slot)
  let start := draft.place
  draft.around (fun draft => (build draft).map fun draft => draft.add (.jump start))
    fun _ after => .turn slot least most preference after

/-- Turns without an upper count that may be empty. -/
def counting (least : Nat) (preference : Preference) (build : Builder) (draft : Draft) :
    Option Draft :=
  let slot := draft.slots
  let draft := draft.withSlot.withSlot.add (.count slot)
  let start := draft.place
  draft.around (fun draft => (build draft).map fun draft => draft.add (.jump start))
    fun _ after => .fullTurn slot (slot + 1) least preference after

def times (size least : Nat) (most : Option Nat) (preference : Preference) (build : Builder)
    (draft : Draft) : Option Draft :=
  if least = 0 ∧ most = some 1 then draft.once preference build
  else if most = none ∧ size = 0 then draft.counting least preference build
  else if most = none ∧ least = 0 then draft.anyTimes preference build
  else if most = none ∧ least = 1 then draft.onceOrMore preference build
  else draft.counted least most preference build

/-- A look behind goes back by the size of what it looks for, which must be fixed. -/
def goBack (behind : Bool) (inner : Expression) (draft : Draft) : Option Draft :=
  if !behind then some draft
  else if inner.hasOneSize then some (draft.add (.back inner.leastSize))
  else none

def look (behind : Bool) (inner : Expression) (build : Builder) (draft : Draft) : Option Draft :=
  let slot := draft.slots
  ((draft.withSlot.add (.note slot)).goBack behind inner).bind fun draft =>
    (build draft).map fun draft => draft.add (.returnTo slot)

def denial (behind : Bool) (inner : Expression) (build : Builder) (draft : Draft) :
    Option Draft :=
  draft.around (fun draft => (draft.goBack behind inner).bind fun draft =>
    (build draft).map fun draft => draft.add .denied) .fork

inductive Branch where
  | matched (hard : Bool)
  | lookedBehind

/-- A regular expression for parts that stand together, which must read as one after an anchor. -/
def regularOf? (parts : List Expression) : Option Regular := do
  let text := (Expression.spelledAll .branch parts).flatten
  let anchored ← Regular.ofText? ('^' :: text)
  if anchored.isBuildable then Regular.ofText? text else none

def plain (parts : List Expression) (draft : Draft) : Option Draft :=
  if parts.isEmpty then some draft
  else
    match Expression.lettersOf? parts with
    | some letters => some (draft.add (.letters letters))
    | none =>
      (regularOf? parts).map fun regular =>
        draft.add (.regular (Automaton.ofRegular regular) ((Expression.groupsOf parts).headD 0))

/-- How many parts at the front can be matched together: plain ones, of one size if so asked. -/
def together (referenced : List Nat) (oneSize : Bool) (parts : List Expression) : Nat :=
  (parts.takeWhile fun part => part.isPlain referenced && (!oneSize || part.hasOneSize)).length

mutual

/-- The instructions for an expression. In a hard place only its smallest parts are matched as
regular expressions. -/
def expression (referenced : List Nat) (e : Expression) (hard : Bool) (draft : Draft) :
    Option Draft :=
  if !hard && e.isPlain referenced then draft.plain [e]
  else
    match e with
    | .empty => some draft
    | .any withLineFeed => some (draft.add (.any withLineFeed))
    | .literal c caseless => draft.plain [.literal c caseless]
    | .edge look => draft.plain [.edge look]
    | .regular text size caseless => draft.plain [.regular text size caseless]
    | .sequence parts =>
      let front := together referenced true parts
      let rest := parts.drop front
      let count := rest.length - together referenced hard rest.reverse
      (draft.plain (parts.take front)).bind fun draft =>
        (parts? referenced front count parts draft).bind fun draft => draft.plain (rest.drop count)
    | .alternatives branches => branches? referenced (.matched hard) branches draft
    | .times inner least most preference =>
      let hard := if least = 0 ∧ most = some 1 then hard else hard || !inner.isPlain referenced
      draft.times inner.leastSize least most preference (expression referenced inner hard)
    | .group number inner =>
      (expression referenced inner hard (draft.add (.note (2 * number)))).map fun draft =>
        draft.add (.note (2 * number + 1))
    | .around true negated (.alternatives branches) =>
      let inner := Expression.alternatives branches
      let whole : Builder := fun draft =>
        if Expression.arePlain referenced branches then draft.plain [inner]
        else branches? referenced (.matched false) branches draft
      match inner.hasOneSize, negated with
      | true, false => draft.look true inner whole
      | true, true => draft.denial true inner whole
      | false, false => branches? referenced .lookedBehind branches draft
      | false, true => denials? referenced branches draft
    | .around behind false inner => draft.look behind inner (expression referenced inner false)
    | .around behind true inner => draft.denial behind inner (expression referenced inner false)
    | .reference number => some (draft.add (.same number))
    | .atomic inner =>
      (expression referenced inner false (draft.add .commitFrom)).map fun draft =>
        draft.add .commitTo
    | .beginning => some (draft.add (.note 0))
    | .searchStart => some (draft.add .searchStart)
    | .entered number => some (draft.add (.entered number))
    | .conditional condition yes no => do
      let draft := draft.add .commitFrom
      let start := draft.place
      let draft ← expression referenced condition hard (draft.add .done)
      let draft ← expression referenced yes hard (draft.add .commitTo)
      let skip := draft.place
      let draft := (draft.add .done).set start (.fork (start + 1) (skip + 1))
      let draft ← expression referenced no hard draft
      return draft.set skip (.jump draft.place)
termination_by structural e

def parts? (referenced : List Nat) (skip count : Nat) (parts : List Expression) (draft : Draft) :
    Option Draft :=
  match parts with
  | [] => some draft
  | part :: rest =>
    match skip, count with
    | skip + 1, count => parts? referenced skip count rest draft
    | 0, 0 => some draft
    | 0, count + 1 =>
      (expression referenced part true draft).bind fun draft =>
        parts? referenced 0 count rest draft
termination_by structural parts

def branches? (referenced : List Nat) (how : Branch) (branches : List Expression)
    (draft : Draft) : Option Draft :=
  match branches with
  | [] => some draft
  | branch :: rest =>
    let build : Builder := match how with
      | .matched hard => expression referenced branch hard
      | .lookedBehind => fun draft => draft.look true branch (expression referenced branch false)
    if rest.isEmpty then build draft
    else
      let start := draft.place
      (build (draft.add .done)).bind fun draft =>
        let skip := draft.place
        let draft := (draft.add .done).set start (.fork (start + 1) (skip + 1))
        (branches? referenced how rest draft).map fun draft => draft.set skip (.jump draft.place)
termination_by structural branches

def denials? (referenced : List Nat) (branches : List Expression) (draft : Draft) :
    Option Draft :=
  match branches with
  | [] => some draft
  | branch :: rest =>
    (draft.denial true branch (expression referenced branch false)).bind fun draft =>
      denials? referenced rest draft
termination_by structural branches

end

end Draft

structure Program where
  code : Array Instruction
  slots : Nat

/-- The program that seeks a match of the expression from every place on, the first one first. -/
def Program.ofExpression? (referenced : List Nat) (e : Expression) : Option Program :=
  let draft : Draft := ⟨#[.fork 3 1, .any true, .jump 0, .note 0], 2 * (e.groups.length + 1)⟩
  (draft.expression referenced e true).map fun draft =>
    ⟨(draft.add (.note 1)).add .done |>.code, draft.slots⟩

end AccessRules
