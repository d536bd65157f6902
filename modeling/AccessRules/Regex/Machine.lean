import AccessRules.Regex.Program

/-!
How a program runs on a text. It follows one branch and keeps the others for later, each with the
slots that it was left with; when a branch fails, the latest of the others is taken up. How often
this may happen is limited, and so is the number of branches that are kept.
-/

namespace AccessRules

namespace Program

/-- A branch of a run: the next instruction, the place in the text, the slots, and for each part
that is being committed to, how many other branches there were at its beginning. -/
structure Run where
  next : Nat
  place : Nat
  slots : Array (Option Nat)
  commitments : List Nat

namespace Run

def onward (run : Run) : Run := { run with next := run.next + 1 }

def goTo (run : Run) (next : Nat) : Run := { run with next := next }

def slot (run : Run) (i : Nat) : Option Nat := run.slots.getD i none

def setSlot (run : Run) (i : Nat) (value : Nat) : Run :=
  { run with slots := run.slots.setIfInBounds i (some value) }

end Run

inductive Outcome where
  | goOn (run : Run)
  | fork (first second : Run)
  | fail
  | done
  /-- Gives up all branches but so many. -/
  | commit (run : Run) (count : Nat)
  /-- Gives up the branches from here back to the one with this instruction, and fails. -/
  | failBack (next : Nat)

def lettersAt? (text : Array Char) (place : Nat) : List Char → Option Nat
  | [] => some place
  | c :: rest => if text[place]? = some c then lettersAt? text (place + 1) rest else none

/-- The place after a copy of so many characters from elsewhere, if it stands here. -/
def copyAt? (text : Array Char) (start place : Nat) : Nat → Option Nat
  | 0 => some place
  | count + 1 =>
    if place < text.size ∧ text[place]? = text[start]? then
      copyAt? text (start + 1) (place + 1) count
    else none

def stepAny (text : Array Char) (withLineFeed : Bool) (run : Run) : Outcome :=
  match text[run.place]? with
  | none => .fail
  | some c =>
    if c = '\n' ∧ !withLineFeed then .fail
    else .goOn { run.onward with place := run.place + 1 }

def stepTo (run : Run) : Option Nat → Outcome
  | none => .fail
  | some place => .goOn { run.onward with place := place }

/-- Another turn with its number in the slot, or a fork between the turn and what comes after. -/
def stepTurn (run : Run) (slot least turns : Nat) (preference : Preference) (after : Nat) :
    Outcome :=
  let run := run.setSlot slot (turns + 1)
  if turns < least then .goOn run.onward
  else
    match preference with
    | .more => .fork run.onward (run.goTo after)
    | .fewer => .fork (run.goTo after) run.onward

def step (text : Array Char) (others : Nat) (run : Run) : Instruction → Outcome
  | .done => .done
  | .any withLineFeed => stepAny text withLineFeed run
  | .letters letters => stepTo run (lettersAt? text run.place letters)
  | .regular automaton firstGroup =>
    match automaton.matchAt? text run.place with
    | none => .fail
    | some thread =>
      .goOn (thread.notes.foldr (fun (slot, place) run => run.setSlot (2 * firstGroup + slot) place)
        { run.onward with place := thread.place })
  | .fork first second => .fork (run.goTo first) (run.goTo second)
  | .jump target => .goOn (run.goTo target)
  | .note slot => .goOn (run.onward.setSlot slot run.place)
  | .returnTo slot => stepTo run (run.slot slot)
  | .count slot => .goOn (run.onward.setSlot slot 0)
  | .turn slot least most preference after =>
    let turns := (run.slot slot).getD 0
    if most = some turns then .goOn (run.goTo after)
    else stepTurn run slot least turns preference after
  | .fullTurn slot mark least preference after =>
    let turns := (run.slot slot).getD 0
    if least < turns ∧ run.slot mark = some run.place then .fail
    else
      let run := if turns < least then run else run.setSlot mark run.place
      stepTurn run slot least turns preference after
  | .back size =>
    if size ≤ run.place then .goOn { run.onward with place := run.place - size } else .fail
  | .denied => .failBack (run.next + 1)
  | .same group =>
    match run.slot (2 * group), run.slot (2 * group + 1) with
    | some start, some stop => stepTo run (copyAt? text start run.place (stop - start))
    | _, _ => .fail
  | .entered group => if (run.slot (2 * group)).isSome then .goOn run.onward else .fail
  | .commitFrom => .goOn { run.onward with commitments := others :: run.commitments }
  | .commitTo =>
    match run.commitments with
    | count :: rest => .commit { run.onward with commitments := rest } count
    | [] => .fail
  | .searchStart => if run.place = 0 then .goOn run.onward else .fail

inductive Exhaustion where
  | setbacks
  | branches
deriving DecidableEq

def Exhaustion.message : Exhaustion → String
  | .setbacks => "Error executing regex: Max limit for backtracking count exceeded"
  | .branches => "Error executing regex: Max stack size exceeded for backtracking"

/-- How often a branch may fail while there are others. -/
def setbackLimit : Nat := 1000000

def branchLimit : Nat := 1000000

def before (next : Nat) : Nat → List Run → Nat × List Run
  | count, [] => (count, [])
  | count, run :: others =>
    if run.next = next then (count - 1, others) else before next (count - 1) others

/-- Follows a branch and, when it fails, the others. Tells whether one is done. -/
def follow (code : Array Instruction) (text : Array Char) :
    Nat → Run → Nat → List Run → Nat → Except Exhaustion Bool
  | 0, _, _, _, _ => .ok false
  | fuel + 1, run, count, others, setbacks =>
    let takeUp (count : Nat) (others : List Run) : Except Exhaustion Bool :=
      match others with
      | [] => .ok false
      | run :: others =>
        if setbacks < setbackLimit then
          follow code text fuel run (count - 1) others (setbacks + 1)
        else .error .setbacks
    match step text count run (code.getD run.next .done) with
    | .goOn run => follow code text fuel run count others setbacks
    | .fork first second =>
      if count < branchLimit then
        follow code text fuel first (count + 1) (second :: others) setbacks
      else .error .branches
    | .fail => takeUp count others
    | .done => .ok true
    | .commit run kept => follow code text fuel run kept (others.drop (count - kept)) setbacks
    | .failBack next =>
      let (count, others) := before next count others
      takeUp count others

/-- More instructions than any run can do in its time. -/
def stepBound : Nat := Nat.pow 2 62

def occursIn (program : Program) (text : Array Char) : Except Exhaustion Bool :=
  follow program.code text stepBound ⟨0, 0, Array.replicate program.slots none, []⟩ 0 [] 0

end Program

end AccessRules
