import AccessRules.Regex.Machine
import AccessRules.Regex.Shorthand

/-!
Patterns, as schemas use them: the expression that a text spells, made ready for a search. A plain
expression is searched for as one regular expression, in a time that the sizes of both bound; any
other one by its program, which may give up.
-/

namespace AccessRules

inductive Pattern where
  | regular (automaton : Automaton)
  | branching (program : Program)

namespace Pattern

/-- The regular expression that a text spells, if its automaton does not take too much room. -/
def regularOf? (text : List Char) : Option Regular :=
  (Regular.ofText? text).bind fun regular => if regular.isBuildable then some regular else none

def ofExpression? (referenced : List Nat) (e : Expression) : Option Pattern :=
  if (e.opened? 1).isNone then none
  else if e.isPlain referenced then
    (regularOf? (e.spelled .whole)).map fun regular => .regular (Automaton.ofRegular regular)
  else (Program.ofExpression? referenced e).map .branching

def ofText? (text : String) : Option Pattern :=
  (Expression.ofText? text.toList).bind fun reading =>
    ofExpression? reading.referenced reading.expression

def ofShorthand? (text : String) : Option Pattern :=
  ofText? (String.ofList (Shorthand.expanded text.toList))

/-- There is a match somewhere in the text, unless the search is given up. -/
def search (pattern : Pattern) (text : String) : Except Program.Exhaustion Bool :=
  let chars := text.toList.toArray
  match pattern with
  | .regular automaton => .ok (automaton.occursIn chars)
  | .branching program => program.occursIn chars

def occursIn (pattern : Pattern) (text : String) : Bool :=
  match pattern.search text with
  | .ok found => found
  | .error _ => false

end Pattern

end AccessRules
