import AccessRules.Schema.Assertion
import AccessRules.Text.Utf8

/-!
A schema as a constraint on values. Keywords become a handful of forms: assertions about the value
itself, demands on a property or an item of it, and combinations. References stay names; what they
mean is handed in, so that a constraint without references means the same whatever is handed in.

`accepts` says whether a value meets a constraint and `violations` lists what is wrong with it, in
the order of the keywords.
-/

namespace AccessRules

inductive Constraint where
  | never
  | assertion (a : Assertion)
  | every (parts : List Constraint)
  | anyOf (branches : List Constraint)
  | oneOf (branches : List Constraint)
  /-- Not the inner one, which was written as `schema`. -/
  | negation (schema : Json) (inner : Constraint)
  /-- One of two constraints, by whether the test is met. -/
  | choice (test whenMet otherwise : Constraint)
  /-- The property's value, if the property is there. -/
  | property (name : String) (inner : Constraint)
  | matching (pattern : Pattern) (inner : Constraint)
  /-- The known property's value, and that of every property whose name matches a pattern. Any
  other property's value meets `other`, or there is no other property. -/
  | closed (known : List (String × Constraint)) (patterns : List (Pattern × Constraint))
      (other : Option Constraint)
  | names (inner : Constraint)
  /-- The value as a whole, if it has the property. -/
  | given (name : String) (inner : Constraint)
  | item (index : Nat) (inner : Constraint)
  | itemsFrom (start : Nat) (inner : Constraint)
  | contains (inner : Constraint)
  | reference (target : String)

/-- What is wrong with a value, or with a schema that values are to be held against. -/
inductive Fault where
  | broken (a : Assertion) (value : Json)
  | refused (value : Json)
  | noBranch (value : Json)
  | noOneBranch (value : Json)
  | severalBranches (value : Json)
  | forbidden (schema value : Json)
  | noneContained (value : Json)
  | unexpectedProperties (names : List String)
  /-- A reference to nothing in a document. -/
  | unresolved (address : String)
  /-- A reference to a document that is not at hand. -/
  | unreached (document : Url)
  | noAddress (fault : AddressFault)
  /-- A reference whose escapes spell no text. -/
  | noText (flaw : Utf8.Flaw)
  /-- A schema of which no constraint can be made, with no better account of why. -/
  | unreadable
  /-- The search for a pattern was given up. -/
  | exhausted (exhaustion : Program.Exhaustion)
  /-- A reference that leads back to itself on one value. -/
  | endless (reference : String)

def unreachedReason (scheme : String) : String :=
  match scheme with
  | "http" | "https" =>
    "`resolve-http` feature or a custom resolver is required to resolve external schemas via HTTP"
  | "file" =>
    "`resolve-file` feature or a custom resolver is required to resolve external schemas via files"
  | "json-schema" => "cannot resolve relative external schema without root schema ID"
  | scheme => "unknown scheme " ++ scheme

def Fault.message : Fault → String
  | .broken a value => a.message value
  | .refused value => Assertion.falseSchemaMessage value
  | .noBranch value =>
    value.text ++ " is not valid under any of the schemas listed in the 'anyOf' keyword"
  | .noOneBranch value =>
    value.text ++ " is not valid under any of the schemas listed in the 'oneOf' keyword"
  | .severalBranches value =>
    value.text ++ " is valid under more than one of the schemas listed in the 'oneOf' keyword"
  | .forbidden schema value => schema.text ++ " is not allowed for " ++ value.text
  | .noneContained value => "None of " ++ value.text ++ " are valid under the given schema"
  | .unexpectedProperties names =>
    "Additional properties are not allowed (" ++
      Assertion.unexpected (names.map fun name => "'" ++ name ++ "'")
  | .unresolved address => "Invalid reference: " ++ address
  | .unreached document =>
    "failed to resolve " ++ document.text ++ ": " ++ unreachedReason (String.ofList document.scheme)
  | .noAddress fault => fault.message
  | .noText flaw => flaw.message
  | .unreadable => "Schema error"
  | .exhausted exhaustion => exhaustion.message
  | .endless reference => "Endless reference: " ++ reference

/-- What is wrong with a schema, and the path of keywords, names and numbers that leads to it, if a
place is told at all. -/
structure Defect where
  path : Option (List String)
  fault : Fault

/-- A fault and the path to it. The path leads from the value that was checked, or, if it is the
schema behind a reference that is at fault, from that schema, or there is none. -/
inductive Violation where
  | ofValue (path : List String) (fault : Fault)
  | ofTarget (defect : Defect)

namespace Violation

def here (fault : Fault) : Violation := .ofValue [] fault

def under (step : String) : Violation → Violation
  | .ofValue path fault => .ofValue (step :: path) fault
  | .ofTarget defect => .ofTarget defect

def fault : Violation → Fault
  | .ofValue _ fault => fault
  | .ofTarget defect => defect.fault

def path : Violation → List String
  | .ofValue path _ => path
  | .ofTarget defect => defect.path.getD []

def isEndless (violation : Violation) : Bool :=
  match violation.fault with
  | .endless _ => true
  | _ => false

def ofName (violation : Violation) : Violation := .here violation.fault

/-- A step of a path as a token of a JSON pointer. -/
def pointerToken (step : String) : List Char :=
  step.toList.flatMap fun c =>
    match c with
    | '~' => ['~', '0']
    | '/' => ['~', '1']
    | c => [c]

def pointer (path : List String) : String :=
  String.ofList (path.flatMap fun step => '/' :: pointerToken step)

def message (violation : Violation) : String := violation.fault.message

def text (violation : Violation) : String :=
  pointer violation.path ++ ": " ++ violation.message

end Violation

/-- What references mean: whether they accept a value, and what they find wrong with it. -/
structure References where
  accepts : String → Json → Bool
  violations : String → Json → List Violation

namespace Constraint

instance : Inhabited Constraint := ⟨.never⟩

def always : Constraint := .every []

def exactlyOne : List Bool → Bool
  | [] => false
  | true :: rest => !rest.any id
  | false :: rest => exactlyOne rest

mutual

def accepts (refs : String → Json → Bool) : Constraint → Json → Bool
  | .never, _ => false
  | .assertion a, value => a.holds value
  | .every parts, value => acceptsAll refs parts value
  | .anyOf branches, value => (acceptsEach refs branches value).any id
  | .oneOf branches, value => exactlyOne (acceptsEach refs branches value)
  | .negation _ inner, value => !accepts refs inner value
  | .choice test whenMet otherwise, value =>
    if accepts refs test value then accepts refs whenMet value else accepts refs otherwise value
  | .property name inner, value =>
    match value.field? name with
    | some part => accepts refs inner part
    | none => true
  | .matching pattern inner, value =>
    Assertion.onFields value fun fields => fields.all fun (name, part) =>
      !pattern.occursIn name || accepts refs inner part
  | .closed known patterns other, value =>
    Assertion.onFields value fun fields => fields.all fun (name, part) =>
      let matched := acceptsMatched refs patterns name part
      match acceptsKnown refs known name part with
      | some accepted => accepted && matched.all id
      | none =>
        if matched.isEmpty then acceptsOther refs other part else matched.all id
  | .names inner, value =>
    Assertion.onFields value fun fields => fields.all fun (name, _) =>
      accepts refs inner (.str name)
  | .given name inner, value =>
    match value.field? name with
    | some _ => accepts refs inner value
    | none => true
  | .item index inner, value =>
    Assertion.onItems value fun items =>
      match items[index]? with
      | some part => accepts refs inner part
      | none => true
  | .itemsFrom start inner, value =>
    Assertion.onItems value fun items => (items.drop start).all fun part => accepts refs inner part
  | .contains inner, value =>
    Assertion.onItems value fun items => items.any fun part => accepts refs inner part
  | .reference target, value => refs target value
termination_by structural constraint => constraint

def acceptsAll (refs : String → Json → Bool) : List Constraint → Json → Bool
  | [], _ => true
  | part :: rest, value => accepts refs part value && acceptsAll refs rest value

def acceptsEach (refs : String → Json → Bool) : List Constraint → Json → List Bool
  | [], _ => []
  | branch :: rest, value => accepts refs branch value :: acceptsEach refs rest value

def acceptsKnown (refs : String → Json → Bool) :
    List (String × Constraint) → String → Json → Option Bool
  | [], _, _ => none
  | (key, inner) :: rest, name, part =>
    if key = name then some (accepts refs inner part) else acceptsKnown refs rest name part

def acceptsMatched (refs : String → Json → Bool) :
    List (Pattern × Constraint) → String → Json → List Bool
  | [], _, _ => []
  | (pattern, inner) :: rest, name, part =>
    if pattern.occursIn name then
      accepts refs inner part :: acceptsMatched refs rest name part
    else acceptsMatched refs rest name part

def acceptsOther (refs : String → Json → Bool) : Option Constraint → Json → Bool
  | some inner, part => accepts refs inner part
  | none, _ => false

end

def located (step : String) (violations : List Violation) : List Violation :=
  violations.map (Violation.under step)

def violationsOfAssertion (a : Assertion) (value : Json) : List Violation :=
  match a, value with
  | .pattern source pattern, .str s =>
    match pattern.search s with
    | .ok true => []
    | .ok false => [.here (.broken (.pattern source pattern) value)]
    | .error exhaustion => [.here (.exhausted exhaustion)]
  | .base64OfJsonText, .str s =>
    match Assertion.base64Text? s with
    | none => [.here (.broken .base64 value)]
    | some (.error flaw) => [.ofTarget ⟨none, .noText flaw⟩]
    | some (.ok text) =>
      if Assertion.isJsonText text then [] else [.here (.broken .base64OfJsonText value)]
  | a, value => if a.holds value then [] else [.here (.broken a value)]

mutual

def violations (refs : References) : Constraint → Json → List Violation
  | .never, value => [.here (.refused value)]
  | .assertion a, value => violationsOfAssertion a value
  | .every parts, value => violationsOfAll refs parts value
  | .anyOf branches, value =>
    if accepts refs.accepts (.anyOf branches) value then [] else [.here (.noBranch value)]
  | .oneOf branches, value =>
    if accepts refs.accepts (.oneOf branches) value then []
    else if accepts refs.accepts (.anyOf branches) value then [.here (.severalBranches value)]
    else [.here (.noOneBranch value)]
  | .negation schema inner, value =>
    if accepts refs.accepts inner value then [.here (.forbidden schema value)] else []
  | .choice test whenMet otherwise, value =>
    if accepts refs.accepts test value then violations refs whenMet value
    else violations refs otherwise value
  | .property name inner, value =>
    match value.field? name with
    | some part => located name (violations refs inner part)
    | none => []
  | .matching pattern inner, value =>
    match value with
    | .obj fields => fields.flatMap fun (name, part) =>
      if pattern.occursIn name then located name (violations refs inner part) else []
    | _ => []
  | .closed known patterns other, value =>
    match value with
    | .obj fields =>
      let found := fields.flatMap fun (name, part) =>
        let matched := violationsOfMatched refs patterns name part
        match violationsOfKnown refs known name part with
        | some ofKnown => located name (ofKnown ++ matched.flatten)
        | none =>
          if matched.isEmpty then located name (violationsOfOther refs other part)
          else located name matched.flatten
      let extra := if other.isSome then [] else
        (fields.filter fun (name, _) =>
          !known.any (fun k => k.1 == name) && !patterns.any (fun p => p.1.occursIn name)).map (·.1)
      if extra.isEmpty then found else found ++ [.here (.unexpectedProperties extra)]
    | _ => []
  | .names inner, value =>
    match value with
    | .obj fields => fields.flatMap fun (name, _) =>
      (violations refs inner (.str name)).map Violation.ofName
    | _ => []
  | .given name inner, value =>
    match value.field? name with
    | some _ => violations refs inner value
    | none => []
  | .item index inner, value =>
    match value with
    | .arr items =>
      match items[index]? with
      | some part => located (toString index) (violations refs inner part)
      | none => []
    | _ => []
  | .itemsFrom start inner, value =>
    match value with
    | .arr items => (items.drop start).zipIdx.flatMap fun (part, i) =>
      located (toString (start + i)) (violations refs inner part)
    | _ => []
  | .contains inner, value =>
    if accepts refs.accepts (.contains inner) value then [] else [.here (.noneContained value)]
  | .reference target, value => refs.violations target value
termination_by structural constraint => constraint

def violationsOfAll (refs : References) : List Constraint → Json → List Violation
  | [], _ => []
  | part :: rest, value => violations refs part value ++ violationsOfAll refs rest value

def violationsOfKnown (refs : References) :
    List (String × Constraint) → String → Json → Option (List Violation)
  | [], _, _ => none
  | (key, inner) :: rest, name, part =>
    if key = name then some (violations refs inner part) else violationsOfKnown refs rest name part

def violationsOfMatched (refs : References) :
    List (Pattern × Constraint) → String → Json → List (List Violation)
  | [], _, _ => []
  | (pattern, inner) :: rest, name, part =>
    if pattern.occursIn name then
      violations refs inner part :: violationsOfMatched refs rest name part
    else violationsOfMatched refs rest name part

def violationsOfOther (refs : References) : Option Constraint → Json → List Violation
  | some inner, part => violations refs inner part
  | none, _ => []

end

end Constraint

end AccessRules
