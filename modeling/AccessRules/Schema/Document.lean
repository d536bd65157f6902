import AccessRules.Schema.Keyword
import AccessRules.Schema.MetaSchema

/-!
A schema document: its constraint and a table of what its references mean. A reference is looked up
when a value reaches it. The number of references that can be followed on one value before a
property or an item is entered is bounded by the number of different references. Each value
therefore has a budget of that size, and its parts have budgets of their own: what a reference says
of a value does not depend on what the value is a part of.

A value on which the budget runs out is one on which a reference leads back to itself, and no answer
is ever found. What is found here is a fault of its own, and a checker that meets it gives no
verdict. Inside a branch, a test or a negation such a reference counts as not met; an answer that
rests on this means nothing.

Schemas are those of draft 7 without an address of their own. The keywords `$schema` and `$id` are
held against the schema of schemas and not used: a schema whose root names another draft would have
to be read in that draft, and one with an address could refer to itself by it, or would be refused
if the address is relative.
-/

namespace AccessRules

namespace Json

mutual

/-- How many arrays and objects lie around the innermost value. -/
def depth : Json → Nat
  | .arr items => depthOfItems items + 1
  | .obj fields => depthOfFields fields + 1
  | _ => 0
termination_by structural value => value

def depthOfItems : List Json → Nat
  | [] => 0
  | item :: rest => max (depth item) (depthOfItems rest)

def depthOfFields : List (String × Json) → Nat
  | [] => 0
  | (_, value) :: rest => max (depth value) (depthOfFields rest)

end

mutual

def references : Json → List String
  | .arr items => referencesOfItems items
  | .obj fields => referencesOfFields fields
  | _ => []
termination_by structural value => value

def referencesOfItems : List Json → List String
  | [] => []
  | item :: rest => references item ++ referencesOfItems rest

def referencesOfFields : List (String × Json) → List String
  | [] => []
  | (key, value) :: rest =>
    (match key, value with
      | "$ref", .str target => target :: referencesOfFields rest
      | _, value => references value ++ referencesOfFields rest)

end

end Json

/-- What a reference leads to: a constraint, or what is wrong with it for every value that reaches
it. -/
abbrev Target := Compiled

abbrev Library := List (String × Json)

namespace Library

def ofDocument (document : Json) : Library :=
  [(Url.unnamed.text, document), (MetaSchema.documentAddress, MetaSchema.json)]

def get? (library : Library) (url : Url) : Option Json :=
  (library.find? fun entry => entry.1 == url.document.text).map (·.2)

end Library

namespace Target

/-- What an address leads to: the document without the fragment, and in it the part that the
fragment points to. -/
def ofUrl (library : Library) (url : Url) : Target :=
  match Pointer.decodedFragment (String.ofList (url.fragment.getD [])) with
  | .error flaw => .error ⟨none, .noText flaw⟩
  | .ok pointer =>
    match library.get? url with
    | none => .error ⟨none, .unreached url.document⟩
    | some document =>
      match (Pointer.tokens? pointer).bind (Pointer.follow? document) with
      | none => .error ⟨none, .unresolved url.text⟩
      | some schema => Constraint.ofJson url.document schema

def addresses (base : Url) (document : Json) : List Url :=
  document.references.filterMap fun reference => (Url.ofText? (some base) reference).toOption

/-- The addresses of the references in a document and, if one of them leads there, of those in the
schema of schemas. -/
def allAddresses (document : Json) : List Url :=
  let urls := addresses Url.unnamed document
  match urls.find? fun url => url.document.text == MetaSchema.documentAddress with
  | some url => urls ++ addresses url.document MetaSchema.json
  | none => urls

def table (document : Json) : List (String × Target) :=
  let urls := (allAddresses document).map fun url => (url.text, url)
  (urls.eraseDupsBy fun a b => a.1 == b.1).map fun (address, url) =>
    (address, ofUrl (Library.ofDocument document) url)

end Target

/-- A constraint with the targets of all references in its document. -/
structure SchemaDocument where
  root : Constraint
  targets : List (String × Target)

namespace SchemaDocument

def target? (targets : List (String × Target)) (reference : String) : Option Target :=
  match targets with
  | [] => none
  | (address, target) :: rest =>
    if address = reference then some target else target? rest reference

/-- What references mean when one is followed on a value of some depth: `onParts` on what lies
deeper, and `onValue` on the value itself. -/
def splitAt (depth : Nat) (onValue onParts : References) : References where
  accepts reference value :=
    if value.depth < depth then onParts.accepts reference value
    else onValue.accepts reference value
  violations reference value :=
    if value.depth < depth then onParts.violations reference value
    else onValue.violations reference value

/-- References of which there were too many on one value, so that one of them came twice. -/
def exhausted : References where
  accepts _ _ := false
  violations reference _ := [.ofTarget ⟨none, .endless reference⟩]

/-- What references mean when at most `budget` of them are followed on one value, one inside the
other. On the parts of the value they mean `onParts`. -/
def following (targets : List (String × Target)) (onParts : References) : Nat → References
  | 0 => exhausted
  | budget + 1 =>
    let onValue := following targets onParts budget
    { accepts := fun reference value =>
        match target? targets reference with
        | some (.ok c) => c.accepts (splitAt value.depth onValue onParts).accepts value
        | _ => false
      violations := fun reference value =>
        match target? targets reference with
        | some (.ok c) => c.violations (splitAt value.depth onValue onParts) value
        | some (.error defect) => [.ofTarget defect]
        | none => [.ofTarget ⟨none, .unresolved reference⟩] }

def meaning (targets : List (String × Target)) : Nat → References
  | 0 => exhausted
  | depth + 1 => following targets (meaning targets depth) (targets.length + 1)

def referencesOn (document : SchemaDocument) (value : Json) : References :=
  meaning document.targets (value.depth + 1)

def accepts (document : SchemaDocument) (value : Json) : Bool :=
  document.root.accepts (document.referencesOn value).accepts value

def violations (document : SchemaDocument) (value : Json) : List Violation :=
  document.root.violations (document.referencesOn value) value

def ofJson (schema : Json) : Except Defect SchemaDocument :=
  (Constraint.ofJson Url.unnamed schema).map fun root => ⟨root, Target.table schema⟩

end SchemaDocument

end AccessRules
