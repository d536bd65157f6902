import AccessRules.Schema.Meta

/-!
The seam between rules and the checking of documents. A validator turns a schema into a checker or
refuses it, and a checker answers for a document, fails with a message, or crashes. The validator
that is used unless another is plugged in reads the schema as a JSON schema and gives a document the
defaults of its top-level properties before it checks it.
-/

namespace AccessRules

/-- What happens when a checker runs. A crash may carry a text. -/
inductive CheckResult where
  | verdict (valid : Bool) (errors : List String)
  | failure (message : String)
  | crash (text : Option String)
deriving DecidableEq

abbrev Checker := Json → CheckResult

structure Validator where
  compile : Json → Except String Checker

namespace SchemaDefaults

def ofProperties : Fields → Fields
  | [] => []
  | (name, schema) :: rest =>
    match schema.field? "default" with
    | some value => (name, value) :: ofProperties rest
    | none => ofProperties rest

def ofSchema (schema : Json) : Fields :=
  match schema.field? "properties" with
  | some (.obj properties) => ofProperties properties
  | _ => []

def fill (fields : Fields) : Fields → Fields
  | [] => fields
  | (name, value) :: rest =>
    if fields.has name then fill fields rest else fill (fields ++ [(name, value)]) rest

/-- Gives an object the defaults that it lacks; other values stay as they are. -/
def apply (defaults : Fields) (value : Json) : Json :=
  match value with
  | .obj fields => .obj (fill fields defaults)
  | value => value

end SchemaDefaults

namespace Validator

/-- The verdict of a schema on a document. There is none if a reference never comes to an end. -/
def verdictOf (document : SchemaDocument) (value : Json) : CheckResult :=
  let violations := document.violations value
  if violations.any Violation.isEndless then .crash none
  else .verdict violations.isEmpty (violations.map Violation.text)

def jsonSchema : Validator where
  compile schema :=
    match SchemaDocument.compile schema with
    | .ok document =>
      let defaults := SchemaDefaults.ofSchema schema
      .ok fun value => verdictOf document (SchemaDefaults.apply defaults value)
    | .error message => .error message

end Validator

def rejectedSchemaMessage (message : String) : String :=
  "schema rejected by validator: " ++ message

end AccessRules
