import AccessRules.Schema.Document

/-!
Every schema is held against the schema of schemas before it is used.
-/

namespace AccessRules

namespace MetaSchema

/-- The schema of schemas, ready for use; were it faulty, it would refuse every schema. -/
def document : SchemaDocument :=
  match SchemaDocument.ofJson json with
  | .ok document => document
  | .error _ => ⟨.never, []⟩

end MetaSchema

namespace SchemaDocument

/-- The document of a schema, or the message of the first fault: of the schema as a value that the
schema of schemas describes, and then of its keywords. -/
def compile (schema : Json) : Except String SchemaDocument :=
  match MetaSchema.document.violations schema with
  | violation :: _ => .error violation.message
  | [] =>
    match ofJson schema with
    | .ok document => .ok document
    | .error defect => .error defect.fault.message

end SchemaDocument

end AccessRules
