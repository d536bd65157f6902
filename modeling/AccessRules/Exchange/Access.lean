import AccessRules.Calendar.Reader
import AccessRules.Engine.Registry
import AccessRules.Exchange.Record

/-!
The JSON forms of what goes into an engine and comes out of it, and how they are read back.
-/

namespace AccessRules

namespace Namespace

def toJson (ns : Namespace) : Json := .str ns.key

def ofSource? (source : Source) : Option Namespace :=
  source.choice?.bind ofKey?

end Namespace

namespace Classification

def toJson (classification : Classification) : Json := .str classification.key

def ofSource? (source : Source) : Option Classification :=
  source.choice?.bind ofKey?

end Classification

namespace Effect

def toJson (effect : Effect) : Json := .str effect.key

def ofSource? (source : Source) : Option Effect :=
  source.choice?.bind ofKey?

end Effect

namespace EngineOptions

def toJson (options : EngineOptions) : Json :=
  .obj [("classification", options.classification.toJson), ("audit", .bool options.audit)]

def ofSource? (source : Source) : Option EngineOptions := do
  match ← source.record? ["classification", "audit"] with
  | [classification, audit] =>
    return ⟨← Source.fieldOr (some standard.classification) Classification.ofSource? classification,
      ← Source.fieldOr (some standard.audit) Source.bool? audit⟩
  | _ => none

end EngineOptions

namespace Buckets

def toJson (buckets : Buckets) : Json :=
  .obj (Namespace.all.map fun ns => (ns.key, .arr ((buckets.get ns).map .str)))

def ofSource? (source : Source) : Option Buckets := do
  match ← source.record? (Namespace.all.map Namespace.key) with
  | [subject, object, environment] =>
    return ⟨← Source.fieldOr none Source.strings? subject,
      ← Source.fieldOr none Source.strings? object,
      ← Source.fieldOr none Source.strings? environment⟩
  | _ => none

end Buckets

namespace Request

def suppliedBy (source : Source) : Option (Option Json) :=
  match source with
  | .null => some none
  | source => (source.value? 1).map some

/-- Namespaces that are left out are not written. -/
def toJson (request : Request) : Json :=
  let field (name : String) (value : Option Json) : Fields :=
    match value with
    | some value => [(name, value)]
    | none => []
  .obj (field "subject" request.subject ++ field "object" request.object ++
    field "environment" request.environment)

def ofSource? (source : Source) : Option Request := do
  match ← source.record? ["subject", "object", "environment"] with
  | [subject, object, environment] =>
    return ⟨← Source.fieldOr (some none) suppliedBy subject,
      ← Source.fieldOr (some none) suppliedBy object,
      ← Source.fieldOr (some none) suppliedBy environment⟩
  | _ => none

/-- What a field of a value supplies; a null supplies nothing. -/
def supplied (field : Option Json) : Option Json :=
  match field with
  | some .null => none
  | field => field

def ofJson? (value : Json) : Option Request := do
  match ← value.record? ["subject", "object", "environment"] with
  | [subject, object, environment] =>
    return ⟨supplied subject, supplied object, supplied environment⟩
  | _ => none

end Request

namespace Timestamp

def toJson (t : Timestamp) : Json :=
  .obj [("timestamp", .str t.text)]

def ofSource? (source : Source) : Option Timestamp := do
  match ← source.record? ["timestamp"] with
  | [field] => Source.fieldOr none (fun source => source.string?.bind ofText?) field
  | _ => none

end Timestamp

end AccessRules
