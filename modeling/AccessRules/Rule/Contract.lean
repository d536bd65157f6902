import AccessRules.Attribute.Namespace
import AccessRules.Json.Value

/-!
The contract of a rule: what every request document has to look like, with the rule's own schema
laid over it.
-/

namespace AccessRules

namespace Contract

def namespaceSchema : Json :=
  .obj [("type", .str "object"), ("default", .obj [])]

def base : Fields := [
  ("type", .str "object"),
  ("required", .arr (Namespace.all.map fun ns => .str ns.key)),
  ("properties", .obj (Namespace.all.map fun ns => (ns.key, namespaceSchema)))]

mutual

/-- Lays a value over another. Two objects are joined name by name; in any other case the value on
top is the one that stays. -/
def merge (under : Json) : Json → Json
  | .obj fields =>
    match under with
    | .obj below => .obj (mergeFields below fields)
    | _ => .obj fields
  | value => value
termination_by structural value => value

/-- Lays fields over others. Names that are there keep their place, new ones come at the end. -/
def mergeFields (below : Fields) : List (String × Json) → Fields
  | [] => below
  | (name, value) :: rest =>
    mergeFields
      (below.put name (match below.get? name with
        | some old => merge old value
        | none => value))
      rest

end

def extend (schema : Json) : Json :=
  merge (.obj base) schema

end Contract

end AccessRules
