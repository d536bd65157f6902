import AccessRules.Json.Value

/-!
A rule may give `not` a list of schemas, of which none may hold. Lowering writes such a list as the
one schema that holds when any of them does. It is done wherever a schema can stand; data that only
looks like a schema, under `enum`, `const`, `default` or a keyword that is not known, stays as it
is.
-/

namespace AccessRules

/-- Where schemas stand in the value of a keyword. -/
inductive SchemaPlace where
  /-- The value of `not`: one schema, or a list of which none may hold. -/
  | negated
  /-- The value is one schema, or a list of them. -/
  | oneOrMany
  /-- The items of an array. -/
  | listed
  | single
  /-- The values of an object. -/
  | named
  | nowhere
deriving DecidableEq

namespace SchemaPlace

def ofKeyword (keyword : String) : SchemaPlace :=
  if keyword = "not" then .negated
  else if keyword = "items" then .oneOrMany
  else if keyword ∈ ["anyOf", "allOf", "oneOf", "prefixItems"] then .listed
  else if keyword ∈ ["additionalItems", "additionalProperties", "contains", "propertyNames", "if",
      "then", "else", "unevaluatedItems", "unevaluatedProperties"] then .single
  else if keyword ∈ ["properties", "patternProperties", "definitions", "$defs", "dependencies",
      "dependentSchemas"] then .named
  else .nowhere

end SchemaPlace

namespace Lowering

mutual

/-- The schema with every list under `not` written as one schema. -/
def lower : Json → Json
  | .obj fields => .obj (lowerFields fields)
  | value => value
termination_by structural value => value

def lowerFields : List (String × Json) → List (String × Json)
  | [] => []
  | (keyword, value) :: rest =>
    (keyword,
      match SchemaPlace.ofKeyword keyword with
      | .negated =>
        match value with
        | .arr branches => .obj [("anyOf", .arr (lowerItems branches))]
        | value => lower value
      | .oneOrMany =>
        match value with
        | .arr items => .arr (lowerItems items)
        | value => lower value
      | .listed =>
        match value with
        | .arr items => .arr (lowerItems items)
        | value => value
      | .single => lower value
      | .named =>
        match value with
        | .obj members => .obj (lowerMembers members)
        | value => value
      | .nowhere => value) :: lowerFields rest

def lowerItems : List Json → List Json
  | [] => []
  | item :: rest => lower item :: lowerItems rest

def lowerMembers : List (String × Json) → List (String × Json)
  | [] => []
  | (name, schema) :: rest => (name, lower schema) :: lowerMembers rest

end

end Lowering

end AccessRules
