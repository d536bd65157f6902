import AccessRules.Json.Value

/-!
The shape of a rule schema: which properties nest in which, and which are constrained through a
combinator. Reading a shape never fails. The first of `properties`, `anyOf`, `allOf`, `oneOf` and
`not` with a usable value decides, and anything else is a leaf.
-/

namespace AccessRules

inductive Shape where
  | leaf
  | properties (children : List (String × Shape))
  | anyOf (branches : List Shape)
  | allOf (branches : List Shape)
  | oneOf (branches : List Shape)
  | negation (branches : List Shape)

namespace Shape

instance : Inhabited Shape := ⟨.leaf⟩

def isLeaf : Shape → Bool
  | .leaf => true
  | _ => false

def branches? : Shape → Option (List Shape)
  | .anyOf branches | .allOf branches | .oneOf branches | .negation branches => some branches
  | .leaf | .properties _ => none

mutual

def ofJson : Json → Shape
  | .obj fields =>
    match propertiesIn fields with
    | some children => .properties children
    | none =>
      match branchesIn "anyOf" fields with
      | some branches => .anyOf branches
      | none =>
        match branchesIn "allOf" fields with
        | some branches => .allOf branches
        | none =>
          match branchesIn "oneOf" fields with
          | some branches => .oneOf branches
          | none =>
            match negationIn fields with
            | some branches => .negation branches
            | none => .leaf
  | _ => .leaf
termination_by structural value => value

def propertiesIn : List (String × Json) → Option (List (String × Shape))
  | [] => none
  | (key, value) :: rest =>
    if key = "properties" then
      match value with
      | .obj children => some (ofFields children)
      | _ => none
    else propertiesIn rest

def branchesIn (keyword : String) : List (String × Json) → Option (List Shape)
  | [] => none
  | (key, value) :: rest =>
    if key = keyword then
      match value with
      | .arr items => some (ofItems items)
      | _ => none
    else branchesIn keyword rest

/-- The branches of a `not` that is an array, or the one branch of a `not` that is an object. -/
def negationIn : List (String × Json) → Option (List Shape)
  | [] => none
  | (key, value) :: rest =>
    if key = "not" then
      match value with
      | .arr items => some (ofItems items)
      | .obj fields => some [ofJson (.obj fields)]
      | _ => none
    else negationIn rest

def ofItems : List Json → List Shape
  | [] => []
  | item :: rest => ofJson item :: ofItems rest

def ofFields : List (String × Json) → List (String × Shape)
  | [] => []
  | (name, value) :: rest => (name, ofJson value) :: ofFields rest

end

end Shape

end AccessRules
