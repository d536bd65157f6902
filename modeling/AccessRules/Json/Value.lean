import AccessRules.Json.Number

/-!
JSON values. An object is the list of its fields in the order they were first written, and is read
by its first field of a name; that no name comes twice is the predicate `DistinctKeys`, kept apart
from the type.
-/

namespace AccessRules

inductive Json where
  | null
  | bool (value : Bool)
  | num (value : Number)
  | str (value : String)
  | arr (items : List Json)
  | obj (fields : List (String × Json))

abbrev Fields := List (String × Json)

namespace Fields

def get? (fields : Fields) (name : String) : Option Json :=
  match fields with
  | [] => none
  | (key, value) :: rest => if key = name then some value else get? rest name

def has (fields : Fields) (name : String) : Bool :=
  (get? fields name).isSome

def names (fields : Fields) : List String :=
  fields.map (·.1)

/-- Gives a name a value: in place if the name is there, at the end if it is new. -/
def put (fields : Fields) (name : String) (value : Json) : Fields :=
  match fields with
  | [] => [(name, value)]
  | (key, old) :: rest =>
    if key = name then (key, value) :: rest else (key, old) :: put rest name value

end Fields

namespace Json

instance : Inhabited Json := ⟨.null⟩

def int (i : Int) : Json := .num (.integer i)

def field? (value : Json) (name : String) : Option Json :=
  match value with
  | .obj fields => Fields.get? fields name
  | _ => none

def kindName : Json → String
  | .null => "null"
  | .bool _ => "boolean"
  | .num _ => "number"
  | .str _ => "string"
  | .arr _ => "array"
  | .obj _ => "object"

mutual

/-- No object in the value has two fields of one name. -/
def DistinctKeys : Json → Prop
  | .arr items => DistinctKeysIn items
  | .obj fields => (fields.map (·.1)).Nodup ∧ DistinctKeysUnder fields
  | _ => True
termination_by structural value => value

def DistinctKeysIn : List Json → Prop
  | [] => True
  | item :: rest => DistinctKeys item ∧ DistinctKeysIn rest

def DistinctKeysUnder : List (String × Json) → Prop
  | [] => True
  | (_, value) :: rest => DistinctKeys value ∧ DistinctKeysUnder rest

end

mutual

/-- Equality of values as `enum` and `uniqueItems` see it: numbers by value, objects only with
their fields in the same order. -/
def same : Json → Json → Bool
  | .null, .null => true
  | .bool a, .bool b => a == b
  | .num a, .num b => a.same b
  | .str a, .str b => a == b
  | .arr a, .arr b => sameItems a b
  | .obj a, .obj b => sameFields a b
  | _, _ => false
termination_by structural value => value

def sameItems : List Json → List Json → Bool
  | [], [] => true
  | a :: as, b :: bs => same a b && sameItems as bs
  | _, _ => false

def sameFields : List (String × Json) → List (String × Json) → Bool
  | [], [] => true
  | (j, a) :: as, (k, b) :: bs => j == k && same a b && sameFields as bs
  | _, _ => false

end

end Json

end AccessRules
