import AccessRules.Json.Reader

/-!
Reading records, choices and lists out of a JSON text as it was written. A record is an object, in
which a name may not come twice and unknown names are passed over unread, or an array of its fields
in their order. A choice is its name, or an object with that one name and a null. A record can also
be read out of a value, which has no name twice to begin with.
-/

namespace AccessRules

namespace Source

def countName (name : String) (fields : List (String × Source)) : Nat :=
  fields.countP fun field => field.1 == name

def namedFields? : List (List StringUnit × Source) → Option (List (String × Source))
  | [] => some []
  | (units, source) :: rest => do
    let name ← StringUnit.decodeString units
    return (name, source) :: (← namedFields? rest)

def lookup (fields : List (String × Source)) (name : String) : Option Source :=
  (fields.find? fun field => field.1 == name).map (·.2)

/-- What is written for each field of a record, where it is written. -/
def record? (names : List String) (source : Source) : Option (List (Option Source)) :=
  match source with
  | .obj fields => do
    let fields ← namedFields? fields
    if names.all fun name => decide (countName name fields ≤ 1) then
      return names.map (lookup fields)
    else none
  | .arr items =>
    if items.length ≤ names.length then
      some ((List.range names.length).map fun i => items[i]?)
    else none
  | _ => none

def string? : Source → Option String
  | .str units => StringUnit.decodeString units
  | _ => none

def bool? : Source → Option Bool
  | .bool b => some b
  | _ => none

def choice? : Source → Option String
  | .str units => StringUnit.decodeString units
  | .obj [(units, .null)] => StringUnit.decodeString units
  | _ => none

def strings? : Source → Option (List String)
  | .arr items => items.mapM string?
  | _ => none

/-- A field that is read if it is there and has a value of its own if it is not. -/
def fieldOr {α : Type} (absent : Option α) (read : Source → Option α) : Option Source → Option α
  | some source => read source
  | none => absent

end Source

def Json.record? (names : List String) (value : Json) : Option (List (Option Json)) :=
  match value with
  | .obj fields => some (names.map (Fields.get? fields))
  | .arr items =>
    if items.length ≤ names.length then
      some ((List.range names.length).map fun i => items[i]?)
    else none
  | _ => none

end AccessRules
