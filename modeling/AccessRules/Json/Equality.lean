import AccessRules.Json.Value

/-!
Whether two JSON values are one and the same can be decided. This is stricter than what a schema
calls the same: `1` is not `1.0`.
-/

namespace AccessRules

namespace Json

mutual

/-- The values are one and the same, down to the order of fields. -/
def identical : Json → Json → Bool
  | .null, .null => true
  | .bool a, .bool b => a == b
  | .num a, .num b => a == b
  | .str a, .str b => a == b
  | .arr a, .arr b => identicalItems a b
  | .obj a, .obj b => identicalFields a b
  | _, _ => false
termination_by structural value => value

def identicalItems : List Json → List Json → Bool
  | [], [] => true
  | a :: as, b :: bs => identical a b && identicalItems as bs
  | _, _ => false

def identicalFields : List (String × Json) → List (String × Json) → Bool
  | [], [] => true
  | (j, a) :: as, (k, b) :: bs => j == k && identical a b && identicalFields as bs
  | _, _ => false

end

mutual

theorem identical_iff : ∀ a b : Json, identical a b = true ↔ a = b
  | .arr a, b => by cases b <;> simp [identical, identicalItems_iff]
  | .obj a, b => by cases b <;> simp [identical, identicalFields_iff]
  | .null, b => by cases b <;> simp [identical]
  | .bool _, b => by cases b <;> simp [identical]
  | .num _, b => by cases b <;> simp [identical]
  | .str _, b => by cases b <;> simp [identical]
termination_by structural value => value

theorem identicalItems_iff : ∀ as bs : List Json, identicalItems as bs = true ↔ as = bs
  | [], bs => by cases bs <;> simp [identicalItems]
  | a :: as, bs => by cases bs <;> simp [identicalItems, identical_iff a, identicalItems_iff as]

theorem identicalFields_iff :
    ∀ as bs : List (String × Json), identicalFields as bs = true ↔ as = bs
  | [], bs => by cases bs <;> simp [identicalFields]
  | (j, a) :: as, bs => by
    cases bs <;> simp [identicalFields, identical_iff a, identicalFields_iff as, Prod.ext_iff]

end

mutual

/-- The values are one and the same but for the order of fields. -/
def alike : Json → Json → Bool
  | .null, .null => true
  | .bool a, .bool b => a == b
  | .num a, .num b => a == b
  | .str a, .str b => a == b
  | .arr a, .arr b => alikeItems a b
  | .obj a, .obj b => a.length == b.length && alikeFields a b
  | _, _ => false
termination_by structural value => value

def alikeItems : List Json → List Json → Bool
  | [], [] => true
  | a :: as, b :: bs => alike a b && alikeItems as bs
  | _, _ => false

def alikeFields : List (String × Json) → List (String × Json) → Bool
  | [], _ => true
  | (name, a) :: rest, fields =>
    (match Fields.get? fields name with
      | some b => alike a b
      | none => false) && alikeFields rest fields

end

instance : DecidableEq Json := fun a b =>
  decidable_of_iff (identical a b = true) (identical_iff a b)

end Json

end AccessRules
