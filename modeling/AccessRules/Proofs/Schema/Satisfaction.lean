import Mathlib.Logic.ExistsUnique
import Mathlib.Tactic.MkIffOfInductiveProp
import AccessRules.Proofs.Json.Fields
import AccessRules.Rule.Lowering

/-!
What a schema asks of a value, read off its text. `Satisfies` gives every keyword its meaning in
draft 7, one clause a keyword, and takes a list under `not` to mean that no schema in it may hold.
Nothing is compiled on the way, and a value that is no schema asks for nothing.

A dialect settles what draft 7 leaves open, and where a validator departs from it. Draft 7 leaves
expressions to the standard of another language, and whether `format`, `contentMediaType` and
`contentEncoding` assert anything to the validator; it has a dialect for each way to settle them.
-/

namespace AccessRules

/-- How a validator reads the keywords that look at a value alone and the names under
`patternProperties`, and whether it refuses every value for `additionalItems` beside an `items` that
no value meets. -/
structure Dialect where
  holds : Assertion → Json → Bool
  occurs : (expression text : String) → Bool
  refusesItems : Bool

/-- What is settled outside of draft 7: whether a text has a match of an expression, and whether it
is as one of the other assertions about texts wants it. -/
structure Standards where
  occurs : (expression text : String) → Bool
  permits : Assertion → String → Bool

namespace Json

mutual

/-- Equality of values as draft 7 has it: numbers by value, fields in any order. -/
def equal : Json → Json → Bool
  | .null, .null => true
  | .bool a, .bool b => a == b
  | .num a, .num b => a.same b
  | .str a, .str b => a == b
  | .arr a, .arr b => equalItems a b
  | .obj a, .obj b => a.length == b.length && equalFields a b
  | _, _ => false
termination_by structural value => value

def equalItems : List Json → List Json → Bool
  | [], [] => true
  | a :: as, b :: bs => equal a b && equalItems as bs
  | _, _ => false

def equalFields : List (String × Json) → List (String × Json) → Bool
  | [], _ => true
  | (name, a) :: rest, fields =>
    (match Fields.get? fields name with
      | some b => equal a b
      | none => false) && equalFields rest fields

end

def number? : Json → Option Number
  | .num n => some n
  | _ => none

def count? : Json → Option Nat
  | .num (.integer i) => if 0 ≤ i then some i.toNat else none
  | _ => none

def text? : Json → Option String
  | .str s => some s
  | _ => none

end Json

namespace Dialect

def isMultiple (value divisor : Number) : Bool :=
  (value.ratio.1 * divisor.ratio.2) % (divisor.ratio.1 * value.ratio.2) == 0

/-- Equal values are equal whatever the order of their fields, numbers are compared exactly, and
`additionalItems` says nothing unless `items` is a list. -/
def draft7 (standards : Standards) : Dialect where
  holds a value :=
    match a with
    | .options values => values.any fun option => option.equal value
    | .constant c => c.equal value
    | .uniqueItems => Assertion.onItems value (Assertion.unrelated Json.equal)
    | .multipleOf divisor => Assertion.onNumber value fun n => isMultiple n divisor
    | .pattern expression _ => Assertion.onString value (standards.occurs expression)
    | .format _ | .jsonText | .base64 | .base64OfJsonText =>
      Assertion.onString value (standards.permits a)
    | a => a.holds value
  occurs := standards.occurs
  refusesItems := false

def validator : Dialect where
  holds := Assertion.holds
  occurs expression text :=
    (Pattern.ofText? expression).any fun pattern => pattern.occursIn text
  refusesItems := true

theorem validator_occurs {expression : String} {pattern : Pattern}
    (readable : Pattern.ofText? expression = some pattern) (text : String) :
    validator.occurs expression text = pattern.occursIn text := by
  simp [validator, readable]

end Dialect

def Assertion.keyword : Assertion → String
  | .type _ | .types _ => "type"
  | .options _ => "enum"
  | .constant _ => "const"
  | .minimum _ => "minimum"
  | .maximum _ => "maximum"
  | .exclusiveMinimum _ => "exclusiveMinimum"
  | .exclusiveMaximum _ => "exclusiveMaximum"
  | .multipleOf _ => "multipleOf"
  | .minLength _ => "minLength"
  | .maxLength _ => "maxLength"
  | .minItems _ => "minItems"
  | .maxItems _ => "maxItems"
  | .minProperties _ => "minProperties"
  | .maxProperties _ => "maxProperties"
  | .pattern _ _ => "pattern"
  | .format _ => "format"
  | .jsonText | .base64OfJsonText => "contentMediaType"
  | .base64 => "contentEncoding"
  | .required _ => "required"
  | .uniqueItems => "uniqueItems"
  | .noItemsFrom _ => "additionalItems"
  | .noNames => "propertyNames"
  | .noValues => "additionalProperties"

namespace Keyword

def typesNamed : Json → List ValueType
  | .str name => (ValueType.ofKey? name).toList
  | .arr names => names.filterMap fun name => name.text?.bind ValueType.ofKey?
  | _ => []

/-- What the contents of a text have to be. Of the kinds of contents only JSON is known, of the ways
to write it only base 64. -/
def contents (schema media : Json) : List Assertion :=
  match media.text?, schema.field? "contentEncoding" with
  | some "application/json", none => [.jsonText]
  | some "application/json", some (.str "base64") => [.base64OfJsonText]
  | _, _ => []

/-- How a text has to be written, where `contentMediaType` does not take care of it. -/
def encoding (schema name : Json) : List Assertion :=
  if schema.field? "contentMediaType" = none ∧ name = .str "base64" then [.base64] else []

def assertions (schema : Json) (keyword : String) (argument : Json) : List Assertion :=
  match keyword with
  | "type" => [.types (typesNamed argument)]
  | "enum" => [.options argument.items]
  | "const" => [.constant argument]
  | "minimum" => argument.number?.toList.map .minimum
  | "maximum" => argument.number?.toList.map .maximum
  | "exclusiveMinimum" => argument.number?.toList.map .exclusiveMinimum
  | "exclusiveMaximum" => argument.number?.toList.map .exclusiveMaximum
  | "multipleOf" => argument.number?.toList.map .multipleOf
  | "minLength" => argument.count?.toList.map .minLength
  | "maxLength" => argument.count?.toList.map .maxLength
  | "minItems" => argument.count?.toList.map .minItems
  | "maxItems" => argument.count?.toList.map .maxItems
  | "minProperties" => argument.count?.toList.map .minProperties
  | "maxProperties" => argument.count?.toList.map .maxProperties
  | "pattern" => argument.text?.toList.flatMap fun source =>
    (Pattern.ofShorthand? source).toList.map (.pattern source)
  | "format" => (argument.text?.bind Format.ofKey?).toList.map .format
  | "contentMediaType" => contents schema argument
  | "contentEncoding" => encoding schema argument
  | "uniqueItems" => if argument = .bool true then [.uniqueItems] else []
  | "required" => (argument.items.filterMap Json.text?).map .required
  | _ => []

theorem assertions_congr {schema other : Json}
    (encoding : schema.field? "contentEncoding" = other.field? "contentEncoding")
    (media : schema.field? "contentMediaType" = other.field? "contentMediaType")
    (keyword : String) (argument : Json) :
    assertions schema keyword argument = assertions other keyword argument := by
  simp only [assertions, contents, Keyword.encoding, encoding, media]

theorem keyword_of_mem {schema : Json} {keyword : String} {argument : Json} {a : Assertion}
    (listed : a ∈ assertions schema keyword argument) : a.keyword = keyword := by
  unfold assertions at listed
  split at listed
  case h_17 =>
    unfold contents at listed
    split at listed
    · cases List.mem_singleton.mp listed
      rfl
    · cases List.mem_singleton.mp listed
      rfl
    · cases listed
  case h_18 =>
    unfold Keyword.encoding at listed
    split at listed
    · cases List.mem_singleton.mp listed
      rfl
    · cases listed
  case h_19 =>
    split at listed
    · cases List.mem_singleton.mp listed
      rfl
    · cases listed
  case h_15 =>
    obtain ⟨_, _, inside⟩ := List.mem_flatMap.mp listed
    obtain ⟨_, _, rfl⟩ := List.mem_map.mp inside
    rfl
  case h_21 => cases listed
  all_goals first
    | cases List.mem_singleton.mp listed; rfl
    | obtain ⟨_, _, rfl⟩ := List.mem_map.mp listed; rfl

/-- The name is one of the `properties` of a schema, or one of its `patternProperties` matches
it. -/
def Declares (dialect : Dialect) (schema : Json) (name : String) : Prop :=
  (∃ s, schema.member? "properties" name = some s) ∨
  (∃ expression s, schema.member? "patternProperties" expression = some s ∧
    dialect.occurs expression name = true)

end Keyword

theorem sizeOf_listed_lt {schema : Json} {keyword : String} {ss : List Json} {s : Json}
    (found : schema.field? keyword = some (.arr ss)) (listed : s ∈ ss) :
    sizeOf s < sizeOf schema :=
  Nat.lt_trans (Json.sizeOf_item_lt listed) (Json.sizeOf_field_lt found)

theorem sizeOf_member?_lt {schema : Json} {keyword name : String} {s : Json}
    (found : schema.member? keyword name = some s) : sizeOf s < sizeOf schema := by
  obtain ⟨members, under, named⟩ := Option.bind_eq_some_iff.mp found
  exact Nat.lt_trans (Json.sizeOf_field_lt named) (Json.sizeOf_field_lt under)

/-- What a schema asks of a value, given what the schemas inside it say. -/
@[mk_iff]
structure Meets (dialect : Dialect) (schema value : Json)
    (holds : (s : Json) → sizeOf s < sizeOf schema → Json → Prop) : Prop where
  notFalse : schema ≠ .bool false
  asserted : ∀ keyword argument, schema.field? keyword = some argument →
    ∀ a ∈ Keyword.assertions schema keyword argument, dialect.holds a value = true
  -- schemas for the value itself
  allOf : ∀ ss (found : schema.field? "allOf" = some (.arr ss)) s (listed : s ∈ ss),
    holds s (sizeOf_listed_lt found listed) value
  anyOf : ∀ ss (found : schema.field? "anyOf" = some (.arr ss)),
    ∃ s, ∃ listed : s ∈ ss, holds s (sizeOf_listed_lt found listed) value
  oneOf : ∀ ss (found : schema.field? "oneOf" = some (.arr ss)),
    ∃! i : Fin ss.length, holds (ss.get i) (sizeOf_listed_lt found (List.get_mem ss i)) value
  noneOf : ∀ ss (found : schema.field? "not" = some (.arr ss)) s (listed : s ∈ ss),
    ¬ holds s (sizeOf_listed_lt found listed) value
  negated : ∀ s (found : schema.field? "not" = some s), (∀ ss, s ≠ .arr ss) →
    ¬ holds s (Json.sizeOf_field_lt found) value
  whenMet : ∀ test (asked : schema.field? "if" = some test)
    s (found : schema.field? "then" = some s),
    holds test (Json.sizeOf_field_lt asked) value → holds s (Json.sizeOf_field_lt found) value
  otherwise : ∀ test (asked : schema.field? "if" = some test)
    s (found : schema.field? "else" = some s),
    ¬ holds test (Json.sizeOf_field_lt asked) value → holds s (Json.sizeOf_field_lt found) value
  -- schemas for its properties
  properties : ∀ name s (found : schema.member? "properties" name = some s) part,
    value.field? name = some part → holds s (sizeOf_member?_lt found) part
  patternProperties : ∀ expression s
    (found : schema.member? "patternProperties" expression = some s) name part,
    value.field? name = some part → dialect.occurs expression name = true →
    holds s (sizeOf_member?_lt found) part
  additionalProperties : ∀ s (found : schema.field? "additionalProperties" = some s) name part,
    value.field? name = some part → ¬ Keyword.Declares dialect schema name →
    holds s (Json.sizeOf_field_lt found) part
  propertyNames : ∀ s (found : schema.field? "propertyNames" = some s) name part,
    value.field? name = some part → holds s (Json.sizeOf_field_lt found) (.str name)
  dependencies : ∀ name s (found : schema.member? "dependencies" name = some s) part,
    value.field? name = some part → holds s (sizeOf_member?_lt found) value
  dependentNames : ∀ name s, schema.member? "dependencies" name = some s →
    ∀ part, value.field? name = some part → ∀ names, s = .arr names →
    ∀ other, .str other ∈ names → ∃ part, value.field? other = some part
  -- schemas for its items
  items : ∀ s (found : schema.field? "items" = some s), ∀ part ∈ value.items,
    holds s (Json.sizeOf_field_lt found) part
  tuple : ∀ ss (found : schema.field? "items" = some (.arr ss)) (i : Nat) s
    (listed : ss[i]? = some s) part, value.items[i]? = some part →
    holds s (sizeOf_listed_lt found (List.mem_of_getElem? listed)) part
  additionalItems : ∀ ss, schema.field? "items" = some (.arr ss) →
    ∀ s (found : schema.field? "additionalItems" = some s), ∀ part ∈ value.items.drop ss.length,
    holds s (Json.sizeOf_field_lt found) part
  noAdditionalItems : ∀ s, schema.field? "additionalItems" = some s →
    schema.field? "items" = some (.bool false) → dialect.refusesItems = false
  contains : ∀ s (found : schema.field? "contains" = some s) items, value = .arr items →
    ∃ part ∈ items, holds s (Json.sizeOf_field_lt found) part

def Satisfies (dialect : Dialect) (schema value : Json) : Prop :=
  Meets dialect schema value fun s _ part => Satisfies dialect s part
termination_by sizeOf schema

theorem satisfies_iff (dialect : Dialect) (schema value : Json) :
    Satisfies dialect schema value ↔
      Meets dialect schema value fun s _ part => Satisfies dialect s part := by
  rw [Satisfies]

end AccessRules
