import AccessRules.Json.Equality
import AccessRules.Json.Reader
import AccessRules.Json.Writer
import AccessRules.Schema.Format
import AccessRules.Text.Base64

/-!
What a schema keyword says about one value without looking at other schemas. An assertion about one
kind of value holds of every value of another kind. Each has a message for the value that breaks it.
-/

namespace AccessRules

/-- The types a schema can name, in alphabetical order. A whole number is also an `integer`. -/
inductive ValueType where
  | array
  | boolean
  | integer
  | null
  | number
  | object
  | string
deriving DecidableEq

namespace ValueType

def all : List ValueType := [.array, .boolean, .integer, .null, .number, .object, .string]

def key : ValueType → String
  | .array => "array"
  | .boolean => "boolean"
  | .integer => "integer"
  | .null => "null"
  | .number => "number"
  | .object => "object"
  | .string => "string"

def ofKey? (text : String) : Option ValueType :=
  all.find? fun t => t.key == text

def holds : ValueType → Json → Bool
  | .array, .arr _ => true
  | .boolean, .bool _ => true
  | .integer, .num n => n.isWhole
  | .null, .null => true
  | .number, .num _ => true
  | .object, .obj _ => true
  | .string, .str _ => true
  | _, _ => false

end ValueType

inductive Assertion where
  | type (allowed : ValueType)
  | types (allowed : List ValueType)
  | options (values : List Json)
  | constant (value : Json)
  | minimum (limit : Number)
  | maximum (limit : Number)
  | exclusiveMinimum (limit : Number)
  | exclusiveMaximum (limit : Number)
  | multipleOf (divisor : Number)
  | minLength (count : Nat)
  | maxLength (count : Nat)
  | minItems (count : Nat)
  | maxItems (count : Nat)
  | minProperties (count : Nat)
  | maxProperties (count : Nat)
  | pattern (source : String) (pattern : Pattern)
  | format (format : Format)
  /-- A text is itself written in JSON. -/
  | jsonText
  | base64
  /-- A text is written in base 64 and stands for one that is written in JSON. -/
  | base64OfJsonText
  | uniqueItems
  | noItemsFrom (start : Nat)
  | required (name : String)
  | noNames
  | noValues

namespace Assertion

def unrelated (related : Json → Json → Bool) : List Json → Bool
  | [] => true
  | item :: rest => !rest.any (fun other => related item other) && unrelated related rest

/-- The most items that are compared by value. -/
def fewItems : Nat := 15

/-- No two items are the same. In a long list numbers of different kinds are never the same, and the
order of fields does not count. -/
def unique (items : List Json) : Bool :=
  if items.length ≤ fewItems then unrelated Json.same items else unrelated Json.alike items

/-- The value is whole and a multiple of a whole divisor. Nothing is a multiple of zero. -/
def isWholeMultiple (value divisor : Int × Nat) : Bool :=
  value.1 % value.2 == 0 && divisor.1 != 0 &&
    (value.1 * divisor.2) % (divisor.1 * value.2) == 0

def isDecimalMultiple (value divisor : Number) : Bool :=
  match value.toDouble?, divisor.toDouble? with
  | some x, some y =>
    let (n, d) := x.shortest.ratio
    let (n', d') := y.shortest.ratio
    (n * d') % (n' * d) == 0
  | _, _ => false

/-- Both numbers are rounded to doubles. For a divisor with a fraction, the rounded quotient is
negative, or what it exceeds a whole number by is less than `2 ^ -52`. -/
def isMultiple (value divisor : Number) : Bool :=
  let (n, d) := value.doubleRatio
  let (n', d') := divisor.doubleRatio
  if n' % d' = 0 then isWholeMultiple (n, d) (n', d')
  else
    let negative := decide (n < 0) != decide (n' < 0)
    match Binary64.ofRatio? negative (n.natAbs * d') (n'.natAbs * d) with
    | some quotient =>
      let (num, den) := quotient.magnitude
      negative || decide (num % den * Nat.pow 2 52 < den)
    | none => isDecimalMultiple value divisor

def isJsonText (text : String) : Bool :=
  (Json.ofText? text).isSome

/-- The text that another one stands for in base 64, which may be no text. -/
def base64Text? (text : String) : Option (Except Utf8.Flaw String) :=
  (Base64.decode? text.toList).map fun octets =>
    match Utf8.flaw? octets with
    | some flaw => .error flaw
    | none => .ok (String.ofList (Utf8.text octets))

/-- The difference of two numbers, all three rounded to doubles, is less than `2 ^ -52`. -/
def isNear (a b : Number) : Bool :=
  let (n, d) := a.doubleRatio
  let (n', d') := b.doubleRatio
  match Binary64.ofRatio? false (n * d' - n' * d).natAbs (d * d') with
  | some difference =>
    let (num, den) := difference.magnitude
    decide (num * Nat.pow 2 52 < den)
  | none => false

/-- A constant number is met by every number next to it, any other constant by its equals. -/
def meetsConstant (constant value : Json) : Bool :=
  match constant with
  | .num c =>
    match value with
    | .num n => isNear c n
    | _ => false
  | c => c.same value

def onNumber (value : Json) (test : Number → Bool) : Bool :=
  match value with
  | .num n => test n
  | _ => true

def onString (value : Json) (test : String → Bool) : Bool :=
  match value with
  | .str s => test s
  | _ => true

def onItems (value : Json) (test : List Json → Bool) : Bool :=
  match value with
  | .arr items => test items
  | _ => true

def onFields (value : Json) (test : Fields → Bool) : Bool :=
  match value with
  | .obj fields => test fields
  | _ => true

def holds (assertion : Assertion) (value : Json) : Bool :=
  match assertion with
  | .type allowed => allowed.holds value
  | .types allowed => allowed.any fun t => t.holds value
  | .options values => values.any fun option => option.same value
  | .constant c => meetsConstant c value
  | .minimum limit => onNumber value fun n => !n.lt limit
  | .maximum limit => onNumber value fun n => !limit.lt n
  | .exclusiveMinimum limit => onNumber value fun n => limit.lt n
  | .exclusiveMaximum limit => onNumber value fun n => n.lt limit
  | .multipleOf divisor => onNumber value fun n => isMultiple n divisor
  | .minLength count => onString value fun s => decide (count ≤ s.length)
  | .maxLength count => onString value fun s => decide (s.length ≤ count)
  | .minItems count => onItems value fun items => decide (count ≤ items.length)
  | .maxItems count => onItems value fun items => decide (items.length ≤ count)
  | .minProperties count => onFields value fun fields => decide (count ≤ fields.length)
  | .maxProperties count => onFields value fun fields => decide (fields.length ≤ count)
  | .pattern _ p => onString value fun s => p.occursIn s
  | .format f => onString value f.holds
  | .jsonText => onString value isJsonText
  | .base64 => onString value fun s => (Base64.decode? s.toList).isSome
  | .base64OfJsonText => onString value fun s =>
    match base64Text? s with
    | some (.ok text) => isJsonText text
    | _ => false
  | .uniqueItems => onItems value unique
  | .noItemsFrom start => onItems value fun items => decide (items.length ≤ start)
  | .required name => onFields value fun fields => fields.has name
  | .noNames => onFields value fun fields => fields.isEmpty
  | .noValues => onFields value fun fields => fields.isEmpty

def counted (count : Nat) (one many : String) : String :=
  toString count ++ " " ++ (if count = 1 then one else many)

def typeList (allowed : List ValueType) : String :=
  ", ".intercalate ((ValueType.all.filter (· ∈ allowed)).map fun t => Json.quoted t.key)

def divisorText (divisor : Number) : String :=
  match divisor with
  | .integer i => match Binary64.ofInt? i with
    | some x => x.positionalText
    | none => toString i
  | .double x => x.positionalText

def unexpected (texts : List String) : String :=
  ", ".intercalate texts ++ (if texts.length = 1 then " was" else " were") ++ " unexpected)"

def falseSchemaMessage (value : Json) : String :=
  "False schema does not allow " ++ value.text

def message (assertion : Assertion) (value : Json) : String :=
  match assertion with
  | .type allowed => value.text ++ " is not of type " ++ Json.quoted allowed.key
  | .types allowed => value.text ++ " is not of types " ++ typeList allowed
  | .options values => value.text ++ " is not one of " ++ (Json.arr values).text
  | .constant c => c.text ++ " was expected"
  | .minimum limit => value.text ++ " is less than the minimum of " ++ limit.text
  | .maximum limit => value.text ++ " is greater than the maximum of " ++ limit.text
  | .exclusiveMinimum limit =>
    value.text ++ " is less than or equal to the minimum of " ++ limit.text
  | .exclusiveMaximum limit =>
    value.text ++ " is greater than or equal to the maximum of " ++ limit.text
  | .multipleOf divisor => value.text ++ " is not a multiple of " ++ divisorText divisor
  | .minLength count => value.text ++ " is shorter than " ++ counted count "character" "characters"
  | .maxLength count => value.text ++ " is longer than " ++ counted count "character" "characters"
  | .minItems count => value.text ++ " has less than " ++ counted count "item" "items"
  | .maxItems count => value.text ++ " has more than " ++ counted count "item" "items"
  | .minProperties count =>
    value.text ++ " has less than " ++ counted count "property" "properties"
  | .maxProperties count =>
    value.text ++ " has more than " ++ counted count "property" "properties"
  | .pattern source _ => value.text ++ " does not match \"" ++ source ++ "\""
  | .format f => value.text ++ " is not a \"" ++ f.key ++ "\""
  | .jsonText | .base64OfJsonText =>
    value.text ++ " is not compliant with \"application/json\" media type"
  | .base64 => value.text ++ " is not compliant with \"base64\" content encoding"
  | .uniqueItems => value.text ++ " has non-unique elements"
  | .noItemsFrom start =>
    let extra := match value with
      | .arr items => (items.drop start).map Json.text
      | _ => []
    "Additional items are not allowed (" ++ unexpected extra
  | .required name => Json.quoted name ++ " is a required property"
  | .noNames => falseSchemaMessage value
  | .noValues =>
    match value with
    | .obj ((_, first) :: _) => falseSchemaMessage first
    | value => falseSchemaMessage value

end Assertion

end AccessRules
