import AccessRules.Schema.Constraint

/-!
From the text of a schema to its constraint, keyword by keyword in the order of the schema's keys. A
keyword may look at its siblings: `additionalProperties` takes over `properties` and
`patternProperties`, `additionalItems` looks at `items`, and `if` at `then` and `else`. Therefore
every value of a schema object is first put into a `Reading`, which offers it as data, as one
schema, as a list of schemas and as a map of schemas, and a keyword asks for what it needs.
-/

namespace AccessRules

abbrev Compiled := Except Defect Constraint

namespace Defect

def under (step : String) (defect : Defect) : Defect :=
  { defect with path := defect.path.map (step :: ·) }

def within {α : Type} (step : String) (result : Except Defect α) : Except Defect α :=
  result.mapError (under step)

end Defect

/-- A value that may stand for a schema. It is compiled when a keyword asks for it. -/
structure Subschema where
  value : Json
  compile : Unit → Compiled

/-- A value in a schema object, offered as data or a schema, as the schemas in an array, and as the
schemas in an object. -/
structure Reading extends Subschema where
  items : List Subschema
  members : List (String × Subschema)

abbrev Readings := List (String × Reading)

namespace Readings

def get? (readings : Readings) (keyword : String) : Option Reading :=
  match readings with
  | [] => none
  | (key, reading) :: rest => if key = keyword then some reading else get? rest keyword

def value? (readings : Readings) (keyword : String) : Option Json :=
  (get? readings keyword).map fun reading => reading.value

def has (readings : Readings) (keyword : String) : Bool :=
  (get? readings keyword).isSome

end Readings

namespace Reading

def refuse {α : Type} (assertion : Assertion) (value : Json) : Except Defect α :=
  .error ⟨some [], .broken assertion value⟩

def wrongType {α : Type} (value : Json) (types : List ValueType) : Except Defect α :=
  match types with
  | [t] => refuse (.type t) value
  | types => refuse (.types types) value

def unreadable {α : Type} : Except Defect α := .error ⟨none, .unreadable⟩

def number (r : Reading) : Except Defect Number :=
  match r.value with
  | .num n => .ok n
  | value => wrongType value [.number]

/-- A count is written as an integer; a whole double is refused. -/
def count (r : Reading) : Except Defect Nat :=
  match r.value with
  | .num (.integer i) =>
    if 0 ≤ i then .ok i.toNat else refuse (.minimum (.integer 0)) r.value
  | value => wrongType value [.integer]

def names : List Json → Except Defect (List String)
  | [] => .ok []
  | .str s :: rest => (names rest).map (s :: ·)
  | value :: _ => wrongType value [.string]

/-- The types that several names stand for. Of what is no name no place is told. -/
def typesNamed : List Json → Except Defect (List ValueType)
  | [] => .ok []
  | .str name :: rest =>
    match ValueType.ofKey? name with
    | some t => (typesNamed rest).map (t :: ·)
    | none => refuse (.options (ValueType.all.map fun t => .str t.key)) (.str name)
  | value :: _ => .error ⟨none, .broken (.type .string) value⟩

def each (r : Reading) : Except Defect (List Constraint) :=
  match r.value with
  | .arr _ => r.items.mapM fun s => s.compile ()
  | value => wrongType value [.array]

def eachMember (r : Reading) : Except Defect (List (String × Constraint)) :=
  match r.value with
  | .obj _ => r.members.mapM fun (name, s) => (s.compile ()).map fun c => (name, c)
  | value => wrongType value [.object]

/-- The expression that the name of a schema spells. One that cannot be read counts against the
schema. -/
def expressionOf (name : String) (s : Subschema) : Except Defect Pattern :=
  match Pattern.ofText? name with
  | some pattern => .ok pattern
  | none => Defect.within "patternProperties" (refuse (.format .regex) s.value)

/-- The schemas of an object by the pattern that each name spells. The pattern is read before its
schema, unless there is only one. -/
def eachPattern (r : Reading) : Except Defect (List (Pattern × Constraint)) :=
  match r.value with
  | .obj _ =>
    match r.members with
    | [(name, s)] => do
      let c ← s.compile ()
      return [(← expressionOf name s, c)]
    | members => members.mapM fun (name, s) => do
      let pattern ← expressionOf name s
      return (pattern, ← s.compile ())
  | value => wrongType value [.object]

end Reading

namespace Keyword

def assert (a : Assertion) : Compiled := .ok (.assertion a)

def silent : Compiled := .ok .always

def typeNamed (name : String) : Compiled :=
  match ValueType.ofKey? name with
  | some t => assert (.type t)
  | none => Reading.unreadable

def types (r : Reading) : Compiled :=
  match r.value with
  | .str name => typeNamed name
  | .arr [.str name] => typeNamed name
  | .arr [value] => Defect.within "type" (Reading.wrongType value [.string])
  | .arr items =>
    (Defect.within "type" (Reading.typesNamed items)).map fun ts => .assertion (.types ts)
  | value => Reading.wrongType value [.array, .string]

def options (r : Reading) : Compiled :=
  match r.value with
  | .arr values => assert (.options values)
  | value => Reading.wrongType value [.array]

def allRequired (items : List Json) : Compiled :=
  (Reading.names items).map fun names =>
    .every (names.map fun name => .assertion (.required name))

def required (r : Reading) : Compiled :=
  Defect.within "required" <|
    match r.value with
    | .arr items => allRequired items
    | value => Reading.wrongType value [.array]

def limit (assertion : Number → Assertion) (r : Reading) : Compiled :=
  r.number.map fun n => .assertion (assertion n)

def bound (keyword : String) (assertion : Nat → Assertion) (r : Reading) : Compiled :=
  (Defect.within keyword r.count).map fun n => .assertion (assertion n)

def pattern (r : Reading) : Compiled :=
  match r.value with
  | .str source =>
    match Pattern.ofShorthand? source with
    | some p => assert (.pattern source p)
    | none => Reading.refuse (.format .regex) (.str source)
  | value => Reading.wrongType value [.string]

def format (r : Reading) : Compiled :=
  match r.value with
  | .str name =>
    match Format.ofKey? name with
    | some format => assert (.format format)
    | none => silent
  | value => Reading.wrongType value [.string]

/-- What a text holds, and how it is written if the sibling `contentEncoding` says so. Of the kinds
of contents only JSON is known, and of the encodings only base 64. -/
def contentMediaType (siblings : Readings) (r : Reading) : Compiled :=
  match r.value with
  | .str "application/json" =>
    match siblings.value? "contentEncoding" with
    | none => assert .jsonText
    | some (.str "base64") => assert .base64OfJsonText
    | some (.str _) => silent
    | some value => Reading.wrongType value [.string]
  | .str _ => silent
  | value => Reading.wrongType value [.string]

def contentEncoding (siblings : Readings) (r : Reading) : Compiled :=
  if siblings.has "contentMediaType" then silent
  else
    match r.value with
    | .str "base64" => assert .base64
    | .str _ => silent
    | value => Reading.wrongType value [.string]

def uniqueItems (r : Reading) : Compiled :=
  match r.value with
  | .bool true => assert .uniqueItems
  | _ => silent

/-- The sibling `additionalProperties` restricts the properties and does their work. -/
def closesProperties (siblings : Readings) : Bool :=
  match siblings.get? "additionalProperties" with
  | some r =>
    match r.value with
    | .bool false => true
    | .obj _ => true
    | _ => false
  | none => false

def properties (siblings : Readings) (r : Reading) : Compiled :=
  if closesProperties siblings then silent
  else r.eachMember.map fun members =>
    .every (members.map fun (name, c) => .property name c)

def patternProperties (siblings : Readings) (r : Reading) : Compiled :=
  if closesProperties siblings then silent
  else r.eachPattern.map fun members =>
    .every (members.map fun (p, c) => .matching p c)

def siblingMembers (siblings : Readings) : Except Defect (List (String × Constraint)) :=
  match siblings.get? "properties" with
  | some r =>
    match r.value with
    | .obj _ => r.eachMember
    | _ => Reading.unreadable
  | none => .ok []

/-- The patterns beside the keyword at hand. Whatever is wrong with them, they cannot be read. -/
def siblingPatterns (siblings : Readings) : Except Defect (List (Pattern × Constraint)) :=
  match siblings.get? "patternProperties" with
  | some r =>
    match r.eachPattern with
    | .ok patterns => .ok patterns
    | .error _ => Reading.unreadable
  | none => .ok []

/-- The schema of the other properties is compiled before the known ones if there are patterns, and
after them if there are none. -/
def additionalProperties (siblings : Readings) (r : Reading) : Compiled := do
  let patterns ← siblingPatterns siblings
  match r.value with
  | .bool true => silent
  | .bool false =>
    if siblings.has "properties" || siblings.has "patternProperties" then
      return .closed (← siblingMembers siblings) patterns none
    else assert .noValues
  | _ =>
    if siblings.has "patternProperties" then
      let other ← r.compile ()
      return .closed (← siblingMembers siblings) patterns (some other)
    else
      let known ← siblingMembers siblings
      return .closed known patterns (some (← r.compile ()))

def propertyNames (r : Reading) : Compiled :=
  match r.value with
  | .bool false => assert .noNames
  | .obj _ => (r.compile ()).map .names
  | _ => silent

def items (r : Reading) : Compiled :=
  match r.value with
  | .arr _ => r.each.map fun cs => .every (cs.zipIdx.map fun (c, i) => .item i c)
  | .bool false | .obj _ => (r.compile ()).map (.itemsFrom 0)
  | _ => silent

/-- The items that a sibling list of `items` leaves over. Beside an `items` that no value meets, no
value is accepted at all. -/
def additionalItems (siblings : Readings) (r : Reading) : Compiled :=
  match siblings.value? "items" with
  | none | some (.obj _) | some (.bool true) => silent
  | some (.bool false) => .ok .never
  | some (.arr listed) =>
    match r.value with
    | .bool false => assert (.noItemsFrom listed.length)
    | .obj _ => (r.compile ()).map (.itemsFrom listed.length)
    | _ => silent
  | some _ => Reading.wrongType r.value [.array, .boolean, .object]

def dependency (name : String) (s : Subschema) : Compiled :=
  match s.value with
  | .arr items => (Defect.within "dependencies" (allRequired items)).map (.given name)
  | _ => (s.compile ()).map (.given name)

def dependencies (r : Reading) : Compiled :=
  match r.value with
  | .obj _ => (r.members.mapM fun (name, s) => dependency name s).map .every
  | value => Reading.wrongType value [.object]

def conditional (siblings : Readings) (r : Reading) : Compiled :=
  match siblings.get? "then", siblings.get? "else" with
  | none, none => silent
  | whenMet, otherwise => do
    let test ← r.compile ()
    let whenMet ← match whenMet with
      | some r => r.compile ()
      | none => silent
    let otherwise ← match otherwise with
      | some r => r.compile ()
      | none => silent
    return .choice test whenMet otherwise

def negation (r : Reading) : Compiled :=
  (r.compile ()).map (.negation r.value)

/-- The constraint of one keyword. Unknown keywords say nothing. -/
def compile (siblings : Readings) (keyword : String) (r : Reading) : Compiled :=
  match keyword with
  | "type" => types r
  | "enum" => options r
  | "const" => assert (.constant r.value)
  | "minimum" => limit .minimum r
  | "maximum" => limit .maximum r
  | "exclusiveMinimum" => limit .exclusiveMinimum r
  | "exclusiveMaximum" => limit .exclusiveMaximum r
  | "multipleOf" => limit .multipleOf r
  | "minLength" => bound keyword .minLength r
  | "maxLength" => bound keyword .maxLength r
  | "minItems" => bound keyword .minItems r
  | "maxItems" => bound keyword .maxItems r
  | "minProperties" => bound keyword .minProperties r
  | "maxProperties" => bound keyword .maxProperties r
  | "pattern" => pattern r
  | "format" => format r
  | "contentMediaType" => contentMediaType siblings r
  | "contentEncoding" => contentEncoding siblings r
  | "uniqueItems" => uniqueItems r
  | "required" => required r
  | "properties" => properties siblings r
  | "patternProperties" => patternProperties siblings r
  | "additionalProperties" => additionalProperties siblings r
  | "propertyNames" => propertyNames r
  | "items" => items r
  | "additionalItems" => additionalItems siblings r
  | "contains" => (r.compile ()).map .contains
  | "dependencies" => dependencies r
  | "allOf" => r.each.map .every
  | "anyOf" => r.each.map .anyOf
  | "oneOf" => r.each.map .oneOf
  | "not" => negation r
  | "if" => conditional siblings r
  | _ => silent

end Keyword

namespace Readings

/-- The constraint of a schema object: that of its reference alone, if it has one, and else those
of its keywords, in order. References are read as addresses from the one of the document on. -/
def compile (base : Url) (readings : Readings) : Compiled :=
  match readings.get? "$ref" with
  | some r =>
    match r.value with
    | .str target =>
      match Url.ofText? (some base) target with
      | .ok url => .ok (.reference url.text)
      | .error fault => .error ⟨none, .noAddress fault⟩
    | value => Reading.wrongType value [.string]
  | none =>
    (readings.mapM fun (keyword, r) => Keyword.compile readings keyword r).map .every

end Readings

namespace Constraint

mutual

def ofJson (base : Url) : Json → Compiled
  | .bool true => .ok always
  | .bool false => .ok never
  | .obj fields => (readingsOf base fields).compile base
  | value => Reading.wrongType value [.boolean, .object]
termination_by structural value => value

def readingsOf (base : Url) : List (String × Json) → Readings
  | [] => []
  | (key, value) :: rest =>
    (key, {
      value := value
      compile := fun _ => Defect.within key (ofJson base value)
      items := match value with
        | .arr items => subschemas base key 0 items
        | _ => []
      members := match value with
        | .obj fields => namedSubschemas base key fields
        | _ => [] }) :: readingsOf base rest

def subschemas (base : Url) (key : String) (index : Nat) : List Json → List Subschema
  | [] => []
  | value :: rest =>
    ⟨value, fun _ => Defect.within key (Defect.within (toString index) (ofJson base value))⟩ ::
      subschemas base key (index + 1) rest

def namedSubschemas (base : Url) (key : String) :
    List (String × Json) → List (String × Subschema)
  | [] => []
  | (name, value) :: rest =>
    (name, ⟨value, fun _ => Defect.within key (Defect.within name (ofJson base value))⟩) ::
      namedSubschemas base key rest

end

end Constraint

end AccessRules
