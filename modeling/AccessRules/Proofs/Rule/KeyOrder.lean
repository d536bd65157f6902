import AccessRules.Proofs.Attribute.KeyOrder
import AccessRules.Proofs.Json.Sorting
import AccessRules.Proofs.Rule.Checking
import AccessRules.Proofs.Rule.Contract
import AccessRules.Proofs.Rule.Defaults
import AccessRules.Proofs.Schema.KeyOrder
import AccessRules.Proofs.Schema.Recompilation

/-!
What becomes of schemas and requests that differ only in the order of fields. Merging, lowering and
filling in keep the order in which fields come, and give back values that again differ only in it.
Therefore a validator that does not care for the order leads to rules that do not either.
-/

namespace AccessRules

namespace Contract

theorem laid_related {below otherBelow value otherValue : Option Json}
    (olds : Option.Rel Reordered below otherBelow) (values : Option.Rel Reordered value otherValue)
    (merged : ∀ old otherOld new otherNew, below = some old → otherBelow = some otherOld →
      value = some new → otherValue = some otherNew →
      Reordered (merge old new) (merge otherOld otherNew)) :
    Option.Rel Reordered (laid below value) (laid otherBelow otherValue) := by
  cases values with
  | none => exact olds
  | some same =>
    cases olds with
    | none => exact .some same
    | some old => exact .some (merged _ _ _ _ rfl rfl rfl rfl)

theorem merge_reordered {value other : Json} (same : Reordered value other)
    {below otherBelow : Json} (olds : Reordered below otherBelow)
    (uniqueBelow : below.DistinctKeys) (unique : value.DistinctKeys) :
    Reordered (merge below value) (merge otherBelow other) := by
  induction same generalizing below otherBelow with
  | null => exact .null
  | bool value => exact .bool value
  | num value => exact .num value
  | str value => exact .str value
  | arr length each _ => exact .arr length each
  | @obj fields others names each ih =>
    cases olds with
    | @obj belowFields otherFields belowNames belowEach =>
      have sameFields : Reordered (.obj fields) (.obj others) := .obj names each
      have sameBelow : Reordered (.obj belowFields) (.obj otherFields) := .obj belowNames belowEach
      have uniqueOthers := sameFields.distinctKeys unique
      have merged := distinctKeys_merge uniqueBelow unique
      have otherMerged := distinctKeys_merge (sameBelow.distinctKeys uniqueBelow) uniqueOthers
      rw [merge_obj] at merged otherMerged ⊢
      rw [merge_obj]
      refine .of_get? merged.names otherMerged.names fun name => ?_
      rw [get?_mergeFields unique.names, get?_mergeFields uniqueOthers.names]
      refine laid_related (sameBelow.get? name) (sameFields.get? name) ?_
      intro old otherOld new otherNew belowFound otherBelowFound found otherFound
      have sameOld := sameBelow.get? name
      rw [belowFound, otherBelowFound] at sameOld
      exact ih name new otherNew found otherFound (Option.rel_some_some.mp sameOld)
        (uniqueBelow.member (Fields.mem_of_get? belowFound))
        (unique.member (Fields.mem_of_get? found))
    | _ => exact .obj names each

theorem extend_reordered {schema other : Json} (same : Reordered schema other)
    (unique : schema.DistinctKeys) : Reordered (extend schema) (extend other) :=
  merge_reordered same (.refl _) distinctKeys_base unique

end Contract

namespace Lowering

theorem lower_reordered {value other : Json} (same : Reordered value other) :
    Reordered (lower value) (lower other) ∧
      ∀ place, Reordered (lowerAt place value) (lowerAt place other) := by
  induction same with
  | null => exact ⟨.null, fun place => by cases place <;> exact .null⟩
  | bool value => exact ⟨.bool value, fun place => by cases place <;> exact .bool value⟩
  | num value => exact ⟨.num value, fun place => by cases place <;> exact .num value⟩
  | str value => exact ⟨.str value, fun place => by cases place <;> exact .str value⟩
  | @arr items others length each ih =>
    have asList : Reordered (.arr items) (.arr others) := .arr length each
    have lowered : Reordered (.arr (items.map lower)) (.arr (others.map lower)) :=
      .map_items lower length fun i item other here there => (ih i item other here there).1
    have negated : Reordered (.obj [("anyOf", .arr (items.map lower))])
        (.obj [("anyOf", .arr (others.map lower))]) := lowered.oneField "anyOf"
    refine ⟨asList, fun place => ?_⟩
    cases place with
    | negated => exact negated
    | oneOrMany | listed => exact lowered
    | single | named | nowhere => exact asList
  | @obj fields others names each ih =>
    have asData : Reordered (.obj fields) (.obj others) := .obj names each
    have lowered : Reordered (lower (.obj fields)) (lower (.obj others)) := by
      rw [lower, lower, lowerFields_eq_map, lowerFields_eq_map]
      exact .map_fields lowerValue names fun name value other here there =>
        (ih name value other here there).2 _
    have members : Reordered (.obj (fields.map fun m => (m.1, lower m.2)))
        (.obj (others.map fun m => (m.1, lower m.2))) :=
      .map_fields (fun _ => lower) names fun name value other here there =>
        (ih name value other here there).1
    refine ⟨lowered, fun place => ?_⟩
    cases place with
    | negated | oneOrMany | single => exact lowered
    | named => exact members
    | listed | nowhere => exact asData

end Lowering

namespace SchemaDefaults

theorem get?_ofSchema {schema : Json} (unique : schema.DistinctKeys) (name : String) :
    (ofSchema schema).get? name =
      (schema.member? "properties" name).bind fun property => property.field? "default" := by
  rw [ofSchema, Json.member?]
  cases found : schema.field? "properties" with
  | none => rfl
  | some argument =>
    cases argument with
    | obj properties => exact get?_ofProperties (unique.field found).names name
    | _ => rfl

theorem get?_ofSchema_related {schema other : Json} (same : Reordered schema other)
    (unique : schema.DistinctKeys) (name : String) :
    Option.Rel Reordered ((ofSchema schema).get? name) ((ofSchema other).get? name) := by
  have properties := same.member? "properties" name
  rw [get?_ofSchema unique, get?_ofSchema (same.distinctKeys unique)]
  generalize schema.member? "properties" name = here,
    other.member? "properties" name = there at properties
  cases properties with
  | none => exact .none
  | some property => exact property.field? "default"

theorem apply_reordered {schema other value otherValue : Json} (same : Reordered schema other)
    (unique : schema.DistinctKeys) (sameValue : Reordered value otherValue)
    (distinct : value.DistinctKeys) :
    Reordered (apply (ofSchema schema) value) (apply (ofSchema other) otherValue) := by
  have filled := distinctKeys_apply unique distinct
  have otherFilled :=
    distinctKeys_apply (same.distinctKeys unique) (sameValue.distinctKeys distinct)
  cases sameValue with
  | @obj fields otherFields names each =>
    have present : Reordered (.obj fields) (.obj otherFields) := .obj names each
    refine .of_get? filled.names otherFilled.names fun name => ?_
    rw [get?_fill, get?_fill]
    exact or_related (present.get? name) (get?_ofSchema_related same unique name)
  | null => exact .null
  | bool value => exact .bool value
  | num value => exact .num value
  | str value => exact .str value
  | arr length each => exact .arr length each

end SchemaDefaults

namespace Request

def Reordered (request other : Request) : Prop :=
  ∀ ns, Option.Rel AccessRules.Reordered (request.get ns) (other.get ns)

variable {request other : Request}

theorem names_fieldsFor (same : request.Reordered other) (all : List Namespace) :
    (request.fieldsFor all).map (·.1) = (other.fieldsFor all).map (·.1) := by
  induction all with
  | nil => rfl
  | cons ns rest ih =>
    have supplied := same ns
    rw [fieldsFor, fieldsFor]
    generalize request.get ns = here, other.get ns = there at supplied
    cases supplied with
    | none => exact ih
    | some value => exact congrArg (ns.key :: ·) ih

theorem document_reordered (same : request.Reordered other) :
    AccessRules.Reordered request.document other.document := by
  refine .obj (.of_eq (names_fieldsFor same _)) fun name value otherValue here there => ?_
  have found : request.document.field? name = some value := here
  have otherFound : other.document.field? name = some otherValue := there
  by_cases reserved : ∃ ns : Namespace, ns.key = name
  · obtain ⟨ns, rfl⟩ := reserved
    have supplied := same ns
    rw [← field?_document, ← field?_document, found, otherFound] at supplied
    exact Option.rel_some_some.mp supplied
  · rw [field?_document_other request (by simpa using reserved)] at found
    cases found

end Request

namespace Validator

def withDefaults (backend : Validator) : Validator where
  compile schema :=
    match backend.compile schema with
    | .ok checker =>
      .ok fun value => checker (SchemaDefaults.apply (SchemaDefaults.ofSchema schema) value)
    | .error message => .error message

def schemaDocuments : Validator where
  compile schema := (SchemaDocument.compile schema).map verdictOf

theorem jsonSchema_eq : jsonSchema = withDefaults schemaDocuments := by
  refine congrArg mk (funext fun schema => ?_)
  simp only [schemaDocuments]
  cases SchemaDocument.compile schema <;> rfl

variable {backend : Validator} {schema : Json}

theorem withDefaults_eq_ok_iff (checker : Checker) :
    backend.withDefaults.compile schema = .ok checker ↔ ∃ bare,
      backend.compile schema = .ok bare ∧ checker = fun value =>
        bare (SchemaDefaults.apply (SchemaDefaults.ofSchema schema) value) := by
  simp only [withDefaults]
  cases backend.compile schema <;> simp [eq_comm]

theorem withDefaults_takes_iff :
    (∃ checker, backend.withDefaults.compile schema = .ok checker) ↔
      ∃ checker, backend.compile schema = .ok checker := by
  simp only [withDefaults_eq_ok_iff]
  constructor
  · rintro ⟨_, bare, taken, _⟩
    exact ⟨bare, taken⟩
  · rintro ⟨bare, taken⟩
    exact ⟨_, bare, taken, rfl⟩

/-- With its fields in another order the schema is taken just the same, and so are the documents
that are granted. -/
structure BlindTo (validator : Validator) (schema : Json) : Prop where
  takes : ∀ {other : Json}, Reordered schema other →
    ((∃ checker, validator.compile schema = .ok checker) ↔
      ∃ checker, validator.compile other = .ok checker)
  grants : ∀ {other : Json}, Reordered schema other → ∀ {checker otherChecker : Checker},
    validator.compile schema = .ok checker → validator.compile other = .ok otherChecker →
      ∀ {value otherValue : Json}, Reordered value otherValue → value.DistinctKeys →
        (checker.Grants value ↔ otherChecker.Grants otherValue)

theorem BlindTo.withDefaults (blind : backend.BlindTo schema) (unique : schema.DistinctKeys) :
    backend.withDefaults.BlindTo schema where
  takes := by
    intro other same
    rw [withDefaults_takes_iff, withDefaults_takes_iff]
    exact blind.takes same
  grants := by
    intro other same checker otherChecker compiled otherCompiled value otherValue alike distinct
    obtain ⟨bare, taken, rfl⟩ := (withDefaults_eq_ok_iff _).mp compiled
    obtain ⟨otherBare, otherTaken, rfl⟩ := (withDefaults_eq_ok_iff _).mp otherCompiled
    have filled := SchemaDefaults.apply_reordered same unique alike distinct
    exact blind.grants same taken otherTaken filled
      (SchemaDefaults.distinctKeys_apply unique distinct)

theorem schemaDocuments_takes_iff (schema : Json) :
    (∃ checker, schemaDocuments.compile schema = .ok checker) ↔ Admissible schema := by
  rw [← jsonSchema_takes_iff, jsonSchema_eq, withDefaults_takes_iff]

theorem schemaDocuments_grants_iff {checker : Checker} (unique : schema.DistinctKeys)
    (free : ReferenceFree schema) (compiled : schemaDocuments.compile schema = .ok checker)
    {value : Json} (distinct : value.DistinctKeys) :
    checker.Grants value ↔ Satisfies .validator schema value := by
  obtain ⟨document, made, rfl⟩ := (map_eq_ok_iff _ _ _).mp compiled
  obtain ⟨_, read⟩ := (SchemaDocument.compile_eq_ok_iff _ _).mp made
  obtain ⟨root, spelled, rfl⟩ := (SchemaDocument.ofJson_eq_ok_iff _ _).mp read
  rw [Checker.Grants, verdictOf_valid_iff, SchemaDocument.accepts_eq]
  exact Constraint.faithful_of_referenceFree free unique root spelled value distinct

/-- The order of keys is not seen in a schema without references that compares no objects. -/
theorem blindTo_schemaDocuments (unique : schema.DistinctKeys) (free : ReferenceFree schema)
    (plain : Everywhere ComparesNoObjects schema) : schemaDocuments.BlindTo schema where
  takes := by
    intro other same
    rw [schemaDocuments_takes_iff, schemaDocuments_takes_iff]
    exact Admissible.reordered same unique
  grants := by
    intro other same checker otherChecker taken otherTaken value otherValue alike distinct
    have otherUnique := same.distinctKeys unique
    have otherFree := free.reordered same unique
    rw [schemaDocuments_grants_iff unique free taken distinct,
      schemaDocuments_grants_iff otherUnique otherFree otherTaken (alike.distinctKeys distinct)]
    exact satisfies_reordered same plain value otherValue alike

theorem blindTo_jsonSchema (unique : schema.DistinctKeys) (free : ReferenceFree schema)
    (plain : Everywhere ComparesNoObjects schema) : jsonSchema.BlindTo schema := by
  rw [jsonSchema_eq]
  exact (blindTo_schemaDocuments unique free plain).withDefaults unique

end Validator

namespace Rule

variable {validator : Validator} {schema other : Json} (same : Reordered schema other)

include same

theorem contractOf_reordered (unique : schema.DistinctKeys) :
    Reordered (contractOf schema) (contractOf other) :=
  (Lowering.lower_reordered (Contract.extend_reordered same unique)).1

theorem isObject_reordered :
    (∃ fields : Fields, schema = .obj fields) ↔ ∃ fields : Fields, other = .obj fields := by
  cases same <;> simp

theorem compiles_reordered (unique : schema.DistinctKeys)
    (blind : validator.BlindTo (contractOf schema)) (classification : Classification) :
    (∃ rule, (Rule.compile validator classification schema).result = .ok rule) ↔
      ∃ rule, (Rule.compile validator classification other).result = .ok rule := by
  have extracted := @Extraction.ofShape_ok_iff_of_perm classification _ _
    (Shape.paths_perm same unique)
  have taken := blind.takes (contractOf_reordered same unique)
  have isObject := isObject_reordered same
  rw [compiles_iff, compiles_iff, extracted, taken, isObject]

theorem satisfied_reordered (unique : schema.DistinctKeys)
    (blind : validator.BlindTo (contractOf schema)) {classification : Classification}
    {rule otherRule : Rule}
    (compiled : (Rule.compile validator classification schema).result = .ok rule)
    (otherCompiled : (Rule.compile validator classification other).result = .ok otherRule)
    {request otherRequest : Request} (sameRequest : request.Reordered otherRequest)
    (distinct : request.document.DistinctKeys) : (rule.evaluate request).result = .satisfied ↔
      (otherRule.evaluate otherRequest).result = .satisfied := by
  have contracts := contractOf_reordered same unique
  have documents := Request.document_reordered sameRequest
  obtain ⟨_, _, checker, _, _, taken, rfl⟩ := (compile_eq_ok_iff _ _ _ _).mp compiled
  obtain ⟨_, _, otherChecker, _, _, otherTaken, rfl⟩ :=
    (compile_eq_ok_iff _ _ _ _).mp otherCompiled
  rw [evaluate_satisfied, evaluate_satisfied]
  exact blind.grants contracts taken otherTaken documents distinct

theorem attributes_reordered (unique : schema.DistinctKeys) {classification : Classification}
    {rule otherRule : Rule}
    (compiled : (Rule.compile validator classification schema).result = .ok rule)
    (otherCompiled : (Rule.compile validator classification other).result = .ok otherRule)
    (ns : Namespace) : (rule.attributes.get ns).Perm (otherRule.attributes.get ns) := by
  obtain ⟨_, found, _, _, extracted, _, rfl⟩ := (compile_eq_ok_iff _ _ _ _).mp compiled
  obtain ⟨_, otherFound, _, _, otherExtracted, _, rfl⟩ :=
    (compile_eq_ok_iff _ _ _ _).mp otherCompiled
  exact Extraction.get_perm (Shape.paths_perm same unique) extracted otherExtracted ns

end Rule

/-- The order of keys never decides access. Two schemas that differ only in it are both rules or
neither; the rules are satisfied by the same requests, whatever the order of keys in these, and need
the same attributes. The backend is taken not to care for the order of keys itself; `jsonSchema_eq`
and `blindTo_schemaDocuments` say which one there is, and when it does not. -/
theorem access_ignores_key_order {backend : Validator} {schema other : Json}
    (same : Reordered schema other) (unique : schema.DistinctKeys)
    (blind : backend.BlindTo (Rule.contractOf schema)) (classification : Classification) :
    ((∃ rule, (Rule.compile backend.withDefaults classification schema).result = .ok rule) ↔
      ∃ rule, (Rule.compile backend.withDefaults classification other).result = .ok rule) ∧
    ∀ rule otherRule,
      (Rule.compile backend.withDefaults classification schema).result = .ok rule →
      (Rule.compile backend.withDefaults classification other).result = .ok otherRule →
      (∀ request otherRequest : Request, request.Reordered otherRequest →
        request.document.DistinctKeys → ((rule.evaluate request).result = .satisfied ↔
          (otherRule.evaluate otherRequest).result = .satisfied)) ∧
      ∀ ns, (rule.attributes.get ns).Perm (otherRule.attributes.get ns) := by
  have contract : (Rule.contractOf schema).DistinctKeys :=
    Lowering.distinctKeys_lower (Contract.distinctKeys_extend unique)
  have filling := blind.withDefaults contract
  refine ⟨Rule.compiles_reordered same unique filling classification, ?_⟩
  intro rule otherRule compiled otherCompiled
  refine ⟨fun request otherRequest sameRequest distinct => ?_, ?_⟩
  · exact Rule.satisfied_reordered same unique filling compiled otherCompiled sameRequest distinct
  · exact Rule.attributes_reordered same unique compiled otherCompiled

def guests : Json := .obj [("title", .str "guests"), ("properties", .obj [("subject", .obj [
  ("type", .str "object"), ("properties", .obj [("name", .obj []), ("age", .obj [])]),
  ("required", .arr [.str "name"])])])]

def guestsReordered : Json := .obj [("properties", .obj [("subject", .obj [
  ("required", .arr [.str "name"]), ("properties", .obj [("age", .obj []), ("name", .obj [])]),
  ("type", .str "object")])]), ("title", .str "guests")]

def guest : Request := ⟨some (.obj [("name", .str "ada"), ("age", Json.int 36)]), none, none⟩

def guestReordered : Request :=
  ⟨some (.obj [("age", Json.int 36), ("name", .str "ada")]), none, none⟩

theorem access_ignores_key_order_guests :
    let backend := Validator.schemaDocuments
    Reordered guests guestsReordered ∧ guests.DistinctKeys ∧
      backend.BlindTo (Rule.contractOf guests) ∧ guest.Reordered guestReordered ∧
      guest.document.DistinctKeys ∧ ∃ rule otherRule,
        (Rule.compile backend.withDefaults .substring guests).result = .ok rule ∧
        (Rule.compile backend.withDefaults .substring guestsReordered).result = .ok otherRule ∧
        ((rule.evaluate guest).result = .satisfied ↔
          (otherRule.evaluate guestReordered).result = .satisfied) ∧
        ∀ ns, (rule.attributes.get ns).Perm (otherRule.attributes.get ns) := by
  intro backend
  have unique : guests.DistinctKeys := by
    simp [guests, Json.DistinctKeys, Json.DistinctKeysIn, Json.DistinctKeysUnder]
  have otherUnique : guestsReordered.DistinctKeys := by
    simp [guestsReordered, Json.DistinctKeys, Json.DistinctKeysIn, Json.DistinctKeysUnder]
  have same : Reordered guests guestsReordered :=
    (reordered_iff_sorted_eq unique otherUnique).mpr (by decide +kernel)
  have contract : (Rule.contractOf guests).DistinctKeys :=
    Lowering.distinctKeys_lower (Contract.distinctKeys_extend unique)
  have free : ReferenceFree (Rule.contractOf guests) :=
    referenceFree_of_unmentioned (by decide +kernel)
  have plain : Everywhere ComparesNoObjects (Rule.contractOf guests) :=
    comparesNoObjects_of_unmentioned (by decide +kernel)
  have blind : backend.BlindTo (Rule.contractOf guests) :=
    Validator.blindTo_schemaDocuments contract free plain
  have supplied : guest.Reordered guestReordered := by
    intro ns
    cases ns with
    | subject =>
      refine .some ((reordered_iff_sorted_eq ?_ ?_).mpr (by decide +kernel)) <;>
        simp [Json.int, Json.DistinctKeys, Json.DistinctKeysUnder]
    | object | environment => exact .none
  have distinct : guest.document.DistinctKeys := by
    simp [guest, Request.document, Request.fieldsFor, Namespace.all, Request.get, Namespace.key,
      Json.int, Json.DistinctKeys, Json.DistinctKeysUnder]
  have facts := access_ignores_key_order same unique blind .substring
  obtain ⟨rule, compiled⟩ : ∃ rule,
      (Rule.compile backend.withDefaults .substring guests).result = .ok rule :=
    exists_ok_of_toBool (by decide +kernel)
  obtain ⟨otherRule, otherCompiled⟩ := facts.1.mp ⟨rule, compiled⟩
  have both := facts.2 rule otherRule compiled otherCompiled
  exact ⟨same, unique, blind, supplied, distinct, rule, otherRule, compiled, otherCompiled,
    both.1 guest guestReordered supplied distinct, both.2⟩

end AccessRules
