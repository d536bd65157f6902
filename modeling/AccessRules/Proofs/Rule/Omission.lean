import AccessRules.Proofs.Rule.KeyOrder

/-!
What is left out of a request. A rule's backend is shown the request document with the defaults of
the merged schema filled in. A default stands where nothing is supplied, and only there, so that it
makes no difference whether a namespace is left out or its default is supplied.
-/

namespace AccessRules

def Json.declared? (schema : Json) (ns : Namespace) : Option Json :=
  (schema.member? "properties" ns.key).bind fun property => property.field? "default"

theorem Json.DistinctKeys.declared {schema : Json} (unique : schema.DistinctKeys) {ns : Namespace}
    {value : Json} (found : schema.declared? ns = some value) : value.DistinctKeys := by
  obtain ⟨property, entry, default⟩ := Option.bind_eq_some_iff.mp found
  exact (unique.ofMember entry).field default

namespace Request

def completed (request : Request) (schema : Json) : Request where
  subject := request.subject.or (schema.declared? .subject)
  object := request.object.or (schema.declared? .object)
  environment := request.environment.or (schema.declared? .environment)

def supply (request : Request) (ns : Namespace) (value : Json) : Request :=
  match ns with
  | .subject => { request with subject := some value }
  | .object => { request with object := some value }
  | .environment => { request with environment := some value }

def filled (request : Request) (schema : Json) : Json :=
  SchemaDefaults.apply (SchemaDefaults.ofSchema schema) request.document

variable {request other : Request} {schema : Json}

theorem get_completed (request : Request) (schema : Json) (ns : Namespace) :
    (request.completed schema).get ns = (request.get ns).or (schema.declared? ns) := by
  cases ns <;> rfl

theorem get_supply (request : Request) (ns place : Namespace) (value : Json) :
    (request.supply ns value).get place = if place = ns then some value else request.get place := by
  cases ns <;> cases place <;> rfl

theorem distinctKeys_document_iff (request : Request) : request.document.DistinctKeys ↔
    ∀ ns value, request.get ns = some value → value.DistinctKeys := by
  constructor
  · intro distinct ns value supplied
    rw [← field?_document] at supplied
    exact distinct.field supplied
  · intro each
    have subject := each .subject
    have object := each .object
    have environment := each .environment
    obtain ⟨forSubject, forObject, forEnvironment⟩ := request
    cases forSubject <;> cases forObject <;> cases forEnvironment <;>
      simp_all [document, fieldsFor, Namespace.all, get, Namespace.key, Json.DistinctKeys,
        Json.DistinctKeysUnder]

theorem field?_filled (unique : schema.DistinctKeys) (request : Request) (name : String) :
    (request.filled schema).field? name = (request.document.field? name).or
      ((schema.member? "properties" name).bind fun property => property.field? "default") := by
  rw [← SchemaDefaults.get?_ofSchema unique]
  exact SchemaDefaults.get?_fill _ _ name

theorem field?_filled_key (unique : schema.DistinctKeys) (request : Request) (ns : Namespace) :
    (request.filled schema).field? ns.key = (request.get ns).or (schema.declared? ns) := by
  rw [field?_filled unique, field?_document, Json.declared?]

/-- Requests that come to the same once the defaults are filled in lead to the same document, but
for the order in which the namespaces stand. -/
theorem filled_reordered (unique : schema.DistinctKeys) (distinct : request.document.DistinctKeys)
    (otherDistinct : other.document.DistinctKeys)
    (same : ∀ ns, (request.get ns).or (schema.declared? ns) =
      (other.get ns).or (schema.declared? ns)) :
    AccessRules.Reordered (request.filled schema) (other.filled schema) := by
  have names := (SchemaDefaults.distinctKeys_apply unique distinct).names
  have otherNames := (SchemaDefaults.distinctKeys_apply unique otherDistinct).names
  have equal : ∀ name, (request.filled schema).field? name = (other.filled schema).field? name := by
    intro name
    by_cases reserved : ∃ ns : Namespace, ns.key = name
    · obtain ⟨ns, rfl⟩ := reserved
      rw [field?_filled_key unique, field?_filled_key unique, same]
    · have outside : ∀ ns : Namespace, ns.key ≠ name := by simpa using reserved
      rw [field?_filled unique, field?_filled unique, field?_document_other request outside,
        field?_document_other other outside]
  refine .of_get? names otherNames fun name => ?_
  have found : Fields.get? _ name = Fields.get? _ name := equal name
  rw [found]
  generalize Fields.get? _ name = value
  cases value with
  | none => exact .none
  | some value => exact .some (.refl value)

end Request

namespace Contract

/-- The schema gives a namespace no default, and says nothing of it unless by an object. -/
def Undefaulted (schema : Json) (ns : Namespace) : Prop :=
  ∀ argument, schema.field? "properties" = some argument → ∃ members : Fields,
    argument = .obj members ∧ ∀ property, members.get? ns.key = some property →
      (∃ fields : Fields, property = .obj fields) ∧ property.field? "default" = none

theorem declared?_extend {fields : Fields} (unique : (Json.obj fields).DistinctKeys)
    {ns : Namespace} (undefaulted : Undefaulted (.obj fields) ns) :
    (extend (.obj fields)).declared? ns = some (.obj []) := by
  have properties : ∀ argument, fields.get? "properties" = some argument →
      ∃ members : Fields, argument = .obj members := fun argument found =>
    (undefaulted argument found).imp fun _ both => both.1
  obtain ⟨members, outside, named⟩ := properties_extend unique properties
  have entry : (extend (.obj fields)).member? "properties" ns.key =
      laid (some namespaceSchema) ((Json.obj fields).member? "properties" ns.key) := by
    rw [← get?_namespaceMembers ns, ← named, Json.member?, outside]
    rfl
  rw [Json.declared?, entry]
  cases mentioned : (Json.obj fields).member? "properties" ns.key with
  | none => rfl
  | some property =>
    obtain ⟨inside, under, here⟩ := (Json.member?_eq_some_iff _ _ _ _).mp mentioned
    obtain ⟨again, same, each⟩ := undefaulted _ under
    cases same
    obtain ⟨⟨keywords, rfl⟩, absent⟩ := each property here
    have nodup := (unique.ofMember mentioned).names
    have default : (merge namespaceSchema (.obj keywords)).field? "default" =
        laid (some (.obj [])) (keywords.get? "default") := get?_mergeFields nodup "default"
    rw [some_laid, Option.bind_some, default, show keywords.get? "default" = none from absent]
    rfl

end Contract

theorem declared?_contractOf (schema : Json) (ns : Namespace) :
    (Rule.contractOf schema).declared? ns = (Contract.extend schema).declared? ns := by
  have place : SchemaPlace.ofKeyword "properties" = .named := by decide
  rw [Json.declared?, Json.declared?, Rule.contractOf, Lowering.member?_lower place]
  cases (Contract.extend schema).member? "properties" ns.key with
  | none => rfl
  | some property =>
    have kept : (Lowering.lower property).field? "default" = property.field? "default" := by
      rw [Lowering.field?_lower]
      cases property.field? "default" <;> rfl
    exact kept

namespace Rule

variable {backend : Validator} {schema : Json} {classification : Classification} {rule : Rule}

theorem filled_of_compiled
    (compiled : (Rule.compile backend.withDefaults classification schema).result = .ok rule) :
    rule.contract = contractOf schema ∧ ∃ bare, backend.compile rule.contract = .ok bare ∧
      ∀ request : Request, (rule.evaluate request).result = .satisfied ↔
        bare.Grants (request.filled (Contract.extend schema)) := by
  obtain ⟨_, _, checker, _, _, taken, rfl⟩ := (compile_eq_ok_iff _ _ _ _).mp compiled
  obtain ⟨bare, made, rfl⟩ := (Validator.withDefaults_eq_ok_iff _).mp taken
  have defaults : SchemaDefaults.ofSchema (contractOf schema) =
      SchemaDefaults.ofSchema (Contract.extend schema) := SchemaDefaults.ofSchema_lower _
  refine ⟨rfl, bare, made, fun request => ?_⟩
  rw [evaluate_satisfied, Request.filled, ← defaults]
  rfl

theorem satisfied_of_same_filled (unique : schema.DistinctKeys)
    (blind : backend.BlindTo (contractOf schema))
    (compiled : (Rule.compile backend.withDefaults classification schema).result = .ok rule)
    {request other : Request} (distinct : request.document.DistinctKeys)
    (otherDistinct : other.document.DistinctKeys)
    (same : ∀ ns, (request.get ns).or ((Contract.extend schema).declared? ns) =
      (other.get ns).or ((Contract.extend schema).declared? ns)) :
    (rule.evaluate request).result = .satisfied ↔ (rule.evaluate other).result = .satisfied := by
  have extended := Contract.distinctKeys_extend unique
  obtain ⟨contract, bare, made, satisfied⟩ := filled_of_compiled compiled
  rw [contract] at made
  have documents := Request.filled_reordered extended distinct otherDistinct same
  have seen := SchemaDefaults.distinctKeys_apply extended distinct
  rw [satisfied, satisfied]
  exact blind.grants (.refl _) made made documents seen

end Rule

/-- To omit a namespace is to supply the default that is declared for it. -/
theorem omission_means_default {backend : Validator} {schema : Json} (unique : schema.DistinctKeys)
    (blind : backend.BlindTo (Rule.contractOf schema)) {classification : Classification}
    {rule : Rule}
    (compiled : (Rule.compile backend.withDefaults classification schema).result = .ok rule) :
    (∀ request : Request, request.document.DistinctKeys →
      ((rule.evaluate request).result = .satisfied ↔
        (rule.evaluate (request.completed rule.contract)).result = .satisfied)) ∧
    (∀ ns, Contract.Undefaulted schema ns → ∀ request : Request, request.document.DistinctKeys →
      request.get ns = none → ((rule.evaluate request).result = .satisfied ↔
        (rule.evaluate (request.supply ns (.obj []))).result = .satisfied)) ∧
    ∃ bare, backend.compile rule.contract = .ok bare ∧ ∀ request : Request,
      ((rule.evaluate request).result = .satisfied ↔
        bare.Grants (request.filled (Contract.extend schema))) ∧
      ∀ ns, (request.filled (Contract.extend schema)).field? ns.key =
        (request.get ns).or ((Contract.extend schema).declared? ns) := by
  have extended := Contract.distinctKeys_extend unique
  obtain ⟨contract, bare, made, satisfied⟩ := Rule.filled_of_compiled compiled
  refine ⟨fun request distinct => ?_, fun ns undefaulted request distinct omitted => ?_,
    bare, made, fun request => ⟨satisfied request, Request.field?_filled_key extended request⟩⟩
  · refine Rule.satisfied_of_same_filled unique blind compiled distinct ?_ fun ns => ?_
    · rw [Request.distinctKeys_document_iff] at distinct ⊢
      intro ns value supplied
      rw [Request.get_completed, Option.or_eq_some_iff] at supplied
      rcases supplied with given | ⟨_, default⟩
      · exact distinct ns value given
      · rw [contract, declared?_contractOf] at default
        exact extended.declared default
    · rw [Request.get_completed, contract, declared?_contractOf, Option.or_assoc, Option.or_self]
  · obtain ⟨fields, _, _, rfl, _⟩ := (Rule.compile_eq_ok_iff _ _ _ _).mp compiled
    have default := Contract.declared?_extend unique undefaulted
    refine Rule.satisfied_of_same_filled unique blind compiled distinct ?_ fun place => ?_
    · rw [Request.distinctKeys_document_iff] at distinct ⊢
      intro place value supplied
      rw [Request.get_supply] at supplied
      split at supplied
      · cases supplied
        simp [Json.DistinctKeys, Json.DistinctKeysUnder]
      · exact distinct place value supplied
    · rw [Request.get_supply]
      split
      · rename_i same
        rw [same, omitted, default]
        rfl
      · rfl

/-- Whoever is in a zone. Unless the circumstances are given, the zone is the lobby; that they are
not private is data here, not a schema. -/
def zoned : Json := .obj [("properties", .obj [("environment", .obj [
  ("default", .obj [("zone", .str "lobby"), ("not", .arr [.str "private"])]),
  ("required", .arr [.str "zone"])])])]

def passerBy : Request := ⟨none, some (.obj [("door", Json.int 2)]), none⟩

theorem omission_means_default_zoned :
    let backend := Validator.schemaDocuments
    zoned.DistinctKeys ∧ backend.BlindTo (Rule.contractOf zoned) ∧
      passerBy.document.DistinctKeys ∧ Contract.Undefaulted zoned .subject ∧
      passerBy.get .subject = none ∧ ∃ rule,
        (Rule.compile backend.withDefaults .substring zoned).result = .ok rule ∧
        ((rule.evaluate passerBy).result = .satisfied ↔
          (rule.evaluate (passerBy.completed rule.contract)).result = .satisfied) ∧
        ((rule.evaluate passerBy).result = .satisfied ↔
          (rule.evaluate (passerBy.supply .subject (.obj []))).result = .satisfied) := by
  intro backend
  have unique : zoned.DistinctKeys := by
    simp [zoned, Json.DistinctKeys, Json.DistinctKeysIn, Json.DistinctKeysUnder]
  have contract : (Rule.contractOf zoned).DistinctKeys :=
    Lowering.distinctKeys_lower (Contract.distinctKeys_extend unique)
  have free : ReferenceFree (Rule.contractOf zoned) :=
    referenceFree_of_unmentioned (by decide +kernel)
  have plain : Everywhere ComparesNoObjects (Rule.contractOf zoned) :=
    comparesNoObjects_of_unmentioned (by decide +kernel)
  have blind : backend.BlindTo (Rule.contractOf zoned) :=
    Validator.blindTo_schemaDocuments contract free plain
  have distinct : passerBy.document.DistinctKeys := by
    simp [passerBy, Request.document, Request.fieldsFor, Namespace.all, Request.get, Namespace.key,
      Json.int, Json.DistinctKeys, Json.DistinctKeysUnder]
  have undefaulted : Contract.Undefaulted zoned .subject := by
    intro argument found
    cases Option.some.inj found
    refine ⟨_, rfl, fun property mentioned => ?_⟩
    simp [Fields.get?, Namespace.key] at mentioned
  obtain ⟨rule, compiled⟩ : ∃ rule,
      (Rule.compile backend.withDefaults .substring zoned).result = .ok rule :=
    exists_ok_of_toBool (by decide +kernel)
  have facts := omission_means_default unique blind compiled
  exact ⟨unique, blind, distinct, undefaulted, rfl, rule, compiled, facts.1 passerBy distinct,
    facts.2.1 .subject undefaulted passerBy distinct rfl⟩

end AccessRules
