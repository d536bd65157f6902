import AccessRules.Proofs.Rule.Extension
import AccessRules.Proofs.Rule.LoweredMeaning

/-!
The contract of a rule says what the base contract says and what the rule's schema says, no more
and no less. For a request that supplies every namespace the defaults of the namespaces do not
count, and those of other properties are the same in both schemas.
-/

namespace AccessRules

namespace Contract

section Defaults

def outside (name : String) : Bool :=
  (Namespace.ofKey? name).isNone

theorem outside_key (ns : Namespace) : outside ns.key = false := by
  rw [outside, Namespace.ofKey?_key]
  rfl

theorem eq_key_of_outside {name : String} (reserved : outside name = false) :
    ∃ ns : Namespace, ns.key = name := by
  rw [outside, Option.isNone_eq_false_iff, Option.isSome_iff_exists] at reserved
  obtain ⟨ns, found⟩ := reserved
  exact ⟨ns, (Namespace.ofKey?_eq_some_iff name ns).mp found⟩

theorem filter_put (keep : String → Bool) {name : String} (dropped : keep name = false)
    (fields : Fields) (value : Json) :
    (fields.put name value).filter (fun field => keep field.1) =
      List.filter (fun field => keep field.1) fields := by
  induction fields with
  | nil => simp [Fields.put, dropped]
  | cons first rest ih =>
    obtain ⟨key, old⟩ := first
    by_cases here : key = name
    · simp [Fields.put, here, dropped]
    · rw [Fields.put, if_neg here, List.filter_cons, List.filter_cons, ih]

/-- Names that are kept and are new follow after the old ones, each with its own value. -/
theorem filter_mergeFields (keep : String → Bool) {below fields : Fields}
    (nodup : (fields.map (·.1)).Nodup)
    (fresh : ∀ name ∈ fields.map (·.1), keep name = true → below.get? name = none) :
    (mergeFields below fields).filter (fun field => keep field.1) =
      List.filter (fun field => keep field.1) below ++
        List.filter (fun field => keep field.1) fields := by
  induction fields generalizing below with
  | nil => simp [mergeFields]
  | cons first rest ih =>
    obtain ⟨name, value⟩ := first
    rw [List.map_cons, List.nodup_cons] at nodup
    have later : ∀ put : Json, ∀ other ∈ rest.map (·.1), keep other = true →
        (below.put name put).get? other = none := by
      intro put other listed kept
      have apart : ¬ name = other := by
        rintro rfl
        exact nodup.1 listed
      rw [Fields.get?_put, if_neg apart]
      exact fresh other (List.mem_cons_of_mem _ listed) kept
    rw [mergeFields, ih nodup.2 (later _)]
    cases kept : keep name with
    | false =>
      -- wherever the name is put, the filter drops it
      rw [filter_put keep kept]
      simp [kept]
    | true =>
      have absent := fresh name List.mem_cons_self kept
      rw [absent, Fields.put_of_absent absent]
      simp [kept]

theorem ofSchema_extend {schema : Json} (extendable : Extendable schema)
    (unique : schema.DistinctKeys) :
    (SchemaDefaults.ofSchema (extend schema)).filter (fun field => outside field.1) =
      (SchemaDefaults.ofSchema schema).filter fun field => outside field.1 := by
  obtain ⟨⟨fields, rfl⟩, left, properties, namespaces⟩ := extendable
  have joined : (extend (.obj fields)).field? "properties" =
      laid (some (.obj namespaceMembers)) (fields.get? "properties") :=
    field?_extend unique "properties"
  have noOthers : List.filter (fun field => outside field.1) namespaceMembers = [] := by decide
  rw [SchemaDefaults.ofSchema, SchemaDefaults.ofSchema, joined]
  cases found : fields.get? "properties" with
  | none =>
    simp only [Json.field?, found, laid_none]
    rw [SchemaDefaults.filter_ofProperties, noOthers]
    rfl
  | some argument =>
    obtain ⟨members, rfl⟩ := properties argument found
    have nodup := (unique.member (Fields.mem_of_get? found)).names
    have fresh : ∀ name ∈ members.map (·.1), outside name = true →
        namespaceMembers.get? name = none := by
      intro name _ kept
      refine get?_namespaceMembers_other fun ns same => ?_
      rw [← same, outside_key] at kept
      cases kept
    simp only [Json.field?, found, some_laid, merge]
    rw [SchemaDefaults.filter_ofProperties, SchemaDefaults.filter_ofProperties,
      filter_mergeFields outside nodup fresh, noOthers, List.nil_append]

/-- Where every namespace is supplied, the contract fills in what the schema itself does. -/
theorem apply_extend {schema : Json} (extendable : Extendable schema) (unique : schema.DistinctKeys)
    {fields : Fields} (supplied : ∀ ns : Namespace, fields.has ns.key = true) :
    SchemaDefaults.apply (SchemaDefaults.ofSchema (extend schema)) (.obj fields) =
      SchemaDefaults.apply (SchemaDefaults.ofSchema schema) (.obj fields) := by
  have present : ∀ name, outside name = false → fields.has name = true := by
    intro name reserved
    obtain ⟨ns, rfl⟩ := eq_key_of_outside reserved
    exact supplied ns
  rw [SchemaDefaults.apply, SchemaDefaults.apply, ← SchemaDefaults.fill_filter outside present,
    ofSchema_extend extendable unique, SchemaDefaults.fill_filter outside present]

end Defaults

end Contract

section Rule

variable {schema : Json} (extendable : Contract.Extendable schema) (unique : schema.DistinctKeys)
  (free : ReferenceFree schema)

include extendable unique free

theorem contract_taken_iff :
    (∃ checker, Validator.jsonSchema.compile (Rule.contractOf schema) = .ok checker) ↔
      ∃ checker, Validator.jsonSchema.compile (Lowering.lower schema) = .ok checker := by
  have contracted := (Contract.contracted_extend extendable unique).lower
  have distinct := Lowering.distinctKeys_lower (Contract.distinctKeys_extend unique)
  rw [Validator.jsonSchema_takes_iff, Validator.jsonSchema_takes_iff]
  exact contracted.admissible_iff (Lowering.distinctKeys_lower unique) distinct
    (Lowering.referenceFree_lower free)

theorem contract_grants_iff {onContract onSchema : Checker}
    (compiled : Validator.jsonSchema.compile (Rule.contractOf schema) = .ok onContract)
    (lowered : Validator.jsonSchema.compile (Lowering.lower schema) = .ok onSchema)
    {request : Request} (supplied : ∀ ns, ∃ value, request.get ns = some value)
    (distinct : request.document.DistinctKeys) : onContract.Grants request.document ↔
      (∀ ns, ∃ fields, request.get ns = some (.obj fields)) ∧ onSchema.Grants request.document := by
  have contracted := Contract.contracted_extend extendable unique
  have distinctOuter := Contract.distinctKeys_extend unique
  have freeOuter := contracted.referenceFree distinctOuter free
  rw [lowered_grants_iff distinctOuter freeOuter compiled distinct,
    lowered_grants_iff unique free lowered distinct]
  obtain ⟨fields, same⟩ : ∃ fields : Fields, request.document = .obj fields := ⟨_, rfl⟩
  have named : ∀ ns : Namespace, fields.get? ns.key = request.get ns := by
    intro ns
    rw [← request.field?_document ns, same]
    rfl
  have present : ∀ ns : Namespace, fields.has ns.key = true := by
    intro ns
    rw [Fields.has_eq_true_iff, named ns]
    exact supplied ns
  rw [same, Contract.apply_extend extendable unique present, SchemaDefaults.apply,
    contracted.satisfies_iff]
  refine and_congr_left fun _ => forall_congr' fun ns => ?_
  obtain ⟨value, found⟩ := supplied ns
  rw [SchemaDefaults.get?_fill, named ns, found, Option.some_or]

/-- The contract of a rule is the base contract and the rule's own schema. It is taken when the
schema itself is, and a request that supplies every namespace satisfies the rule when it supplies
objects and the checker of the schema grants its document. -/
theorem rule_is_conjunction :
    ((∃ checker, Validator.jsonSchema.compile (Rule.contractOf schema) = .ok checker) ↔
      ∃ checker, Validator.jsonSchema.compile (Lowering.lower schema) = .ok checker) ∧
    ∀ classification rule,
      (Rule.compile Validator.jsonSchema classification schema).result = .ok rule →
      ∃ checker, Validator.jsonSchema.compile (Lowering.lower schema) = .ok checker ∧
        ∀ request : Request, (∀ ns, ∃ value, request.get ns = some value) →
          request.document.DistinctKeys →
          ((rule.evaluate request).result = .satisfied ↔
            (∀ ns, ∃ fields, request.get ns = some (.obj fields)) ∧
              checker.Grants request.document) := by
  have taken := contract_taken_iff extendable unique free
  refine ⟨taken, fun classification rule compiled => ?_⟩
  obtain ⟨_, _, onContract, _, _, made, rfl⟩ := (Rule.compile_eq_ok_iff _ _ _ _).mp compiled
  obtain ⟨onSchema, lowered⟩ := taken.mp ⟨onContract, made⟩
  refine ⟨onSchema, lowered, fun request supplied distinct => ?_⟩
  rw [Rule.evaluate_satisfied]
  exact contract_grants_iff extendable unique free made lowered supplied distinct

end Rule

def namedSubject : Json :=
  .obj [("properties", .obj [("subject", .obj [("required", .arr [.str "name"])])])]

def namedRequest : Request where
  subject := some (.obj [("name", .str "ada")])
  object := some (.obj [])
  environment := some (.obj [])

theorem extendable_namedSubject : Contract.Extendable namedSubject where
  isObject := ⟨_, rfl⟩
  left := by
    intro keyword listed
    simp only [List.mem_cons, List.not_mem_nil, or_false] at listed
    rcases listed with rfl | rfl | rfl <;> rfl
  properties := by
    intro argument found
    cases Option.some.inj found
    exact ⟨_, rfl⟩
  namespaces := by
    intro ns s found
    cases ns with
    | subject =>
      cases Option.some.inj found
      exact ⟨⟨_, rfl⟩, rfl⟩
    | object => cases found
    | environment => cases found

theorem rule_is_conjunction_named : ∃ rule checker,
    (Rule.compile Validator.jsonSchema .substring namedSubject).result = .ok rule ∧
    Validator.jsonSchema.compile (Lowering.lower namedSubject) = .ok checker ∧
    ((rule.evaluate namedRequest).result = .satisfied ↔
      (∀ ns, ∃ fields, namedRequest.get ns = some (.obj fields)) ∧
        checker.Grants namedRequest.document) := by
  have unique : namedSubject.DistinctKeys := by
    simp [namedSubject, Json.DistinctKeys, Json.DistinctKeysIn, Json.DistinctKeysUnder]
  have free : ReferenceFree namedSubject := referenceFree_of_unmentioned (by decide)
  obtain ⟨rule, compiled⟩ : ∃ rule,
      (Rule.compile Validator.jsonSchema .substring namedSubject).result = .ok rule :=
    exists_ok_of_toBool (by decide +kernel)
  have supplied : ∀ ns, ∃ value, namedRequest.get ns = some value := by
    intro ns
    cases ns <;> exact ⟨_, rfl⟩
  have distinct : namedRequest.document.DistinctKeys := by
    simp [namedRequest, Request.document, Request.fieldsFor, Namespace.all, Request.get,
      Namespace.key, Json.DistinctKeys, Json.DistinctKeysUnder]
  obtain ⟨checker, lowered, conjunction⟩ :=
    (rule_is_conjunction extendable_namedSubject unique free).2 .substring rule compiled
  exact ⟨rule, checker, compiled, lowered, conjunction namedRequest supplied distinct⟩

end AccessRules
