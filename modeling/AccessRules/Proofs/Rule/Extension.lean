import AccessRules.Proofs.Rule.Contract
import AccessRules.Proofs.Schema.Admission

/-!
What the base contract adds to a schema. The schemas differ in four keywords; the other ones say
the same in both, since none of them looks at those four. So the outer schema is satisfied when the
inner one is and the value is an object with an object for each namespace, and the one is taken for
use when the other is.
-/

namespace AccessRules

/-- The keywords in which a contract differs from the schema that it is made from. -/
def contractual : List String := ["type", "required", "default", "properties"]

/-- What these keywords of a schema ask of a value; a default asks nothing. -/
structure MeetsContractual (schema value : Json) : Prop where
  typed : ∀ argument, schema.field? "type" = some argument →
    (Assertion.types (Keyword.typesNamed argument)).holds value = true
  required : ∀ argument, schema.field? "required" = some argument →
    ∀ name ∈ argument.items.filterMap Json.text?, (Assertion.required name).holds value = true
  properties : ∀ name s, schema.member? "properties" name = some s →
    ∀ part, value.field? name = some part → Satisfies .validator s part

theorem Satisfies.contractual {schema value : Json}
    (satisfied : Satisfies .validator schema value) :
    MeetsContractual schema value := by
  have meets := (satisfies_iff _ _ _).mp satisfied
  constructor
  · exact fun argument found => meets.asserted "type" argument found _ (List.mem_singleton_self _)
  · intro argument found name listed
    exact meets.asserted "required" argument found _ (List.mem_map_of_mem listed)
  · exact meets.properties

/-- A value that satisfies a schema satisfies another one that differs in these keywords only, if it
has what the other one asks for there. -/
theorem satisfies_of_same {schema other value : Json} (notFalse : other ≠ .bool false)
    (same : ∀ keyword ∉ contractual, other.field? keyword = schema.field? keyword)
    (declared : ∀ argument, other.field? "additionalProperties" = some argument →
      ∀ name, Keyword.Declares .validator other name ↔ Keyword.Declares .validator schema name)
    (contractually : MeetsContractual other value) (satisfied : Satisfies .validator schema value) :
    Satisfies .validator other value := by
  have meets := (satisfies_iff _ _ _).mp satisfied
  have kept : ∀ {keyword argument}, keyword ∉ contractual →
      other.field? keyword = some argument → schema.field? keyword = some argument :=
    fun ordinary found => same _ ordinary ▸ found
  have member : ∀ {keyword name s}, keyword ∉ contractual →
      other.member? keyword name = some s → schema.member? keyword name = some s := by
    intro keyword name s ordinary found
    rwa [Json.member?, same _ ordinary] at found
  rw [satisfies_iff]
  -- every clause reads fields that are the same in both schemas, or is one of the four
  constructor
  case notFalse => exact notFalse
  case asserted =>
    intro keyword argument found a listed
    by_cases reserved : keyword ∈ contractual
    · simp only [contractual, List.mem_cons, List.not_mem_nil, or_false] at reserved
      rcases reserved with rfl | rfl | rfl | rfl
      · cases List.mem_singleton.mp listed
        exact contractually.typed argument found
      · obtain ⟨name, named, rfl⟩ := List.mem_map.mp listed
        exact contractually.required argument found name named
      · rw [Keyword.assertions_eq_nil (by decide)] at listed
        cases listed
      · rw [Keyword.assertions_eq_nil (by decide)] at listed
        cases listed
    · rw [Keyword.assertions_congr (same _ (by decide)) (same _ (by decide))] at listed
      exact meets.asserted keyword argument (kept reserved found) a listed
  case allOf => exact fun ss found => meets.allOf ss (kept (by decide) found)
  case anyOf => exact fun ss found => meets.anyOf ss (kept (by decide) found)
  case oneOf => exact fun ss found => meets.oneOf ss (kept (by decide) found)
  case noneOf => exact fun ss found => meets.noneOf ss (kept (by decide) found)
  case negated => exact fun s found => meets.negated s (kept (by decide) found)
  case whenMet =>
    exact fun test asked s found =>
      meets.whenMet test (kept (by decide) asked) s (kept (by decide) found)
  case otherwise =>
    exact fun test asked s found =>
      meets.otherwise test (kept (by decide) asked) s (kept (by decide) found)
  case properties => exact contractually.properties
  case patternProperties =>
    exact fun source s found => meets.patternProperties source s (member (by decide) found)
  case additionalProperties =>
    intro s found name part present undeclared
    rw [declared s found] at undeclared
    exact meets.additionalProperties s (kept (by decide) found) name part present undeclared
  case propertyNames => exact fun s found => meets.propertyNames s (kept (by decide) found)
  case dependencies =>
    exact fun name s found => meets.dependencies name s (member (by decide) found)
  case dependentNames =>
    exact fun name s found => meets.dependentNames name s (member (by decide) found)
  case items => exact fun s found => meets.items s (kept (by decide) found)
  case tuple => exact fun ss found => meets.tuple ss (kept (by decide) found)
  case additionalItems =>
    exact fun ss beside s found =>
      meets.additionalItems ss (kept (by decide) beside) s (kept (by decide) found)
  case noAdditionalItems =>
    exact fun s found beside =>
      meets.noAdditionalItems s (kept (by decide) found) (kept (by decide) beside)
  case contains => exact fun s found => meets.contains s (kept (by decide) found)

theorem satisfies_iff_of_contractual {inner outer value : Json} {more : Prop}
    (objects : (∃ fields : Fields, inner = .obj fields) ∧ ∃ fields : Fields, outer = .obj fields)
    (same : ∀ keyword ∉ contractual, outer.field? keyword = inner.field? keyword)
    (declared : ∀ argument, outer.field? "additionalProperties" = some argument →
      ∀ name, Keyword.Declares .validator outer name ↔ Keyword.Declares .validator inner name)
    (adds : MeetsContractual outer value ↔ more ∧ MeetsContractual inner value) :
    Satisfies .validator outer value ↔ more ∧ Satisfies .validator inner value := by
  obtain ⟨⟨below, rfl⟩, above, rfl⟩ := objects
  constructor
  · intro satisfied
    obtain ⟨beyond, contractually⟩ := adds.mp satisfied.contractual
    refine ⟨beyond, satisfies_of_same (by simp) ?_ ?_ contractually satisfied⟩
    · exact fun keyword ordinary => (same keyword ordinary).symm
    · intro argument found name
      rw [← same _ (by decide)] at found
      exact (declared argument found name).symm
  · rintro ⟨beyond, satisfied⟩
    have contractually := adds.mpr ⟨beyond, satisfied.contractual⟩
    exact satisfies_of_same (by simp) same declared contractually satisfied

theorem types_object_iff (value : Json) :
    (Assertion.types (Keyword.typesNamed (.str "object"))).holds value = true ↔
      ∃ fields : Fields, value = .obj fields := by
  have named : Keyword.typesNamed (.str "object") = [.object] := rfl
  rw [named]
  cases value <;> simp [Assertion.holds, ValueType.holds]

namespace Contract

variable {inner outer : Json}

theorem Typed.same_but (typed : Typed inner outer) :
    ∀ keyword ∉ contractual, outer.field? keyword = inner.field? keyword := by
  intro keyword ordinary
  refine typed.same keyword fun listed => ordinary ?_
  simp only [List.mem_cons, List.not_mem_nil, or_false] at listed
  rcases listed with rfl | rfl <;> decide

theorem Typed.member? (typed : Typed inner outer) {keyword : String}
    (ordinary : keyword ∉ ["type", "default"]) (name : String) :
    outer.member? keyword name = inner.member? keyword name := by
  rw [Json.member?, Json.member?, typed.same keyword ordinary]

theorem Typed.contractual_iff (typed : Typed inner outer) (value : Json) :
    MeetsContractual outer value ↔
      (∃ fields : Fields, value = .obj fields) ∧ MeetsContractual inner value := by
  have required := typed.same "required" (by decide)
  have member := typed.member? (show "properties" ∉ ["type", "default"] by decide)
  constructor
  · intro meets
    refine ⟨(types_object_iff value).mp (meets.typed _ typed.typed), ?_, ?_, ?_⟩
    · simp [typed.untyped]
    · rw [← required]
      exact meets.required
    · simp only [← member]
      exact meets.properties
  · rintro ⟨isObject, meets⟩
    constructor
    · intro argument found
      cases Option.some.inj (typed.typed.symm.trans found)
      exact (types_object_iff value).mpr isObject
    · rw [required]
      exact meets.required
    · simp only [member]
      exact meets.properties

theorem Typed.satisfies_iff (typed : Typed inner outer) (value : Json) :
    Satisfies .validator outer value ↔
      (∃ fields : Fields, value = .obj fields) ∧ Satisfies .validator inner value := by
  refine satisfies_iff_of_contractual typed.objects typed.same_but ?_ (typed.contractual_iff value)
  intro argument _ name
  have properties := typed.member? (show "properties" ∉ ["type", "default"] by decide)
  have patterns := typed.member? (show "patternProperties" ∉ ["type", "default"] by decide)
  simp only [Keyword.Declares, properties, patterns]

theorem Contracted.same_but (contracted : Contracted inner outer) :
    ∀ keyword ∉ contractual, outer.field? keyword = inner.field? keyword := by
  intro keyword ordinary
  refine contracted.same keyword fun listed => ordinary ?_
  simp only [List.mem_cons, List.not_mem_nil, or_false] at listed
  rcases listed with rfl | rfl | rfl <;> decide

theorem Contracted.closed (contracted : Contracted inner outer) :
    outer.field? "additionalProperties" = none := by
  rw [contracted.same _ (by decide)]
  exact contracted.left _ (by decide)

theorem Contracted.required_iff (contracted : Contracted inner outer) (fields : Fields) :
    (∀ argument, outer.field? "required" = some argument → ∀ name ∈ argument.items.filterMap
      Json.text?, (Assertion.required name).holds (.obj fields) = true) ↔
      ∀ ns : Namespace, ∃ part, fields.get? ns.key = some part := by
  rw [contracted.required]
  simp only [Option.some.injEq, forall_eq', Json.items, List.filterMap_map, Assertion.holds,
    Assertion.onFields, Fields.has_eq_true_iff]
  constructor
  · intro each ns
    refine each ns.key ?_
    exact List.mem_filterMap.mpr ⟨ns, Namespace.mem_all ns, rfl⟩
  · intro each name listed
    obtain ⟨ns, _, named⟩ := List.mem_filterMap.mp listed
    cases Option.some.inj named
    exact each ns

theorem satisfies_getD_iff {schema : Option Json} {value : Json} :
    Satisfies .validator (schema.getD (.obj [])) value ↔
      ∀ s, schema = some s → Satisfies .validator s value := by
  cases schema with
  | none =>
    have nothing : Satisfies .validator (.obj []) value :=
      Constraint.satisfies_of_no_field value (fun _ => rfl) (by simp)
    simp [nothing]
  | some s => simp

theorem Contracted.namespace_iff (contracted : Contracted inner outer) (ns : Namespace)
    (part : Json) :
    (∀ s, outer.member? "properties" ns.key = some s → Satisfies .validator s part) ↔
      (∃ fields : Fields, part = .obj fields) ∧
        ∀ s, inner.member? "properties" ns.key = some s → Satisfies .validator s part := by
  obtain ⟨above, named, typed⟩ := contracted.namespaces ns
  rw [← satisfies_getD_iff, ← satisfies_getD_iff, named]
  exact typed.satisfies_iff part

theorem Contracted.contractual_iff (contracted : Contracted inner outer) (fields : Fields) :
    MeetsContractual outer (.obj fields) ↔
      (∀ ns : Namespace, ∃ inside : Fields, fields.get? ns.key = some (.obj inside)) ∧
        MeetsContractual inner (.obj fields) := by
  constructor
  · intro meets
    have present := (contracted.required_iff fields).mp meets.required
    have split : ∀ (ns : Namespace) part, fields.get? ns.key = some part →
        (∃ inside : Fields, part = .obj inside) ∧
          ∀ s, inner.member? "properties" ns.key = some s → Satisfies .validator s part :=
      fun ns part found => (contracted.namespace_iff ns part).mp fun s named =>
        meets.properties ns.key s named part found
    refine ⟨fun ns => ?_, ?_, ?_, ?_⟩
    · obtain ⟨part, found⟩ := present ns
      obtain ⟨⟨inside, rfl⟩, _⟩ := split ns part found
      exact ⟨inside, found⟩
    · simp [contracted.left "type" (by decide)]
    · simp [contracted.left "required" (by decide)]
    · intro name s named part found
      by_cases reserved : ∃ ns : Namespace, ns.key = name
      · obtain ⟨ns, rfl⟩ := reserved
        exact (split ns part found).2 s named
      · rw [← contracted.others name (by simpa using reserved)] at named
        exact meets.properties name s named part found
  · rintro ⟨namespaces, meets⟩
    constructor
    · intro argument found
      cases Option.some.inj (contracted.typed.symm.trans found)
      exact (types_object_iff _).mpr ⟨fields, rfl⟩
    · refine (contracted.required_iff fields).mpr fun ns => ?_
      obtain ⟨inside, found⟩ := namespaces ns
      exact ⟨_, found⟩
    · intro name s named part found
      by_cases reserved : ∃ ns : Namespace, ns.key = name
      · obtain ⟨ns, rfl⟩ := reserved
        obtain ⟨inside, supplied⟩ := namespaces ns
        have isObject : ∃ inside : Fields, part = .obj inside :=
          ⟨inside, Option.some.inj (found.symm.trans supplied)⟩
        exact (contracted.namespace_iff ns part).mpr
          ⟨isObject, fun s known => meets.properties _ s known part found⟩ s named
      · rw [contracted.others name (by simpa using reserved)] at named
        exact meets.properties name s named part found

/-- The outer schema asks for an object with an object for each namespace, and for what the inner
one asks. -/
theorem Contracted.satisfies_iff (contracted : Contracted inner outer) (fields : Fields) :
    Satisfies .validator outer (.obj fields) ↔
      (∀ ns : Namespace, ∃ inside : Fields, fields.get? ns.key = some (.obj inside)) ∧
      Satisfies .validator inner (.obj fields) := by
  refine satisfies_iff_of_contractual contracted.objects contracted.same_but ?_
    (contracted.contractual_iff fields)
  simp [contracted.closed]

section Admission

theorem base_accepted : MetaSchema.document.accepts (.obj base) = true := by decide +kernel

theorem usable_type (fields : Fields) : Usable fields "type" (.str "object") where
  permitted := (MetaSchema.accepts_obj_iff base).mp base_accepted _ _ rfl
  compiles := ⟨_, rfl⟩

theorem usable_required (fields : Fields) :
    Usable fields "required" (.arr (Namespace.all.map fun ns => .str ns.key)) where
  permitted := (MetaSchema.accepts_obj_iff base).mp base_accepted _ _ rfl
  compiles := ⟨_, rfl⟩

/-- No keyword looks at these keywords, but for the one about the properties that have none. -/
theorem siblingsOf_cases {keyword other : String} (beside : other ∈ Keyword.siblingsOf keyword) :
    other ∉ contractual ∨ (keyword = "additionalProperties" ∧ other = "properties") := by
  unfold Keyword.siblingsOf at beside
  split at beside <;> simp only [List.mem_cons, List.not_mem_nil, or_false] at beside
  iterate 4
    subst beside
    exact .inl (by decide)
  · rcases beside with rfl | rfl
    · exact .inr ⟨rfl, rfl⟩
    · exact .inl (by decide)
  · subst beside
    exact .inl (by decide)
  · rcases beside with rfl | rfl <;> exact .inl (by decide)

/-- A schema is taken for use that differs in some of the four keywords from one that is, if their
values can stand there. -/
theorem admissible_of_same {changed : List String} {fields others : Fields}
    (nodup : (fields.map (·.1)).Nodup) (nodupOthers : (others.map (·.1)).Nodup)
    (free : fields.get? "$ref" = none) (among : ∀ keyword ∈ changed, keyword ∈ contractual)
    (same : ∀ keyword ∉ changed, fields.get? keyword = others.get? keyword)
    (declared : "properties" ∉ changed ∨ others.get? "additionalProperties" = none)
    (usable : ∀ keyword ∈ changed, ∀ argument, others.get? keyword = some argument →
      Usable others keyword argument)
    (admissible : Admissible (.obj fields)) : Admissible (.obj others) := by
  have kept : ∀ keyword ∉ contractual, fields.get? keyword = others.get? keyword :=
    fun keyword ordinary => same keyword fun listed => ordinary (among keyword listed)
  have freeToo : others.get? "$ref" = none := (kept _ (by decide)).symm.trans free
  rw [admissible_obj_iff nodup free] at admissible
  rw [admissible_obj_iff nodupOthers freeToo]
  intro keyword argument found
  by_cases listed : keyword ∈ changed
  · exact usable keyword listed argument found
  · have before := (same keyword listed).trans found
    refine (admissible keyword argument before).congr fun other beside => ?_
    rcases siblingsOf_cases beside with unrelated | ⟨rfl, rfl⟩
    · exact kept other unrelated
    · rcases declared with untouched | absent
      · exact same _ untouched
      · rw [absent] at found
        cases found

variable (unique : inner.DistinctKeys) (uniqueOuter : outer.DistinctKeys)

include unique uniqueOuter

theorem Typed.admissible_iff (typed : Typed inner outer) (free : inner.field? "$ref" = none) :
    Admissible outer ↔ Admissible inner := by
  obtain ⟨⟨⟨below, rfl⟩, above, rfl⟩, untyped, typed, same⟩ := typed
  have freeOuter : above.get? "$ref" = none := (same _ (by decide)).trans free
  have among : ∀ keyword ∈ ["type", "default"], keyword ∈ contractual := by decide
  constructor
  · refine admissible_of_same uniqueOuter.names unique.names freeOuter among same
      (.inl (by decide)) ?_
    intro keyword listed argument found
    simp only [List.mem_cons, List.not_mem_nil, or_false] at listed
    rcases listed with rfl | rfl
    · cases untyped.symm.trans found
    · exact usable_default below argument
  · refine admissible_of_same unique.names uniqueOuter.names free among
      (fun keyword other => (same keyword other).symm) (.inl (by decide)) ?_
    intro keyword listed argument found
    simp only [List.mem_cons, List.not_mem_nil, or_false] at listed
    rcases listed with rfl | rfl
    · cases Option.some.inj (typed.symm.trans found)
      exact usable_type above
    · exact usable_default above argument

theorem Contracted.members_admissible_iff (contracted : Contracted inner outer)
    (free : ReferenceFree inner) :
    (∀ name s, outer.member? "properties" name = some s → Admissible s) ↔
      ∀ name s, inner.member? "properties" name = some s → Admissible s := by
  have empty : Admissible (.obj []) := by
    rw [admissible_obj_iff (by simp) rfl]
    exact fun keyword argument found => nomatch found
  have ofNamespace : ∀ (ns : Namespace) above, outer.member? "properties" ns.key = some above →
      (Admissible above ↔ ∀ s, inner.member? "properties" ns.key = some s → Admissible s) := by
    intro ns above found
    obtain ⟨other, here, typed⟩ := contracted.namespaces ns
    cases Option.some.inj (here.symm.trans found)
    cases present : inner.member? "properties" ns.key with
    | none =>
      rw [present] at typed
      have noKeys : (Json.obj []).DistinctKeys := by
        simp [Json.DistinctKeys, Json.DistinctKeysUnder]
      simp [typed.admissible_iff noKeys (uniqueOuter.ofMember found) rfl, empty]
    | some s =>
      rw [present] at typed
      have inside := typed.admissible_iff (unique.ofMember present) (uniqueOuter.ofMember found)
        (free.member (by decide) present).here
      simpa using inside
  constructor
  · intro each name s found
    by_cases reserved : ∃ ns : Namespace, ns.key = name
    · obtain ⟨ns, rfl⟩ := reserved
      obtain ⟨above, here, _⟩ := contracted.namespaces ns
      exact (ofNamespace ns above here).mp (each _ above here) s found
    · exact each name s ((contracted.others name (by simpa using reserved)).trans found)
  · intro each name s found
    by_cases reserved : ∃ ns : Namespace, ns.key = name
    · obtain ⟨ns, rfl⟩ := reserved
      exact (ofNamespace ns s found).mpr fun below known => each _ below known
    · exact each name s ((contracted.others name (by simpa using reserved)).symm.trans found)

theorem Contracted.admissible_iff (contracted : Contracted inner outer)
    (free : ReferenceFree inner) : Admissible outer ↔ Admissible inner := by
  have members := contracted.members_admissible_iff unique uniqueOuter free
  have closed := contracted.closed
  obtain ⟨⟨⟨below, rfl⟩, above, rfl⟩, left, typed, required, same, inside, outside, -, -⟩ :=
    contracted
  obtain ⟨outerMembers, outerFound⟩ := outside
  have freeOuter : above.get? "$ref" = none := (same _ (by decide)).trans free.here
  have among : ∀ keyword ∈ ["type", "required", "properties"], keyword ∈ contractual := by decide
  have ofOuter : ∀ name, (Json.obj above).member? "properties" name = outerMembers.get? name :=
    Constraint.member?_of_obj outerFound
  have nodupOuter := (uniqueOuter.field outerFound).names
  constructor
  · intro admissible
    refine admissible_of_same uniqueOuter.names unique.names freeOuter among same
      (.inr (left _ (by decide))) ?_ admissible
    intro keyword listed argument found
    simp only [List.mem_cons, List.not_mem_nil, or_false] at listed
    rcases listed with rfl | rfl | rfl
    · cases (left "type" (by decide)).symm.trans found
    · cases (left "required" (by decide)).symm.trans found
    · obtain ⟨innerMembers, rfl⟩ := inside argument found
      rw [admissible_obj_iff uniqueOuter.names freeOuter] at admissible
      have usable := (usable_properties_iff nodupOuter closed).mp (admissible _ _ outerFound)
      rw [usable_properties_iff (unique.field found).names (left _ (by decide))]
      intro name s named
      refine members.mp (fun name s known => usable name s ?_) name s ?_
      · exact (ofOuter name).symm.trans known
      · exact (Constraint.member?_of_obj found name).trans named
  · intro admissible
    refine admissible_of_same unique.names uniqueOuter.names free.here among
      (fun keyword other => (same keyword other).symm) (.inr closed) ?_ admissible
    intro keyword listed argument found
    simp only [List.mem_cons, List.not_mem_nil, or_false] at listed
    rcases listed with rfl | rfl | rfl
    · cases Option.some.inj (typed.symm.trans found)
      exact usable_type above
    · cases Option.some.inj (required.symm.trans found)
      exact usable_required above
    · cases Option.some.inj (outerFound.symm.trans found)
      rw [usable_properties_iff nodupOuter closed]
      intro name s named
      refine members.mpr (fun name s known => ?_) name s ((ofOuter name).trans named)
      obtain ⟨innerMembers, under, here⟩ := (Json.member?_eq_some_iff _ _ _ _).mp known
      rw [admissible_obj_iff unique.names free.here] at admissible
      exact (usable_properties_iff (unique.field under).names (left _ (by decide))).mp
        (admissible _ _ under) name s here

end Admission

section References

theorem Typed.referenceFree (typed : Typed inner outer) (free : ReferenceFree inner) :
    ReferenceFree outer := by
  refine .intro ?_ fun keyword argument s found listed => ?_
  · rw [typed.same _ (by decide)]
    exact free.here
  · by_cases data : keyword ∈ ["type", "default"]
    · have nowhere : ∀ k ∈ ["type", "default"], SchemaPlace.ofKeyword k = .nowhere := by decide
      rw [schemasUnder_nowhere (nowhere keyword data)] at listed
      cases listed
    · exact free.inside ((typed.same keyword data).symm.trans found) listed

theorem referenceFree_empty : ReferenceFree (.obj []) :=
  .intro rfl fun _ _ _ found => nomatch found

theorem Contracted.referenceFree (contracted : Contracted inner outer) (unique : outer.DistinctKeys)
    (free : ReferenceFree inner) : ReferenceFree outer := by
  refine .intro ?_ fun keyword argument s found listed => ?_
  · rw [contracted.same _ (by decide)]
    exact free.here
  · by_cases changed : keyword ∈ ["type", "required", "properties"]
    · simp only [List.mem_cons, List.not_mem_nil, or_false] at changed
      rcases changed with rfl | rfl | rfl
      · rw [schemasUnder_nowhere (by decide)] at listed
        cases listed
      · rw [schemasUnder_nowhere (by decide)] at listed
        cases listed
      · obtain ⟨members, under⟩ := contracted.outside
        cases Option.some.inj (under.symm.trans found)
        obtain ⟨⟨name, _⟩, member, rfl⟩ := List.mem_map.mp listed
        have named : outer.member? "properties" name = some _ :=
          (Json.member?_eq_some_iff _ _ _ _).mpr
            ⟨members, under, Fields.get?_of_mem (unique.field under).names member⟩
        by_cases reserved : ∃ ns : Namespace, ns.key = name
        · obtain ⟨ns, rfl⟩ := reserved
          obtain ⟨above, here, typed⟩ := contracted.namespaces ns
          cases Option.some.inj (here.symm.trans named)
          refine typed.referenceFree ?_
          cases present : inner.member? "properties" ns.key with
          | none => exact referenceFree_empty
          | some s => exact free.member (by decide) present
        · rw [contracted.others name (by simpa using reserved)] at named
          exact free.member (by decide) named
    · exact free.inside ((contracted.same keyword changed).symm.trans found) listed

end References

end Contract

end AccessRules
