import AccessRules.Proofs.Schema.Properties

/-!
What a schema compiles to holds of exactly the values that satisfy the schema, if no schema inside
it is a reference.
-/

namespace AccessRules

namespace Constraint

variable {base : Url} {refs : String → Json → Bool}

section Keywords

variable {fields : Fields} {argument value : Json} {c : Constraint}

/-- The keyword-by-keyword form of a verdict: each keyword of the schema is compiled to something
that accepts the value. -/
def AllAccept (base : Url) (refs : String → Json → Bool) (fields : Fields) (value : Json) : Prop :=
  ∀ keyword argument, fields.get? keyword = some argument →
    ∃ part, ofField base fields keyword argument = .ok part ∧ accepts refs part value = true

theorem AllAccept.properties (accepted : AllAccept base refs fields value)
    (faithful : FaithfulParts base refs fields) (unique : (Json.obj fields).DistinctKeys)
    (distinct : value.DistinctKeys) {name : String} {part : Json}
    (present : value.field? name = some part) :
    PropertyMeets (.obj fields) ((fields.get? "additionalProperties").getD (.bool true)) name
      part := by
  rcases closes_cases base fields with ⟨opened, unrestricted⟩ | ⟨argument, found, restricts⟩
  · constructor
    · intro s known
      obtain ⟨members, found, named⟩ := Option.bind_eq_some_iff.mp known
      obtain ⟨c, read, met⟩ := accepted _ _ found
      have each := properties_iff read opened found faithful
        (unique.member (Fields.mem_of_get? found)) distinct
      exact each.mp met name s named part present
    · intro expression s listed hit
      obtain ⟨sources, found, named⟩ := Option.bind_eq_some_iff.mp listed
      obtain ⟨c, read, met⟩ := accepted _ _ found
      have each := patternProperties_iff read opened found faithful
        (unique.member (Fields.mem_of_get? found)) distinct
      exact each.mp met expression s named name part present hit
    · intro _
      cases found : fields.get? "additionalProperties" with
      | none => exact satisfies_of_no_object part (by simp) (by simp)
      | some argument =>
        have free := unrestricted argument found
        exact satisfies_of_no_object part (fun inside => (free inside).1) (free []).2
  · obtain ⟨c, read, met⟩ := accepted _ _ found
    have each := (additionalProperties_iff read found faithful unique distinct restricts).2
    rw [found]
    exact each.mp met name part present

theorem AllAccept.meets (accepted : AllAccept base refs fields value)
    (faithful : FaithfulParts base refs fields) (unique : (Json.obj fields).DistinctKeys)
    (distinct : value.DistinctKeys) :
    Meets .validator (.obj fields) value fun s _ part => Satisfies .validator s part := by
  have properties := fun name part (present : value.field? name = some part) =>
    accepted.properties faithful unique distinct present
  constructor
  case notFalse => simp
  case asserted =>
    intro keyword argument found a listed
    by_cases known : keyword ∈ Keyword.assertive
    · obtain ⟨c, read, met⟩ := accepted _ _ found
      exact (Keyword.compiled_asserts known read refs value).mp met a listed
    · simp [Keyword.assertions_eq_nil known] at listed
  case allOf =>
    intro ss found
    obtain ⟨c, read, met⟩ := accepted _ _ found
    exact (allOf_iff read (faithful _ _ found) distinct).mp met ss rfl
  case anyOf =>
    intro ss found
    obtain ⟨c, read, met⟩ := accepted _ _ found
    obtain ⟨s, listed, holds⟩ := (anyOf_iff read (faithful _ _ found) distinct).mp met ss rfl
    exact ⟨s, listed, holds⟩
  case oneOf =>
    intro ss found
    obtain ⟨c, read, met⟩ := accepted _ _ found
    exact (oneOf_iff read (faithful _ _ found) distinct).mp met ss rfl
  case noneOf =>
    intro ss found
    obtain ⟨c, read, met⟩ := accepted _ _ found
    exact absurd rfl ((not_iff read (faithful _ _ found) distinct).1 ss)
  case negated =>
    intro s found _
    obtain ⟨c, read, met⟩ := accepted _ _ found
    exact (not_iff read (faithful _ _ found) distinct).2.mp met
  case whenMet =>
    intro test asked s found
    obtain ⟨c, read, met⟩ := accepted _ _ asked
    exact ((if_iff read faithful asked distinct).mp met).1 s found
  case otherwise =>
    intro test asked s found
    obtain ⟨c, read, met⟩ := accepted _ _ asked
    exact ((if_iff read faithful asked distinct).mp met).2 s found
  case properties =>
    intro name s found part present
    exact (properties name part present).known s found
  case patternProperties =>
    intro expression s found name part present hit
    exact (properties name part present).matched expression s found hit
  case additionalProperties =>
    intro s found name part present undeclared
    have unknown := (properties name part present).unknown undeclared
    rwa [show fields.get? "additionalProperties" = some s from found] at unknown
  case propertyNames =>
    intro s found name part present
    obtain ⟨c, read, met⟩ := accepted _ _ found
    exact (propertyNames_iff read (faithful _ _ found) distinct).mp met name part present
  case dependencies =>
    intro name s found part present
    obtain ⟨members, under, named⟩ := Option.bind_eq_some_iff.mp found
    obtain ⟨c, read, met⟩ := accepted _ _ under
    have each := dependencies_iff read (faithful _ _ under)
      (unique.member (Fields.mem_of_get? under)) distinct
    exact (each.mp met name s named part present).1
  case dependentNames =>
    intro name s found part present
    obtain ⟨members, under, named⟩ := Option.bind_eq_some_iff.mp found
    obtain ⟨c, read, met⟩ := accepted _ _ under
    have each := dependencies_iff read (faithful _ _ under)
      (unique.member (Fields.mem_of_get? under)) distinct
    exact (each.mp met name s named part present).2
  case items =>
    intro s found
    obtain ⟨c, read, met⟩ := accepted _ _ found
    exact ((items_iff read (faithful _ _ found) distinct).mp met).1
  case tuple =>
    intro ss found i s listed part present
    obtain ⟨c, read, met⟩ := accepted _ _ found
    exact ((items_iff read (faithful _ _ found) distinct).mp met).2 ss i s part rfl listed present
  case additionalItems =>
    intro ss beside s found
    obtain ⟨c, read, met⟩ := accepted _ _ found
    exact ((additionalItems_iff read (faithful _ _ found) distinct).mp met).1 ss beside
  case noAdditionalItems =>
    intro s found beside
    obtain ⟨c, read, met⟩ := accepted _ _ found
    exact absurd beside ((additionalItems_iff read (faithful _ _ found) distinct).mp met).2
  case contains =>
    intro s found items isArray
    obtain ⟨c, read, met⟩ := accepted _ _ found
    exact (contains_iff read (faithful _ _ found) distinct).mp met items isArray

def applied : List String := ["properties", "patternProperties", "additionalProperties",
  "propertyNames", "items", "additionalItems", "contains", "dependencies", "allOf", "anyOf",
  "oneOf", "not", "if"]

theorem compile_unknown {keyword : String} (unasserted : keyword ∉ Keyword.assertive)
    (unapplied : keyword ∉ applied) (siblings : Readings) (r : Reading) :
    Keyword.compile siblings keyword r = Keyword.silent := by
  unfold Keyword.compile
  split <;> first
    | rfl
    | exact absurd (by decide) unasserted
    | exact absurd (by decide) unapplied

theorem accepts_of_meets
    (meets : Meets .validator (.obj fields) value fun s _ part => Satisfies .validator s part)
    (faithful : FaithfulParts base refs fields) (unique : (Json.obj fields).DistinctKeys)
    (distinct : value.DistinctKeys) {keyword : String}
    (found : fields.get? keyword = some argument)
    (read : ofField base fields keyword argument = .ok c) : accepts refs c value = true := by
  by_cases asserted : keyword ∈ Keyword.assertive
  · exact (Keyword.compiled_asserts asserted read refs value).mpr
      (meets.asserted keyword argument found)
  by_cases known : keyword ∈ applied
  · have inside := faithful keyword argument found
    have uniqueInside : argument.DistinctKeys := unique.member (Fields.mem_of_get? found)
    have member : ∀ name s, argument.field? name = some s →
        (Json.obj fields).member? keyword name = some s := by
      intro name s named
      simp only [Json.member?, Json.field?, found, Option.bind_some]
      exact named
    simp only [applied, List.mem_cons, List.not_mem_nil, or_false] at known
    rcases known with rfl | rfl | rfl | rfl | rfl | rfl | rfl | rfl | rfl | rfl | rfl | rfl | rfl
    · cases closed : Keyword.closesProperties (readingsOf base fields) with
      | true =>
        change Keyword.properties _ _ = _ at read
        rw [Keyword.properties, closed] at read
        exact accepts_of_silent read
      | false =>
        refine (properties_iff read closed found faithful uniqueInside distinct).mpr ?_
        exact fun name s named part present => meets.properties name s (member name s named)
          part present
    · cases closed : Keyword.closesProperties (readingsOf base fields) with
      | true =>
        change Keyword.patternProperties _ _ = _ at read
        rw [Keyword.patternProperties, closed] at read
        exact accepts_of_silent read
      | false =>
        refine (patternProperties_iff read closed found faithful uniqueInside distinct).mpr ?_
        exact fun expression s named name part present hit =>
          meets.patternProperties expression s (member expression s named) name part present hit
    · by_cases anything : argument = .bool true
      · subst anything
        change Keyword.additionalProperties (readingsOf base fields)
          (readingOf base "additionalProperties" (.bool true)) = _ at read
        simp only [Keyword.additionalProperties, bind_eq_ok_iff] at read
        obtain ⟨_, _, read⟩ := read
        exact accepts_of_silent read
      · refine (additionalProperties_iff read found faithful unique distinct anything).2.mpr ?_
        intro name part present
        exact {
          known := fun s named => meets.properties name s named part present
          matched := fun expression s named hit =>
            meets.patternProperties expression s named name part present hit
          unknown := fun undeclared =>
            meets.additionalProperties argument found name part present undeclared }
    · refine (propertyNames_iff read inside distinct).mpr ?_
      exact meets.propertyNames argument found
    · refine (items_iff read inside distinct).mpr ⟨?_, ?_⟩
      · exact meets.items argument found
      · rintro ss i s part rfl listed present
        exact meets.tuple ss found i s listed part present
    · refine (additionalItems_iff read inside distinct).mpr ⟨?_, ?_⟩
      · exact fun ss beside => meets.additionalItems ss beside argument found
      · intro beside
        have refused := meets.noAdditionalItems argument found beside
        simp [Dialect.validator] at refused
    · refine (contains_iff read inside distinct).mpr ?_
      exact meets.contains argument found
    · refine (dependencies_iff read inside uniqueInside distinct).mpr ?_
      intro name s named part present
      have known := member name s named
      exact ⟨meets.dependencies name s known part present,
        meets.dependentNames name s known part present⟩
    · refine (allOf_iff read inside distinct).mpr ?_
      rintro ss rfl
      exact meets.allOf ss found
    · refine (anyOf_iff read inside distinct).mpr ?_
      rintro ss rfl
      obtain ⟨s, listed, holds⟩ := meets.anyOf ss found
      exact ⟨s, listed, holds⟩
    · refine (oneOf_iff read inside distinct).mpr ?_
      rintro ss rfl
      exact meets.oneOf ss found
    · obtain ⟨single, means⟩ := not_iff read inside distinct
      exact means.mpr (meets.negated argument found single)
    · refine (if_iff read faithful found distinct).mpr ⟨?_, ?_⟩
      · exact meets.whenMet argument found
      · exact meets.otherwise argument found
  · have silent : ofField base fields keyword argument = Keyword.silent :=
      compile_unknown asserted known _ _
    rw [silent] at read
    exact accepts_of_silent read

theorem faithful_obj (unique : (Json.obj fields).DistinctKeys)
    (free : fields.get? "$ref" = none) (faithful : FaithfulParts base refs fields) :
    Faithful base refs (.obj fields) := by
  intro c spelled value distinct
  obtain ⟨parts, rfl, compiled⟩ := (spells_obj_iff (by simp [Fields.has, free]) c).mp spelled
  rw [satisfies_iff, accepts_every_iff compiled]
  constructor
  · intro accepted
    have all : AllAccept base refs fields value := by
      intro keyword argument found
      have listed := Fields.mem_of_get? found
      obtain ⟨part, read⟩ := exists_of_forall₂_mem compiled listed
      exact ⟨part, read, accepted _ listed part read⟩
    exact all.meets faithful unique distinct
  · intro meets field listed part read
    have found := Fields.get?_of_mem unique.names listed
    exact accepts_of_meets meets faithful unique distinct found read

end Keywords

/-- What a schema without references compiles to says what the schema says. -/
theorem faithful_of_referenceFree {schema : Json} (free : ReferenceFree schema)
    (unique : schema.DistinctKeys) : Faithful base refs schema := by
  induction free with
  | @intro schema here inside ih =>
    cases schema with
    | obj fields =>
      refine faithful_obj unique here fun keyword argument found s listed => ?_
      exact ih keyword argument s found listed
        (distinctKeys_schemasUnder (unique.member (Fields.mem_of_get? found)) listed)
    | bool allowed =>
      intro c spelled value _
      cases allowed <;> cases Except.ok.inj spelled
      · simp [accepts, not_satisfies_false]
      · have trivially : Satisfies .validator (.bool true) value :=
          satisfies_of_no_object value (by simp) (by simp)
        simp [always, accepts, acceptsAll, trivially]
    | _ =>
      intro c spelled
      simp [Spells, ofJson] at spelled

end Constraint

end AccessRules
