import Mathlib.Logic.Equiv.Fin.Basic
import AccessRules.Proofs.Schema.Combinators
import AccessRules.Proofs.Schema.Comparisons

/-!
The order of fields is no part of what a schema says. Everything that a schema asks is asked under
the names of its keywords, and of the parts of a value by name or place. So a schema and a value can
both have their fields in another order, unless the schema compares objects.
-/

namespace AccessRules

def SatisfiedAlike (schema other : Json) : Prop :=
  ∀ value otherValue, Reordered value otherValue →
    (Satisfies .validator schema value ↔ Satisfies .validator other otherValue)

structure SayAlike (schema other : Json) : Prop where
  same : Reordered schema other
  asserted : ∀ {keyword : String} {argument otherArgument : Json},
    schema.field? keyword = some argument → other.field? keyword = some otherArgument →
    Keyword.assertions schema keyword argument =
      Keyword.assertions other keyword otherArgument ∧
    ∀ a ∈ Keyword.assertions schema keyword argument, a.ComparesFlat
  inside : ∀ {keyword : String} {argument otherArgument s t : Json},
    schema.field? keyword = some argument → other.field? keyword = some otherArgument →
    s ∈ schemasUnder keyword argument → t ∈ schemasUnder keyword otherArgument →
    Reordered s t → SatisfiedAlike s t

namespace SayAlike

variable {schema other : Json}

theorem symm (alike : SayAlike schema other) : SayAlike other schema where
  same := alike.same.symm
  asserted := by
    intro keyword argument otherArgument found otherFound
    obtain ⟨equal, flat⟩ := alike.asserted otherFound found
    exact ⟨equal.symm, equal ▸ flat⟩
  inside := by
    intro keyword argument otherArgument s t found otherFound listed otherListed related value
      otherValue values
    exact (alike.inside otherFound found otherListed listed related.symm _ _ values.symm).symm

section Parts

variable (alike : SayAlike schema other) {keyword : String}

include alike

theorem listed (place : SchemaPlace.ofKeyword keyword ∈ [.negated, .oneOrMany, .listed])
    {ss : List Json} (found : schema.field? keyword = some (.arr ss)) :
    ∃ others, other.field? keyword = some (.arr others) ∧
      List.Forall₂ SatisfiedAlike ss others := by
  obtain ⟨argument, there, related⟩ := exists_of_related (alike.same.field? keyword) found
  cases related with
  | @arr _ others length each =>
    refine ⟨others, there, List.forall₂_iff_get.mpr ⟨length, fun i here otherHere => ?_⟩⟩
    have related := each i _ _ (List.getElem?_eq_getElem here) (List.getElem?_eq_getElem otherHere)
    refine alike.inside found there ?_ ?_ related
    · rw [schemasUnder_listed place]
      exact List.getElem_mem here
    · rw [schemasUnder_listed place]
      exact List.getElem_mem otherHere

theorem single (place : SchemaPlace.ofKeyword keyword ∈ [.negated, .oneOrMany, .single])
    {s : Json} (found : schema.field? keyword = some s) :
    ∃ t, other.field? keyword = some t ∧ Reordered s t ∧ SatisfiedAlike s t := by
  obtain ⟨t, there, related⟩ := exists_of_related (alike.same.field? keyword) found
  refine ⟨t, there, related, ?_⟩
  by_cases isList : ∃ ss, s = .arr ss
  · obtain ⟨ss, rfl⟩ := isList
    cases related with
    | arr length each =>
      intro value otherValue _
      exact iff_of_true (Constraint.satisfies_of_no_object value (by simp) (by simp))
        (Constraint.satisfies_of_no_object otherValue (by simp) (by simp))
  · have alone : ∀ ss, s ≠ .arr ss := fun ss equal => isList ⟨ss, equal⟩
    have otherAlone : ∀ ss, t ≠ .arr ss := by
      cases related <;> simp_all
    exact alike.inside found there (mem_schemasUnder_self alone place)
      (mem_schemasUnder_self otherAlone place) related

theorem member (place : SchemaPlace.ofKeyword keyword = .named) {name : String} {s : Json}
    (found : schema.member? keyword name = some s) :
    ∃ t, other.member? keyword name = some t ∧ Reordered s t ∧ SatisfiedAlike s t := by
  obtain ⟨t, there, related⟩ := exists_of_related (alike.same.member? keyword name) found
  refine ⟨t, there, related, ?_⟩
  obtain ⟨members, under, named⟩ := (Json.member?_eq_some_iff _ _ _ _).mp found
  obtain ⟨otherMembers, otherUnder, otherNamed⟩ := (Json.member?_eq_some_iff _ _ _ _).mp there
  refine alike.inside under otherUnder ?_ ?_ related
  · rw [schemasUnder, place]
    exact List.mem_map.mpr ⟨(name, s), Fields.mem_of_get? named, rfl⟩
  · rw [schemasUnder, place]
    exact List.mem_map.mpr ⟨(name, t), Fields.mem_of_get? otherNamed, rfl⟩

theorem declares {name : String} (declared : Keyword.Declares .validator schema name) :
    Keyword.Declares .validator other name := by
  rcases declared with ⟨s, found⟩ | ⟨expression, s, found, hit⟩
  · obtain ⟨t, there, _⟩ := exists_of_related (alike.same.member? _ _) found
    exact .inl ⟨t, there⟩
  · obtain ⟨t, there, _⟩ := exists_of_related (alike.same.member? _ _) found
    exact .inr ⟨expression, t, there, hit⟩

end Parts

variable {value otherValue : Json}

theorem meets (alike : SayAlike schema other) (values : Reordered value otherValue)
    (meets : Meets .validator schema value fun s _ part => Satisfies .validator s part) :
    Meets .validator other otherValue fun s _ part => Satisfies .validator s part := by
  have back := alike.symm
  have part? : ∀ {name part}, otherValue.field? name = some part →
      ∃ old, value.field? name = some old ∧ Reordered old part := by
    intro name part present
    obtain ⟨old, here, related⟩ := exists_of_related (values.symm.field? name) present
    exact ⟨old, here, related.symm⟩
  have item? : ∀ {i : Nat} {part}, otherValue.items[i]? = some part →
      ∃ old, value.items[i]? = some old ∧ Reordered old part := by
    intro i part present
    obtain ⟨old, here, related⟩ := exists_of_related (values.items.symm.item? i) present
    exact ⟨old, here, related.symm⟩
  constructor
  case notFalse =>
    rw [ne_eq, ← alike.same.eq_bool_iff]
    exact meets.notFalse
  case asserted =>
    intro keyword argument found a listed
    obtain ⟨old, here, _⟩ := exists_of_related (back.same.field? keyword) found
    obtain ⟨equal, flat⟩ := alike.asserted here found
    rw [← equal] at listed
    rw [← meets.asserted keyword old here a listed]
    exact (Assertion.holds_reordered (flat a listed) values).symm
  case allOf =>
    intro ss found s listed
    obtain ⟨olds, here, pairs⟩ := back.listed (by decide) found
    obtain ⟨old, member, same⟩ := exists_mem_of_forall₂ pairs listed
    exact (same _ _ values.symm).mpr (meets.allOf olds here old member)
  case anyOf =>
    intro ss found
    obtain ⟨olds, here, _⟩ := back.listed (by decide) found
    obtain ⟨old, member, holds⟩ := meets.anyOf olds here
    obtain ⟨others, there, pairs⟩ := alike.listed (by decide) here
    cases Option.some.inj (there.symm.trans found)
    obtain ⟨s, listed, same⟩ := exists_mem_of_forall₂ pairs member
    exact ⟨s, listed, (same _ _ values).mp holds⟩
  case oneOf =>
    intro ss found
    obtain ⟨olds, here, pairs⟩ := back.listed (by decide) found
    refine (Equiv.existsUnique_congr (finCongr pairs.length_eq) fun i => ?_).mpr
      (meets.oneOf olds here)
    exact pairs.get i.isLt (pairs.length_eq ▸ i.isLt) _ _ values.symm
  case noneOf =>
    intro ss found s listed holds
    obtain ⟨olds, here, pairs⟩ := back.listed (by decide) found
    obtain ⟨old, member, same⟩ := exists_mem_of_forall₂ pairs listed
    exact meets.noneOf olds here old member ((same _ _ values.symm).mp holds)
  case negated =>
    intro s found alone holds
    obtain ⟨old, here, related, same⟩ := back.single (by decide) found
    refine meets.negated old here ?_ ((same _ _ values.symm).mp holds)
    cases related <;> simp_all
  case whenMet =>
    intro test asked s found holds
    obtain ⟨oldTest, oldAsked, _, sameTest⟩ := back.single (by decide) asked
    obtain ⟨old, here, _, same⟩ := back.single (by decide) found
    have met := meets.whenMet oldTest oldAsked old here ((sameTest _ _ values.symm).mp holds)
    exact (same _ _ values.symm).mpr met
  case otherwise =>
    intro test asked s found fails
    obtain ⟨oldTest, oldAsked, _, sameTest⟩ := back.single (by decide) asked
    obtain ⟨old, here, _, same⟩ := back.single (by decide) found
    have met := meets.otherwise oldTest oldAsked old here
      fun holds => fails ((sameTest _ _ values.symm).mpr holds)
    exact (same _ _ values.symm).mpr met
  case properties =>
    intro name s found part present
    obtain ⟨old, here, _, same⟩ := back.member (by decide) found
    obtain ⟨oldPart, inside, related⟩ := part? present
    exact (same _ _ related.symm).mpr (meets.properties name old here oldPart inside)
  case patternProperties =>
    intro expression s found name part present hit
    obtain ⟨old, here, _, same⟩ := back.member (by decide) found
    obtain ⟨oldPart, inside, related⟩ := part? present
    exact (same _ _ related.symm).mpr
      (meets.patternProperties expression old here name oldPart inside hit)
  case additionalProperties =>
    intro s found name part present undeclared
    obtain ⟨old, here, _, same⟩ := back.single (by decide) found
    obtain ⟨oldPart, inside, related⟩ := part? present
    exact (same _ _ related.symm).mpr
      (meets.additionalProperties old here name oldPart inside (mt alike.declares undeclared))
  case propertyNames =>
    intro s found name part present
    obtain ⟨old, here, _, same⟩ := back.single (by decide) found
    obtain ⟨oldPart, inside, _⟩ := part? present
    exact (same _ _ (.str name)).mpr (meets.propertyNames old here name oldPart inside)
  case dependencies =>
    intro name s found part present
    obtain ⟨old, here, _, same⟩ := back.member (by decide) found
    obtain ⟨oldPart, inside, _⟩ := part? present
    exact (same _ _ values.symm).mpr (meets.dependencies name old here oldPart inside)
  case dependentNames =>
    intro name s found part present names isList needed listed
    subst isList
    obtain ⟨old, here, related, _⟩ := back.member (by decide) found
    obtain ⟨oldPart, inside, _⟩ := part? present
    cases related with
    | @arr _ oldNames length each =>
      have pairs := (Reordered.forall₂_iff _ _).mp (.arr length each)
      obtain ⟨oldNeeded, member, text⟩ := exists_mem_of_forall₂ pairs listed
      cases text
      obtain ⟨given, supplied⟩ :=
        meets.dependentNames name _ here oldPart inside oldNames rfl needed member
      obtain ⟨part, there, _⟩ := exists_of_related (values.field? needed) supplied
      exact ⟨part, there⟩
  case items =>
    intro s found part listed
    obtain ⟨old, here, _, same⟩ := back.single (by decide) found
    obtain ⟨i, present⟩ := List.mem_iff_getElem?.mp listed
    obtain ⟨oldPart, inside, related⟩ := item? present
    exact (same _ _ related.symm).mpr
      (meets.items old here oldPart (List.mem_of_getElem? inside))
  case tuple =>
    intro ss found i s listed part present
    obtain ⟨olds, here, pairs⟩ := back.listed (by decide) found
    obtain ⟨old, there, same⟩ := exists_getElem?_of_forall₂ pairs listed
    obtain ⟨oldPart, inside, related⟩ := item? present
    exact (same _ _ related.symm).mpr (meets.tuple olds here i old there oldPart inside)
  case additionalItems =>
    intro ss beside s found part listed
    obtain ⟨olds, oldBeside, pairs⟩ := back.listed (by decide) beside
    obtain ⟨old, here, _, same⟩ := back.single (by decide) found
    obtain ⟨i, present⟩ := List.mem_iff_getElem?.mp listed
    rw [List.getElem?_drop, pairs.length_eq] at present
    obtain ⟨oldPart, inside, related⟩ := item? present
    rw [← List.getElem?_drop] at inside
    exact (same _ _ related.symm).mpr
      (meets.additionalItems olds oldBeside old here oldPart (List.mem_of_getElem? inside))
  case noAdditionalItems =>
    intro s found beside
    obtain ⟨old, here, _⟩ := exists_of_related (back.same.field? _) found
    obtain ⟨items, oldBeside, related⟩ := exists_of_related (back.same.field? _) beside
    cases related with
    | bool value => exact meets.noAdditionalItems old here oldBeside
  case contains =>
    intro s found items isArray
    subst isArray
    obtain ⟨old, here, _, same⟩ := back.single (by decide) found
    cases values with
    | @arr olds _ length each =>
      have pairs := (Reordered.forall₂_iff _ _).mp (.arr length each)
      obtain ⟨oldPart, inside, holds⟩ := meets.contains old here olds rfl
      obtain ⟨part, listed, related⟩ := exists_mem_of_forall₂ pairs inside
      exact ⟨part, listed, (same _ _ related.symm).mpr holds⟩

end SayAlike

theorem satisfies_reordered {schema other : Json} (same : Reordered schema other)
    (plain : Everywhere ComparesNoObjects schema) : SatisfiedAlike schema other := by
  induction plain generalizing other with
  | @intro schema here inside ih =>
    have alike : SayAlike schema other := by
      refine ⟨same, ?_, ?_⟩
      · intro keyword argument otherArgument found otherFound
        have related := same.field? keyword
        rw [found, otherFound] at related
        have equal := Keyword.assertions_reordered same here found (Option.rel_some_some.mp related)
        exact ⟨equal, here keyword argument found⟩
      · intro keyword argument otherArgument s t found otherFound listed otherListed related
        exact ih keyword argument s found listed related
    intro value otherValue values
    rw [satisfies_iff, satisfies_iff]
    exact ⟨alike.meets values, alike.symm.meets values.symm⟩

theorem schemasUnder_reordered {keyword : String} {argument other t : Json}
    (same : Reordered argument other) (distinct : argument.DistinctKeys)
    (listed : t ∈ schemasUnder keyword other) :
    ∃ s ∈ schemasUnder keyword argument, Reordered s t := by
  have otherDistinct := same.distinctKeys distinct
  unfold schemasUnder at listed ⊢
  generalize SchemaPlace.ofKeyword keyword = place at listed
  cases same with
  | @arr items others length each =>
    have both : Reordered (.arr items) (.arr others) := .arr length each
    cases place with
    | negated | oneOrMany | listed =>
      obtain ⟨i, there⟩ := List.mem_iff_getElem?.mp listed
      obtain ⟨s, here, related⟩ := exists_of_related (both.symm.item? i) there
      exact ⟨s, List.mem_of_getElem? here, related.symm⟩
    | single =>
      cases List.mem_singleton.mp listed
      exact ⟨_, List.mem_singleton_self _, both⟩
    | named | nowhere => cases listed
  | @obj members others names each =>
    have both : Reordered (.obj members) (.obj others) := .obj names each
    cases place with
    | negated | oneOrMany | single =>
      cases List.mem_singleton.mp listed
      exact ⟨_, List.mem_singleton_self _, both⟩
    | named =>
      obtain ⟨⟨name, t⟩, member, rfl⟩ := List.mem_map.mp listed
      have there := Fields.get?_of_mem otherDistinct.names member
      obtain ⟨s, here, related⟩ := exists_of_related (both.symm.get? name) there
      exact ⟨s, List.mem_map.mpr ⟨(name, s), Fields.mem_of_get? here, rfl⟩, related.symm⟩
    | listed | nowhere => cases listed
  | _ => exact ⟨t, listed, .refl t⟩

theorem Everywhere.reordered {property : Json → Prop}
    (blind : ∀ s t, Reordered s t → property s → property t) {schema other : Json}
    (everywhere : Everywhere property schema) (same : Reordered schema other)
    (distinct : schema.DistinctKeys) : Everywhere property other := by
  induction everywhere generalizing other with
  | @intro schema here inside ih =>
    refine .intro (blind schema other same here) fun keyword otherArgument t found listed => ?_
    obtain ⟨argument, there, related⟩ := exists_of_related (same.symm.field? keyword) found
    have unique := distinct.field there
    obtain ⟨s, member, alike⟩ := schemasUnder_reordered related.symm unique listed
    exact ih keyword argument s there member alike (distinctKeys_schemasUnder unique member)

theorem ReferenceFree.reordered {schema other : Json} (free : ReferenceFree schema)
    (same : Reordered schema other) (distinct : schema.DistinctKeys) : ReferenceFree other := by
  refine Everywhere.reordered (fun s t alike absent => ?_) free same distinct
  exact (none_iff_of_related (alike.field? "$ref")).mp absent

end AccessRules
