import Mathlib.Data.List.DropRight
import AccessRules.Proofs.Rule.Checking
import AccessRules.Proofs.Rule.Defaults

/-!
The checker of a lowered schema against the schema as it is written. The checker grants the
documents that satisfy the schema once the defaults are filled in, as the validator reads the
schema, and so as draft 7 does wherever the two read it alike.
-/

namespace AccessRules

theorem lowered_grants {schema document : Json} {checker : Checker}
    (unique : schema.DistinctKeys) (free : ReferenceFree schema)
    (compiled : Validator.jsonSchema.compile (Lowering.lower schema) = .ok checker)
    (distinct : document.DistinctKeys) : checker.Grants document ↔
      Satisfies .validator (Lowering.lower schema)
        (SchemaDefaults.apply (SchemaDefaults.ofSchema schema) document) := by
  obtain ⟨root, refs, spelled, grants⟩ := Validator.jsonSchema_of_ok compiled
  rw [grants, SchemaDefaults.ofSchema_lower]
  have faithful : Constraint.Faithful Url.unnamed refs (Lowering.lower schema) :=
    Constraint.faithful_of_referenceFree (Lowering.referenceFree_lower free)
      (Lowering.distinctKeys_lower unique)
  exact faithful root spelled _ (SchemaDefaults.distinctKeys_apply unique distinct)

theorem lowered_grants_of_agree {dialect : Dialect} {schema document : Json} {checker : Checker}
    (unique : schema.DistinctKeys) (free : ReferenceFree schema)
    (compiled : Validator.jsonSchema.compile (Lowering.lower schema) = .ok checker)
    (distinct : document.DistinctKeys)
    (agree : Everywhere (Lowering.AgreeOn .validator dialect) schema) :
    checker.Grants document ↔ Satisfies dialect schema
      (SchemaDefaults.apply (SchemaDefaults.ofSchema schema) document) := by
  rw [lowered_grants unique free compiled distinct]
  exact Lowering.satisfies_lower agree _

theorem lowered_grants_iff {schema document : Json} {checker : Checker}
    (unique : schema.DistinctKeys) (free : ReferenceFree schema)
    (compiled : Validator.jsonSchema.compile (Lowering.lower schema) = .ok checker)
    (distinct : document.DistinctKeys) : checker.Grants document ↔ Satisfies .validator schema
      (SchemaDefaults.apply (SchemaDefaults.ofSchema schema) document) :=
  lowered_grants_of_agree unique free compiled distinct (Lowering.agreeOn_self _ schema)

/-- The keywords that the validator reads in its own way, or that draft 7 leaves to others. -/
def peculiar : List String :=
  ["enum", "const", "uniqueItems", "multipleOf", "additionalItems", "pattern", "patternProperties",
    "format", "contentMediaType", "contentEncoding"]

theorem draft7_holds {schema : Json} {keyword : String} {argument : Json} {a : Assertion}
    (ordinary : keyword ∉ peculiar) (listed : a ∈ Keyword.assertions schema keyword argument)
    (standards : Standards) (value : Json) :
    (Dialect.draft7 standards).holds a value = a.holds value := by
  have own := Keyword.keyword_of_mem listed
  cases a with
  | options | constant | uniqueItems | multipleOf | pattern | format | jsonText | base64
  | base64OfJsonText =>
    subst own
    simp [peculiar, Assertion.keyword] at ordinary
  | _ => rfl

/-- None of the keywords on which dialects may differ stands in a schema, or in one inside it. -/
def Plain (schema : Json) : Prop :=
  Everywhere (fun s => ∀ keyword ∈ peculiar, s.field? keyword = none) schema

theorem agreeOn_of_absent {schema : Json}
    (absent : ∀ keyword ∈ peculiar, schema.field? keyword = none) (standards : Standards) :
    Lowering.AgreeOn .validator (.draft7 standards) schema := by
  constructor
  · intro keyword argument found a listed value
    have ordinary : keyword ∉ peculiar := by
      intro known
      simp [absent keyword known] at found
    exact (draft7_holds ordinary listed standards value).symm
  · intro expression s found
    simp [Json.member?, absent "patternProperties" (by decide)] at found
  · intro argument found
    simp [absent "additionalItems" (by decide)] at found

theorem Plain.agree {schema : Json} (plain : Plain schema) (standards : Standards) :
    Everywhere (Lowering.AgreeOn .validator (.draft7 standards)) schema := by
  induction plain with
  | intro absent _ ih => exact .intro (agreeOn_of_absent absent standards) ih

theorem plain_of_unmentioned {schema : Json}
    (unmentioned : ∀ keyword ∈ peculiar, schema.mentions keyword = false) : Plain schema :=
  everywhere_of_unmentioned unmentioned fun _ absent => absent

/-- The drafts in which some keywords have another meaning than in draft 7, or none. -/
def otherDrafts : List String :=
  ["http://json-schema.org/draft-04/schema", "http://json-schema.org/draft-06/schema",
    "https://json-schema.org/draft/2019-09/schema", "https://json-schema.org/draft/2020-12/schema"]

/-- The draft that a schema wants to be read in; an empty fragment may follow its name. -/
def draft? (schema : Json) : Option String :=
  ((schema.field? "$schema").bind Json.text?).map fun text =>
    String.ofList (text.toList.rdropWhile (· == '#'))

/-- No key stands twice in an object, nothing is referred to, and no other draft is asked for. -/
structure SelfContained (schema : Json) : Prop where
  unique : schema.DistinctKeys
  free : ReferenceFree schema
  -- constraints are made in draft 7 whatever a schema asks for, so that no proof needs this; a
  -- validator that knows another draft does not make them of a schema that asks for that one
  ownDraft : ∀ draft ∈ otherDrafts, draft? schema ≠ some draft

/-- A lowered schema that compiles accepts exactly the documents that satisfy the schema itself,
once they are filled: as the validator reads its keywords, and as draft 7 does, wherever the rest is
settled so that both read all schemas inside it alike. That is so of every schema that is plain. -/
theorem lowered_checker_iff_satisfies {schema document : Json} {checker : Checker}
    (contained : SelfContained schema)
    (compiled : Validator.jsonSchema.compile (Lowering.lower schema) = .ok checker)
    (distinct : document.DistinctKeys) :
    let filled := SchemaDefaults.apply (SchemaDefaults.ofSchema schema) document
    (checker.Grants document ↔ Satisfies .validator schema filled) ∧
    ∀ standards : Standards,
      (Everywhere (Lowering.AgreeOn .validator (.draft7 standards)) schema →
        (checker.Grants document ↔ Satisfies (.draft7 standards) schema filled)) ∧
      (Plain schema → (checker.Grants document ↔ Satisfies (.draft7 standards) schema filled)) := by
  intro filled
  obtain ⟨unique, free, -⟩ := contained
  refine ⟨lowered_grants_iff unique free compiled distinct, fun standards => ⟨?_, ?_⟩⟩
  · exact lowered_grants_of_agree unique free compiled distinct
  · intro plain
    exact lowered_grants_of_agree unique free compiled distinct (plain.agree standards)

def unbanned : Json := .obj [("$schema", .str "http://json-schema.org/draft-07/schema#"),
  ("properties", .obj [("subject", .obj [("not", .arr [
    .obj [("required", .arr [.str "banned"])], .obj [("type", .str "null")]])])])]

def visitor : Json := .obj [("subject", .obj [("name", .str "ada")])]

theorem lowered_checker_unbanned : ∃ checker,
    Validator.jsonSchema.compile (Lowering.lower unbanned) = .ok checker ∧
    (checker.Grants visitor ↔ Satisfies .validator unbanned visitor) ∧
    ∀ standards, checker.Grants visitor ↔ Satisfies (.draft7 standards) unbanned visitor := by
  obtain ⟨checker, compiled⟩ : ∃ checker,
      Validator.jsonSchema.compile (Lowering.lower unbanned) = .ok checker :=
    exists_ok_of_toBool (by decide +kernel)
  have unique : unbanned.DistinctKeys := by
    simp [unbanned, Json.DistinctKeys, Json.DistinctKeysIn, Json.DistinctKeysUnder]
  have distinct : visitor.DistinctKeys := by
    simp [visitor, Json.DistinctKeys, Json.DistinctKeysUnder]
  have contained : SelfContained unbanned :=
    ⟨unique, referenceFree_of_unmentioned (by decide), by decide +kernel⟩
  have plain : Plain unbanned := plain_of_unmentioned (by decide)
  have both := lowered_checker_iff_satisfies contained compiled distinct
  exact ⟨checker, compiled, both.1, fun standards => (both.2 standards).2 plain⟩

def oneOption : Json := .obj [("enum", .arr [.obj [("a", Json.int 1), ("b", Json.int 2)]])]

def reordered : Json := .obj [("b", Json.int 2), ("a", Json.int 1)]

theorem oneOption_draft7 (standards : Standards) :
    Satisfies (.draft7 standards) oneOption reordered := by
  have only : ∀ keyword, oneOption.field? keyword =
      if "enum" = keyword then some (.arr [.obj [("a", Json.int 1), ("b", Json.int 2)]])
        else none :=
    fun _ => rfl
  have equal : Json.equal (.obj [("a", Json.int 1), ("b", Json.int 2)]) reordered = true := by
    decide
  rw [satisfies_iff]
  constructor
  case notFalse => simp [oneOption]
  case asserted =>
    intro keyword argument found a listed
    rw [only] at found
    split at found
    · subst keyword
      cases found
      cases List.mem_singleton.mp listed
      simp [Dialect.draft7, Json.items, equal]
    · cases found
  all_goals simp [only, Json.member?]

/-- The validator tells an option from the same object with its fields in another order. Draft 7
does not, however the rest is settled. -/
theorem field_order_counts : ¬ ∃ standards : Standards,
    ∀ (schema document : Json) (checker : Checker), SelfContained schema →
      Validator.jsonSchema.compile (Lowering.lower schema) = .ok checker → document.DistinctKeys →
      (checker.Grants document ↔ Satisfies (.draft7 standards) schema
        (SchemaDefaults.apply (SchemaDefaults.ofSchema schema) document)) := by
  rintro ⟨standards, grantsAsDraft7⟩
  obtain ⟨checker, compiled⟩ : ∃ checker,
      Validator.jsonSchema.compile (Lowering.lower oneOption) = .ok checker :=
    exists_ok_of_toBool (by decide +kernel)
  have unique : oneOption.DistinctKeys := by
    simp [oneOption, Json.int, Json.DistinctKeys, Json.DistinctKeysIn, Json.DistinctKeysUnder]
  have distinct : reordered.DistinctKeys := by
    simp [reordered, Json.int, Json.DistinctKeys, Json.DistinctKeysUnder]
  have free : ReferenceFree oneOption := referenceFree_of_unmentioned (by decide)
  have contained : SelfContained oneOption := ⟨unique, free, by decide⟩
  have granted := (grantsAsDraft7 oneOption reordered checker contained compiled distinct).mpr
    (oneOption_draft7 standards)
  rw [lowered_grants_iff unique free compiled distinct, satisfies_iff] at granted
  have refused := granted.asserted "enum" _ rfl _ List.mem_cons_self
  revert refused
  decide

end AccessRules
