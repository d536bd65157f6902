import Mathlib.Logic.Equiv.Fin.Basic
import AccessRules.Proofs.Schema.Correctness

/-!
Lowering keeps the meaning of a schema. A list under `not` holds when no schema in it does, and so
does the one schema that is written in its place; everywhere else lowering changes nothing but what
stands where schemas stand.
-/

namespace AccessRules

namespace Lowering

theorem lowerItems_eq_map (items : List Json) : lowerItems items = items.map lower := by
  induction items with
  | nil => rfl
  | cons item rest ih => rw [lowerItems, ih, List.map_cons]

theorem lowerMembers_eq_map (members : Fields) :
    lowerMembers members = members.map fun m => (m.1, lower m.2) := by
  induction members with
  | nil => rfl
  | cons member rest ih =>
    obtain ⟨name, schema⟩ := member
    rw [lowerMembers, ih, List.map_cons]

def lowerAt : SchemaPlace → Json → Json
  | .negated, .arr ss => .obj [("anyOf", .arr (ss.map lower))]
  | .oneOrMany, .arr ss | .listed, .arr ss => .arr (ss.map lower)
  | .named, .obj members => .obj (members.map fun m => (m.1, lower m.2))
  | .negated, s | .oneOrMany, s | .single, s => lower s
  | _, value => value

def lowerValue (keyword : String) (value : Json) : Json :=
  lowerAt (SchemaPlace.ofKeyword keyword) value

theorem lowerFields_eq_map (fields : Fields) :
    lowerFields fields = fields.map fun f => (f.1, lowerValue f.1 f.2) := by
  induction fields with
  | nil => rfl
  | cons field rest ih =>
    obtain ⟨keyword, value⟩ := field
    rw [List.map_cons, ← ih, lowerValue]
    cases value <;> simp only [lowerFields, lowerItems_eq_map, lowerMembers_eq_map] <;>
      cases SchemaPlace.ofKeyword keyword <;> rfl

theorem field?_lower (schema : Json) (keyword : String) :
    (lower schema).field? keyword = (schema.field? keyword).map (lowerValue keyword) := by
  cases schema with
  | obj fields =>
    rw [lower, lowerFields_eq_map]
    exact Fields.get?_map fields lowerValue keyword
  | _ => rfl

section Places

variable {keyword : String}

theorem lowerValue_nowhere (place : SchemaPlace.ofKeyword keyword = .nowhere) (value : Json) :
    lowerValue keyword value = value := by
  rw [lowerValue, place]
  cases value <;> rfl

theorem lowerValue_eq_arr_iff (place : SchemaPlace.ofKeyword keyword ∈ [.oneOrMany, .listed])
    (value : Json) (ss : List Json) :
    lowerValue keyword value = .arr ss ↔ ∃ inside, value = .arr inside ∧ inside.map lower = ss := by
  simp only [List.mem_cons, List.not_mem_nil, or_false] at place
  rcases place with place | place <;> cases value <;>
    simp [lowerValue, place, lowerAt, lower]

theorem member?_lower (place : SchemaPlace.ofKeyword keyword = .named) (schema : Json)
    (name : String) :
    (lower schema).member? keyword name = (schema.member? keyword name).map lower := by
  rw [Json.member?, Json.member?, field?_lower]
  cases schema.field? keyword with
  | none => rfl
  | some value =>
    cases value with
    | obj members =>
      simp only [Option.map_some, Option.bind_some, lowerValue, place, lowerAt, Json.field?]
      exact Fields.get?_map members (fun _ => lower) name
    | _ => simp [lowerValue, place, lowerAt, Json.field?]

end Places

theorem assertions_lower (schema : Json) (keyword : String) (argument : Json) :
    Keyword.assertions (lower schema) keyword argument =
      Keyword.assertions schema keyword argument := by
  have encoding : (lower schema).field? "contentEncoding" = schema.field? "contentEncoding" := by
    rw [field?_lower]
    cases schema.field? "contentEncoding" <;> rfl
  have media : (lower schema).field? "contentMediaType" = schema.field? "contentMediaType" := by
    rw [field?_lower]
    cases schema.field? "contentMediaType" <;> rfl
  exact Keyword.assertions_congr encoding media keyword argument

/-- Two dialects read the keywords of the schema alike on which dialects may differ. -/
structure AgreeOn (dialect other : Dialect) (schema : Json) : Prop where
  holds : ∀ keyword argument, schema.field? keyword = some argument →
    ∀ a ∈ Keyword.assertions schema keyword argument, ∀ value,
      dialect.holds a value = other.holds a value
  occurs : ∀ expression s, schema.member? "patternProperties" expression = some s →
    ∀ name, dialect.occurs expression name = other.occurs expression name
  refusesItems : ∀ s, schema.field? "additionalItems" = some s →
    schema.field? "items" = some (.bool false) → dialect.refusesItems = other.refusesItems

theorem declares_lower {dialect other : Dialect} {schema : Json}
    (agree : AgreeOn dialect other schema) (name : String) :
    Keyword.Declares dialect (lower schema) name ↔ Keyword.Declares other schema name := by
  have properties := member?_lower (by decide : SchemaPlace.ofKeyword "properties" = .named) schema
  have patterns :=
    member?_lower (by decide : SchemaPlace.ofKeyword "patternProperties" = .named) schema
  simp only [Keyword.Declares, properties, patterns, Option.map_eq_some_iff]
  constructor
  · rintro (⟨_, s, found, _⟩ | ⟨expression, _, ⟨s, found, _⟩, hit⟩)
    · exact .inl ⟨s, found⟩
    · exact .inr ⟨expression, s, found, agree.occurs expression s found name ▸ hit⟩
  · rintro (⟨s, found⟩ | ⟨expression, s, found, hit⟩)
    · exact .inl ⟨_, s, found, rfl⟩
    · exact .inr ⟨expression, _, ⟨s, found, rfl⟩, (agree.occurs expression s found name).trans hit⟩

def KeepsParts (dialect other : Dialect) (schema : Json) : Prop :=
  ∀ keyword argument s, schema.field? keyword = some argument →
    s ∈ schemasUnder keyword argument →
      ∀ value, Satisfies dialect (lower s) value ↔ Satisfies other s value

section Parts

variable {dialect other : Dialect} {schema : Json} {keyword : String}

theorem KeepsParts.listed (keeps : KeepsParts dialect other schema)
    (place : SchemaPlace.ofKeyword keyword ∈ [.negated, .oneOrMany, .listed]) {ss : List Json}
    (found : schema.field? keyword = some (.arr ss)) {s : Json} (member : s ∈ ss) (value : Json) :
    Satisfies dialect (lower s) value ↔ Satisfies other s value := by
  refine keeps keyword _ s found ?_ value
  rwa [schemasUnder_listed place]

theorem satisfies_arr (dialect : Dialect) (ss : List Json) (value : Json) :
    Satisfies dialect (.arr ss) value :=
  Constraint.satisfies_of_no_object value (by simp) (by simp)

theorem KeepsParts.single (keeps : KeepsParts dialect other schema)
    (place : SchemaPlace.ofKeyword keyword ∈ [.oneOrMany, .single]) {s : Json}
    (found : schema.field? keyword = some s) (value : Json) :
    Satisfies dialect (lowerValue keyword s) value ↔ Satisfies other s value := by
  simp only [List.mem_cons, List.not_mem_nil, or_false] at place
  by_cases isList : ∃ ss, s = .arr ss
  · obtain ⟨ss, rfl⟩ := isList
    have trivially := satisfies_arr other ss value
    rcases place with place | place <;>
      simp [lowerValue, place, lowerAt, lower, trivially, satisfies_arr]
  · have single : ∀ ss, s ≠ .arr ss := fun ss same => isList ⟨ss, same⟩
    have itself : lowerValue keyword s = lower s := by
      rcases place with place | place <;> cases s <;> simp_all [lowerValue, lowerAt]
    rw [itself]
    refine keeps keyword s s found (mem_schemasUnder_self single ?_) value
    rcases place with place | place <;> simp [place]

theorem KeepsParts.member (keeps : KeepsParts dialect other schema)
    (place : SchemaPlace.ofKeyword keyword = .named) {name : String} {s : Json}
    (found : schema.member? keyword name = some s) (value : Json) :
    Satisfies dialect (lower s) value ↔ Satisfies other s value := by
  obtain ⟨members, under, named⟩ := Option.bind_eq_some_iff.mp found
  refine keeps keyword members s under ?_ value
  cases members with
  | obj fields =>
    rw [schemasUnder, place]
    exact List.mem_map_of_mem (Fields.mem_of_get? named)
  | _ => simp [Json.field?] at named

theorem forall_list_lower (place : SchemaPlace.ofKeyword keyword ∈ [.oneOrMany, .listed])
    {asked asks : List Json → Prop}
    (same : ∀ ss, schema.field? keyword = some (.arr ss) → (asked (ss.map lower) ↔ asks ss)) :
    (∀ ss, (lower schema).field? keyword = some (.arr ss) → asked ss) ↔
      ∀ ss, schema.field? keyword = some (.arr ss) → asks ss := by
  simp only [field?_lower, Option.map_eq_some_iff, lowerValue_eq_arr_iff place]
  constructor
  · exact fun each ss found => (same ss found).mp (each _ ⟨_, found, ss, rfl, rfl⟩)
  · rintro each _ ⟨_, found, ss, rfl, rfl⟩
    exact (same ss found).mpr (each ss found)

theorem forall_field_lower {asked asks : Json → Prop}
    (same : ∀ s, schema.field? keyword = some s → (asked (lowerValue keyword s) ↔ asks s)) :
    (∀ s, (lower schema).field? keyword = some s → asked s) ↔
      ∀ s, schema.field? keyword = some s → asks s := by
  simp only [field?_lower, Option.map_eq_some_iff]
  constructor
  · exact fun each s found => (same s found).mp (each _ ⟨s, found, rfl⟩)
  · rintro each _ ⟨s, found, rfl⟩
    exact (same s found).mpr (each s found)

theorem forall_member_lower (place : SchemaPlace.ofKeyword keyword = .named)
    {asked asks : String → Json → Prop}
    (same : ∀ name s, schema.member? keyword name = some s → (asked name (lower s) ↔ asks name s)) :
    (∀ name s, (lower schema).member? keyword name = some s → asked name s) ↔
      ∀ name s, schema.member? keyword name = some s → asks name s := by
  simp only [member?_lower place, Option.map_eq_some_iff]
  constructor
  · exact fun each name s found => (same name s found).mp (each name _ ⟨s, found, rfl⟩)
  · rintro each name _ ⟨s, found, rfl⟩
    exact (same name s found).mpr (each name s found)

end Parts

theorem and_and_congr {a b c p q r : Prop} (first : a ∧ b ↔ p ∧ q) (rest : c ↔ r) :
    a ∧ b ∧ c ↔ p ∧ q ∧ r := by
  rw [← and_assoc, first, rest, and_assoc]

theorem lower_eq_bool_iff (schema : Json) (allowed : Bool) :
    lower schema = .bool allowed ↔ schema = .bool allowed := by
  cases schema <;> simp [lower]

theorem lowerValue_items_eq_false_iff (value : Json) :
    lowerValue "items" value = .bool false ↔ value = .bool false := by
  have place : SchemaPlace.ofKeyword "items" = .oneOrMany := by decide
  cases value <;> simp [lowerValue, place, lowerAt, lower]

/-- No schema in a list holds exactly when the one schema does not that is written for the list. -/
theorem not_anyOf_iff (dialect : Dialect) (ss : List Json) (value : Json) :
    ¬ Satisfies dialect (.obj [("anyOf", .arr ss)]) value ↔
      ∀ s ∈ ss, ¬ Satisfies dialect s value := by
  have only : ∀ keyword, (Json.obj [("anyOf", .arr ss)]).field? keyword =
      if "anyOf" = keyword then some (.arr ss) else none := fun _ => rfl
  have asserted : ∀ keyword argument, (Json.obj [("anyOf", .arr ss)]).field? keyword =
      some argument → Keyword.assertions (.obj [("anyOf", .arr ss)]) keyword argument = [] := by
    intro keyword argument found
    rw [only] at found
    split at found
    · subst keyword
      rfl
    · cases found
  rw [satisfies_iff, meets_iff]
  simp +contextual [only, asserted, Json.member?]

theorem negations_lower {dialect other : Dialect} {schema : Json}
    (keeps : KeepsParts dialect other schema) (value : Json) :
    ((∀ ss, (lower schema).field? "not" = some (.arr ss) → ∀ s ∈ ss, ¬ Satisfies dialect s value) ∧
      ∀ s, (lower schema).field? "not" = some s → (∀ ss, s ≠ .arr ss) →
        ¬ Satisfies dialect s value) ↔
    (∀ ss, schema.field? "not" = some (.arr ss) → ∀ s ∈ ss, ¬ Satisfies other s value) ∧
      ∀ s, schema.field? "not" = some s → (∀ ss, s ≠ .arr ss) → ¬ Satisfies other s value := by
  have place : SchemaPlace.ofKeyword "not" = .negated := by decide
  rw [field?_lower]
  cases found : schema.field? "not" with
  | none => simp
  | some argument =>
    by_cases isList : ∃ ss, argument = .arr ss
    · obtain ⟨ss, rfl⟩ := isList
      have each : ∀ s ∈ ss, (Satisfies dialect (lower s) value ↔ Satisfies other s value) :=
        fun s listed => keeps.listed (by decide) found listed value
      simp only [Option.map_some, lowerValue, place, lowerAt, Option.some.injEq, reduceCtorEq,
        false_implies, implies_true, true_and, forall_eq', ne_eq, not_false_eq_true,
        Json.arr.injEq, not_anyOf_iff, List.forall_mem_map, forall_const]
      rw [and_true]
      exact forall₂_congr fun s listed => not_congr (each s listed)
    · have single : ∀ ss, argument ≠ .arr ss := fun ss same => isList ⟨ss, same⟩
      have itself : lowerValue "not" argument = lower argument := by
        cases argument <;> simp_all [lowerValue, lowerAt]
      have stillSingle : ∀ ss, lower argument ≠ .arr ss := by
        cases argument <;> simp_all [lower]
      have inside := keeps "not" argument argument found
        (mem_schemasUnder_self single (by decide)) value
      simp [itself, single, stillSingle, inside]

theorem satisfies_lower_of_parts {dialect other : Dialect} {schema : Json}
    (here : AgreeOn dialect other schema) (keeps : KeepsParts dialect other schema) (value : Json) :
    Satisfies dialect (lower schema) value ↔ Satisfies other schema value := by
  rw [satisfies_iff, satisfies_iff, meets_iff, meets_iff]
  refine and_congr ?notFalse <| and_congr ?asserted <| and_congr ?allOf <| and_congr ?anyOf <|
    and_congr ?oneOf <| and_and_congr ?negations <| and_congr ?whenMet <|
    and_congr ?otherwise <| and_congr ?properties <| and_congr ?patternProperties <|
    and_congr ?additionalProperties <| and_congr ?propertyNames <| and_congr ?dependencies <|
    and_congr ?dependentNames <| and_congr ?items <| and_congr ?tuple <|
    and_congr ?additionalItems <| and_congr ?noAdditionalItems ?contains
  case notFalse => rw [ne_eq, ne_eq, lower_eq_bool_iff]
  case asserted =>
    simp only [assertions_lower]
    refine forall_congr' fun keyword => forall_field_lower fun argument found => ?_
    by_cases known : keyword ∈ Keyword.assertive
    · have nowhere : ∀ k ∈ Keyword.assertive, SchemaPlace.ofKeyword k = .nowhere := by decide
      rw [lowerValue_nowhere (nowhere keyword known)]
      exact forall₂_congr fun a listed => by rw [here.holds keyword argument found a listed]
    · simp [Keyword.assertions_eq_nil known]
  case allOf =>
    refine forall_list_lower (by decide) fun ss found => ?_
    rw [List.forall_mem_map]
    exact forall₂_congr fun s listed => keeps.listed (by decide) found listed value
  case anyOf =>
    refine forall_list_lower (by decide) fun ss found => ?_
    simp only [exists_prop, List.mem_map, exists_exists_and_eq_and]
    exact exists_congr fun s => and_congr_right fun listed =>
      keeps.listed (by decide) found listed value
  case oneOf =>
    refine forall_list_lower (by decide) fun ss found => ?_
    refine Equiv.existsUnique_congr (finCongr (List.length_map lower)) fun i => ?_
    have listed := List.get_mem ss (finCongr (List.length_map lower) i)
    simpa using keeps.listed (by decide) found listed value
  case negations => exact negations_lower keeps value
  case whenMet =>
    refine forall_field_lower fun test asked => forall_field_lower fun s found => ?_
    rw [keeps.single (by decide) asked, keeps.single (by decide) found]
  case otherwise =>
    refine forall_field_lower fun test asked => forall_field_lower fun s found => ?_
    rw [keeps.single (by decide) asked, keeps.single (by decide) found]
  case properties =>
    refine forall_member_lower (by decide) fun name s found => ?_
    exact forall₂_congr fun part _ => keeps.member (by decide) found part
  case patternProperties =>
    refine forall_member_lower (by decide) fun expression s found => ?_
    simp only [keeps.member (by decide) found, here.occurs expression s found]
  case additionalProperties =>
    refine forall_field_lower fun s found => ?_
    simp only [keeps.single (by decide) found, declares_lower here]
  case propertyNames =>
    refine forall_field_lower fun s found => ?_
    simp only [keeps.single (by decide) found]
  case dependencies =>
    refine forall_member_lower (by decide) fun name s found => ?_
    simp only [keeps.member (by decide) found]
  case dependentNames =>
    refine forall_member_lower (by decide) fun name s found => ?_
    cases s <;> simp [lower]
  case items =>
    refine forall_field_lower fun s found => ?_
    simp only [keeps.single (by decide) found]
  case tuple =>
    refine forall_list_lower (by decide) fun ss found => forall_congr' fun i => ?_
    simp only [List.getElem?_map, Option.map_eq_some_iff, forall_exists_index, and_imp,
      forall_apply_eq_imp_iff₂]
    refine forall₂_congr fun s listed => forall₂_congr fun part _ => ?_
    exact keeps.listed (by decide) found (List.mem_of_getElem? listed) part
  case additionalItems =>
    refine forall_list_lower (by decide) fun ss _ => forall_field_lower fun s found => ?_
    simp only [List.length_map, keeps.single (by decide) found]
  case noAdditionalItems =>
    refine forall_field_lower fun s found => ?_
    simp only [field?_lower, Option.map_eq_some_iff, lowerValue_items_eq_false_iff,
      exists_eq_right]
    exact imp_congr_right fun beside => by rw [here.refusesItems s found beside]
  case contains =>
    refine forall_field_lower fun s found => ?_
    simp only [keeps.single (by decide) found]

/-- Lowering keeps the meaning of a schema, also from one dialect to another that reads all schemas
in it alike. -/
theorem satisfies_lower {dialect other : Dialect} {schema : Json}
    (agree : Everywhere (AgreeOn dialect other) schema) (value : Json) :
    Satisfies dialect (lower schema) value ↔ Satisfies other schema value := by
  induction agree generalizing value with
  | intro here _ ih => exact satisfies_lower_of_parts here ih value

theorem agreeOn_self (dialect : Dialect) (schema : Json) :
    Everywhere (AgreeOn dialect dialect) schema :=
  everywhere_of_forall
    (fun _ => ⟨fun _ _ _ _ _ _ => rfl, fun _ _ _ _ => rfl, fun _ _ _ => rfl⟩) schema

theorem distinctKeys_lowerAt {place : SchemaPlace} {argument : Json}
    (distinct : argument.DistinctKeys)
    (inside : ∀ s ∈ place.schemas argument, (lower s).DistinctKeys) :
    (lowerAt place argument).DistinctKeys := by
  have list : ∀ ss : List Json, (∀ s ∈ ss, (lower s).DistinctKeys) →
      (Json.arr (ss.map lower)).DistinctKeys := by
    intro ss each
    rw [Json.DistinctKeys, Json.distinctKeysIn_iff, List.forall_mem_map]
    exact each
  unfold lowerAt
  split
  · rename_i ss
    have branches := list ss inside
    simpa [Json.DistinctKeys, Json.DistinctKeysUnder] using branches
  iterate 2 exact list _ inside
  · rename_i members
    rw [Json.DistinctKeys, List.map_map, Json.distinctKeysUnder_iff, List.forall_mem_map]
    refine ⟨distinct.names, fun member listed => ?_⟩
    exact inside member.2 (List.mem_map_of_mem listed)
  iterate 3
    refine inside _ ?_
    cases argument <;> simp_all [SchemaPlace.schemas]
  · exact distinct

theorem distinctKeys_lower {schema : Json} (distinct : schema.DistinctKeys) :
    (lower schema).DistinctKeys := by
  have everywhere : Everywhere (fun _ => True) schema :=
    everywhere_of_forall (fun _ => trivial) schema
  induction everywhere with
  | @intro schema _ _ ih =>
    cases schema with
    | obj fields =>
      rw [lower, lowerFields_eq_map, Json.DistinctKeys, List.map_map, Json.distinctKeysUnder_iff,
        List.forall_mem_map]
      refine ⟨distinct.names, fun field listed => ?_⟩
      have whole := distinct.member listed
      refine distinctKeys_lowerAt whole fun s inside => ?_
      exact ih field.1 field.2 s (Fields.get?_of_mem distinct.names listed) inside
        (distinctKeys_schemasUnder whole inside)
    | _ => exact distinct

/-- But for a list under `not`, the schemas in a lowered value are the lowered schemas of the
value. -/
theorem schemas_lowerAt {place : SchemaPlace} {argument : Json}
    (kept : place ≠ .negated ∨ ∀ ss, argument ≠ .arr ss) :
    place.schemas (lowerAt place argument) = (place.schemas argument).map lower := by
  cases place <;> cases argument <;> simp_all [lowerAt, lower, SchemaPlace.schemas]

theorem everywhere_anyOf {property : Json → Prop} {ss : List Json}
    (here : property (.obj [("anyOf", .arr ss)])) (each : ∀ s ∈ ss, Everywhere property s) :
    Everywhere property (.obj [("anyOf", .arr ss)]) := by
  refine .intro here fun keyword argument s found listed => ?_
  have only : (Json.obj [("anyOf", .arr ss)]).field? keyword =
      if "anyOf" = keyword then some (.arr ss) else none := rfl
  rw [only] at found
  split at found
  · subst keyword
    cases Option.some.inj found
    exact each s listed
  · cases found

theorem referenceFree_lower {schema : Json} (free : ReferenceFree schema) :
    ReferenceFree (lower schema) := by
  induction free with
  | @intro schema here _ ih =>
    refine .intro ?_ fun keyword argument s found listed => ?_
    · rw [field?_lower, here]
      rfl
    · rw [field?_lower] at found
      obtain ⟨written, present, rfl⟩ := Option.map_eq_some_iff.mp found
      by_cases list : SchemaPlace.ofKeyword keyword = .negated ∧ ∃ ss, written = .arr ss
      · obtain ⟨place, ss, rfl⟩ := list
        rw [schemasUnder, lowerValue, place] at listed
        cases List.mem_singleton.mp listed
        refine everywhere_anyOf rfl fun t branch => ?_
        obtain ⟨inside, under, rfl⟩ := List.mem_map.mp branch
        exact ih keyword _ inside present (by rwa [schemasUnder, place])
      · have kept : SchemaPlace.ofKeyword keyword ≠ .negated ∨ ∀ ss, written ≠ .arr ss := by
          rw [not_and_or, not_exists] at list
          exact list
        rw [schemasUnder, lowerValue, schemas_lowerAt kept] at listed
        obtain ⟨inside, under, rfl⟩ := List.mem_map.mp listed
        exact ih keyword written inside present under

end Lowering

end AccessRules
