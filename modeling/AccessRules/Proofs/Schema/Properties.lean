import AccessRules.Proofs.Schema.Combinators
import AccessRules.Proofs.Schema.Siblings

/-!
The properties of an object are shared by three keywords. `additionalProperties` takes over from
`properties` and `patternProperties` if it restricts the other properties at all; without it they
stand for themselves.
-/

namespace AccessRules

namespace Constraint

variable {base : Url} {refs : String → Json → Bool}

section Keywords

variable {fields : Fields} {argument value : Json} {c : Constraint}

/-- What the three keywords for properties ask of one property. -/
structure PropertyMeets (schema other : Json) (name : String) (part : Json) : Prop where
  known : ∀ s, schema.member? "properties" name = some s → Satisfies .validator s part
  matched : ∀ expression s, schema.member? "patternProperties" expression = some s →
    Dialect.validator.occurs expression name = true → Satisfies .validator s part
  unknown : ¬ Keyword.Declares .validator schema name → Satisfies .validator other part

theorem acceptsKnown_cases {members : Fields} {known : List (String × Constraint)} {part : Json}
    (alike : List.Forall₂ (fun field member => member.1 = field.1 ∧
      Agrees refs part field.2 member.2) members known) (name : String) :
    (members.get? name = none ∧ acceptsKnown refs known name part = none) ∨
    (∃ s accepted, members.get? name = some s ∧
      acceptsKnown refs known name part = some accepted ∧
      (accepted = true ↔ Satisfies .validator s part)) := by
  induction alike with
  | nil => exact .inl ⟨rfl, rfl⟩
  | @cons field member members known first _ ih =>
    obtain ⟨_, s⟩ := field
    obtain ⟨key, inner⟩ := member
    obtain ⟨rfl, same⟩ := first
    by_cases here : key = name
    · refine .inr ⟨s, accepts refs inner part, ?_, ?_, same⟩
      · simp [Fields.get?, here]
      · simp [acceptsKnown, here]
    · simpa [Fields.get?, acceptsKnown, here] using ih

theorem acceptsMatched_iff {patterns : List (Pattern × Constraint)} (name : String) (part : Json) :
    (acceptsMatched refs patterns name part).all id = true ↔
      ∀ entry ∈ patterns, entry.1.occursIn name = true → accepts refs entry.2 part = true := by
  induction patterns with
  | nil => simp [acceptsMatched]
  | cons first rest ih =>
    obtain ⟨pattern, inner⟩ := first
    cases hit : pattern.occursIn name <;> simp [acceptsMatched, hit, ih]

section Property

variable {members sources : Fields} {known : List (String × Constraint)}
  {patterns : List (Pattern × Constraint)} {other : Option Constraint} {part : Json}

theorem matched_iff (unique : (Json.obj sources).DistinctKeys)
    (ofPatterns : List.Forall₂ (fun field entry => Pattern.ofText? field.1 = some entry.1 ∧
      Agrees refs part field.2 entry.2) sources patterns) (name : String) :
    (acceptsMatched refs patterns name part).all id = true ↔
      ∀ expression s, sources.get? expression = some s →
        Dialect.validator.occurs expression name = true → Satisfies .validator s part := by
  rw [acceptsMatched_iff]
  refine Iff.trans ?_ (Json.forall_members_iff unique)
  refine forall_iff_of_forall₂ ofPatterns fun field _ entry pair => ?_
  obtain ⟨readable, same⟩ := pair
  rw [Dialect.validator_occurs readable]
  exact imp_congr_right fun _ => same

theorem noneMatches_iff (unique : (Json.obj sources).DistinctKeys)
    (ofPatterns : List.Forall₂ (fun field entry => Pattern.ofText? field.1 = some entry.1 ∧
      Agrees refs part field.2 entry.2) sources patterns) (name : String) :
    (patterns.any fun p => p.1.occursIn name) = false ↔
      ∀ expression s, sources.get? expression = some s →
        Dialect.validator.occurs expression name = false := by
  rw [List.any_eq_false]
  refine Iff.trans ?_ (Json.forall_members_iff unique)
  refine forall_iff_of_forall₂ ofPatterns fun field _ entry pair => ?_
  rw [Dialect.validator_occurs pair.1, Bool.not_eq_true]

theorem acceptsField_iff (name : String)
    (properties : ∀ name, (Json.obj fields).member? "properties" name = members.get? name)
    (matching : ∀ name, (Json.obj fields).member? "patternProperties" name = sources.get? name)
    (unique : (Json.obj sources).DistinctKeys)
    (ofKnown : List.Forall₂ (fun field member => member.1 = field.1 ∧
      Agrees refs part field.2 member.2) members known)
    (ofPatterns : List.Forall₂ (fun field entry => Pattern.ofText? field.1 = some entry.1 ∧
      Agrees refs part field.2 entry.2) sources patterns)
    (ofOther : acceptsOther refs other part = true ↔ Satisfies .validator argument part) :
    acceptsField refs known patterns other name part = true ↔
      PropertyMeets (.obj fields) argument name part := by
  have allMatched := matched_iff unique ofPatterns name
  have noneMatches := noneMatches_iff unique ofPatterns name
  have undeclared : ¬ Keyword.Declares .validator (.obj fields) name ↔ members.get? name = none ∧
      (patterns.any fun p => p.1.occursIn name) = false := by
    rw [noneMatches, Keyword.Declares, not_or, properties]
    simp [matching, Option.eq_none_iff_forall_ne_some]
  have meets : PropertyMeets (.obj fields) argument name part ↔
      (∀ s, members.get? name = some s → Satisfies .validator s part) ∧
      (acceptsMatched refs patterns name part).all id = true ∧
      (members.get? name = none ∧ (patterns.any fun p => p.1.occursIn name) = false →
        Satisfies .validator argument part) := by
    rw [allMatched, ← undeclared, ← properties]
    simp only [← matching]
    constructor
    · rintro ⟨ofName, ofMatches, ofOthers⟩
      exact ⟨ofName, ofMatches, ofOthers⟩
    · rintro ⟨ofName, ofMatches, ofOthers⟩
      exact ⟨ofName, ofMatches, ofOthers⟩
  rw [meets, acceptsField, acceptsMatched_isEmpty]
  rcases acceptsKnown_cases ofKnown name with
    ⟨absent, unknown⟩ | ⟨s, accepted, present, found, same⟩
  · rw [unknown, absent]
    cases hit : patterns.any fun p => p.1.occursIn name with
    | true => simp
    | false =>
      have nothing : acceptsMatched refs patterns name part = [] := by
        rw [← List.isEmpty_iff, acceptsMatched_isEmpty, hit]
        rfl
      simp [nothing, ofOther]
  · rw [found, present]
    simp [same]

end Property

def FaithfulParts (base : Url) (refs : String → Json → Bool) (fields : Fields) : Prop :=
  ∀ keyword s, fields.get? keyword = some s → ∀ inner ∈ schemasUnder keyword s,
    Faithful base refs inner

theorem FaithfulParts.members (faithful : FaithfulParts base refs fields) {keyword : String}
    (place : SchemaPlace.ofKeyword keyword = .named) {members : Fields}
    (found : fields.get? keyword = some (.obj members)) :
    ∀ member ∈ members, Faithful base refs member.2 := by
  intro member listed
  refine faithful keyword _ found _ ?_
  rw [schemasUnder, place]
  exact List.mem_map_of_mem listed

theorem member?_of_obj {keyword : String} {members : Fields}
    (found : fields.get? keyword = some (.obj members)) (name : String) :
    (Json.obj fields).member? keyword name = members.get? name := by
  simp only [Json.member?, Json.field?, found, Option.bind_some]

theorem member?_of_none {keyword : String} (absent : fields.get? keyword = none) (name : String) :
    (Json.obj fields).member? keyword name = none := by
  simp only [Json.member?, Json.field?, absent, Option.bind_none]

theorem siblingMembers_of_ok {known : List (String × Constraint)}
    (read : Keyword.siblingMembers (readingsOf base fields) = .ok known)
    (faithful : FaithfulParts base refs fields) : ∃ members : Fields,
      (∀ name, (Json.obj fields).member? "properties" name = members.get? name) ∧
      ∀ part : Json, part.DistinctKeys → List.Forall₂ (fun field member => member.1 = field.1 ∧
        Agrees refs part field.2 member.2) members known := by
  rw [Keyword.siblingMembers, get?_readingsOf] at read
  cases found : fields.get? "properties" with
  | none =>
    rw [found] at read
    cases Except.ok.inj read
    exact ⟨[], member?_of_none found, fun _ _ => .nil⟩
  | some argument =>
    rw [found] at read
    simp only [Option.map_some] at read
    split at read
    · obtain ⟨members, rfl, compiled⟩ := (eachMember_readingOf _ _ _).mp read
      refine ⟨members, member?_of_obj found, fun part parts => ?_⟩
      refine forall₂_imp_mem compiled fun field listed member pair => ⟨pair.1, ?_⟩
      exact faithful.members (by decide) found field listed member.2 pair.2 part parts
    · simp at read

theorem siblingPatterns_of_ok {patterns : List (Pattern × Constraint)}
    (read : Keyword.siblingPatterns (readingsOf base fields) = .ok patterns)
    (faithful : FaithfulParts base refs fields) (unique : (Json.obj fields).DistinctKeys) :
    ∃ sources : Fields, (Json.obj sources).DistinctKeys ∧
      (∀ name, (Json.obj fields).member? "patternProperties" name = sources.get? name) ∧
      ∀ part : Json, part.DistinctKeys → List.Forall₂ (fun field entry =>
        Pattern.ofText? field.1 = some entry.1 ∧ Agrees refs part field.2 entry.2)
          sources patterns := by
  rw [Keyword.siblingPatterns, get?_readingsOf] at read
  cases found : fields.get? "patternProperties" with
  | none =>
    rw [found] at read
    cases Except.ok.inj read
    exact ⟨[], by simp [Json.DistinctKeys, Json.DistinctKeysUnder], member?_of_none found,
      fun _ _ => .nil⟩
  | some argument =>
    rw [found] at read
    simp only [Option.map_some] at read
    split at read
    · rename_i made compiled
      cases Except.ok.inj read
      obtain ⟨sources, rfl, pairs⟩ := (eachPattern_readingOf _ _ _).mp compiled
      refine ⟨sources, unique.member (Fields.mem_of_get? found), member?_of_obj found, ?_⟩
      intro part parts
      refine forall₂_imp_mem pairs fun field listed entry pair => ⟨pair.1, ?_⟩
      exact faithful.members (by decide) found field listed entry.2 pair.2 part parts
    · simp at read

theorem accepts_closed_iff (known : List (String × Constraint))
    (patterns : List (Pattern × Constraint)) (other : Option Constraint)
    (distinct : value.DistinctKeys) : accepts refs (.closed known patterns other) value = true ↔
      ∀ name part, value.field? name = some part →
        acceptsField refs known patterns other name part = true := by
  cases value with
  | obj parts =>
    rw [accepts_closed]
    exact @Json.forall_members_iff parts distinct fun name part =>
      acceptsField refs known patterns other name part = true
  | _ => simp [accepts, Assertion.onFields, Json.field?]

theorem closesProperties_iff (found : fields.get? "additionalProperties" = some argument) :
    Keyword.closesProperties (readingsOf base fields) = true ↔
      argument = .bool false ∨ ∃ inside, argument = .obj inside := by
  rw [Keyword.closesProperties, get?_readingsOf, found]
  cases argument with
  | bool allowed => cases allowed <;> simp [readingOf]
  | _ => simp [readingOf]

theorem Spells.isSchema (spelled : Spells base argument c) :
    argument = .bool true ∨ argument = .bool false ∨ ∃ inside, argument = .obj inside := by
  cases argument with
  | bool allowed => cases allowed <;> simp
  | obj inside => exact .inr (.inr ⟨inside, rfl⟩)
  | _ => simp [Spells, ofJson] at spelled

theorem closed_iff {known : List (String × Constraint)} {patterns : List (Pattern × Constraint)}
    {other : Option Constraint}
    (readKnown : Keyword.siblingMembers (readingsOf base fields) = .ok known)
    (readPatterns : Keyword.siblingPatterns (readingsOf base fields) = .ok patterns)
    (faithful : FaithfulParts base refs fields) (unique : (Json.obj fields).DistinctKeys)
    (distinct : value.DistinctKeys)
    (ofOther : ∀ part : Json, part.DistinctKeys →
      (acceptsOther refs other part = true ↔ Satisfies .validator argument part)) :
    accepts refs (.closed known patterns other) value = true ↔
      ∀ name part, value.field? name = some part →
        PropertyMeets (.obj fields) argument name part := by
  obtain ⟨members, properties, ofKnown⟩ := siblingMembers_of_ok readKnown faithful
  obtain ⟨sources, uniqueSources, matching, ofPatterns⟩ :=
    siblingPatterns_of_ok readPatterns faithful unique
  rw [accepts_closed_iff known patterns other distinct]
  refine forall₂_congr fun name part => imp_congr_right fun found => ?_
  have parts := distinct.field found
  exact acceptsField_iff name properties matching uniqueSources (ofKnown part parts)
    (ofPatterns part parts) (ofOther part parts)

theorem noValues_iff (noNames : fields.has "properties" = false)
    (noPatterns : fields.has "patternProperties" = false) :
    accepts refs (.assertion .noValues) value = true ↔
      ∀ name part, value.field? name = some part →
        PropertyMeets (.obj fields) (.bool false) name part := by
  have names : ∀ name, (Json.obj fields).member? "properties" name = none :=
    member?_of_none (by simpa [Fields.has] using noNames)
  have patterns : ∀ name, (Json.obj fields).member? "patternProperties" name = none :=
    member?_of_none (by simpa [Fields.has] using noPatterns)
  have undeclared : ∀ name, ¬ Keyword.Declares .validator (.obj fields) name := by
    simp [Keyword.Declares, names, patterns]
  simp only [accepts, Assertion.holds, onFields_isEmpty]
  refine forall₂_congr fun name part => ⟨fun none found => absurd found none, ?_⟩
  exact fun meets found => not_satisfies_false _ ((meets found).unknown (undeclared name))

/-- `additionalProperties` takes over from the two other keywords for properties unless every value
meets it. -/
theorem additionalProperties_iff
    (read : ofField base fields "additionalProperties" argument = .ok c)
    (found : fields.get? "additionalProperties" = some argument)
    (faithful : FaithfulParts base refs fields) (unique : (Json.obj fields).DistinctKeys)
    (distinct : value.DistinctKeys) (restricts : argument ≠ .bool true) :
    Keyword.closesProperties (readingsOf base fields) = true ∧ (accepts refs c value = true ↔
      ∀ name part, value.field? name = some part →
        PropertyMeets (.obj fields) argument name part) := by
  change Keyword.additionalProperties (readingsOf base fields)
    (readingOf base "additionalProperties" argument) = .ok c at read
  rw [closesProperties_iff found]
  have asSchema : ∀ inner, (readingOf base "additionalProperties" argument).compile () = .ok inner →
      (argument = .bool false ∨ ∃ inside, argument = .obj inside) ∧
      ∀ part : Json, part.DistinctKeys →
        (acceptsOther refs (some inner) part = true ↔ Satisfies .validator argument part) := by
    intro inner compiled
    refine ⟨?_, fun part => single_agrees (by decide) compiled (faithful _ _ found)⟩
    rcases ((compile_readingOf _ _ _).mp compiled).isSchema with anything | schema
    · exact absurd anything restricts
    · exact schema
  simp only [Keyword.additionalProperties, bind_eq_ok_iff, has_readingsOf] at read
  obtain ⟨patterns, readPatterns, read⟩ := read
  split at read
  · rename_i anything
    exact absurd anything restricts
  · rename_i isFalse
    cases (show argument = .bool false from isFalse)
    refine ⟨.inl rfl, ?_⟩
    split at read
    · obtain ⟨known, readKnown, made⟩ := (bind_eq_ok_iff _ _ _).mp read
      cases Except.ok.inj made
      refine closed_iff readKnown readPatterns faithful unique distinct fun part _ => ?_
      simp [acceptsOther, not_satisfies_false]
    · rename_i alone
      simp only [Bool.or_eq_true, not_or, Bool.not_eq_true] at alone
      cases Except.ok.inj read
      exact noValues_iff alone.1 alone.2
  · split at read
    · obtain ⟨inner, compiled, rest⟩ := (bind_eq_ok_iff _ _ _).mp read
      obtain ⟨known, readKnown, made⟩ := (bind_eq_ok_iff _ _ _).mp rest
      cases Except.ok.inj made
      obtain ⟨isSchema, ofOther⟩ := asSchema inner compiled
      exact ⟨isSchema, closed_iff readKnown readPatterns faithful unique distinct ofOther⟩
    · obtain ⟨known, readKnown, rest⟩ := (bind_eq_ok_iff _ _ _).mp read
      obtain ⟨inner, compiled, made⟩ := (bind_eq_ok_iff _ _ _).mp rest
      cases Except.ok.inj made
      obtain ⟨isSchema, ofOther⟩ := asSchema inner compiled
      exact ⟨isSchema, closed_iff readKnown readPatterns faithful unique distinct ofOther⟩

theorem properties_of_ok (read : ofField base fields "properties" argument = .ok c)
    (opened : Keyword.closesProperties (readingsOf base fields) = false) :
    ∃ (members : Fields) (known : List (String × Constraint)), argument = .obj members ∧
      c = .every (known.map fun member => .property member.1 member.2) ∧
      List.Forall₂ (fun field member => member.1 = field.1 ∧ Spells base field.2 member.2)
        members known := by
  change Keyword.properties (readingsOf base fields) (readingOf base "properties" argument) = .ok c
    at read
  rw [Keyword.properties, opened] at read
  obtain ⟨known, compiled, rfl⟩ := (map_eq_ok_iff _ _ _).mp read
  obtain ⟨members, rfl, pairs⟩ := (eachMember_readingOf _ _ _).mp compiled
  exact ⟨members, known, rfl, rfl, pairs⟩

theorem compiles_properties_iff {members : Fields}
    (opened : Keyword.closesProperties (readingsOf base fields) = false) :
    (∃ c, ofField base fields "properties" (.obj members) = .ok c) ↔
      ∀ member ∈ members, Compiles base member.2 := by
  change (∃ c, Keyword.properties (readingsOf base fields)
    (readingOf base "properties" (.obj members)) = .ok c) ↔ _
  have compiles := @exists_eachMember_iff base "properties" (.obj members)
  simp only [Json.obj.injEq, exists_eq_left'] at compiles
  rw [← compiles, Keyword.properties, if_neg (by simp [opened]), exists_map_ok_iff]

theorem accepts_properties {members : Fields}
    (read : ofField base fields "properties" (.obj members) = .ok c)
    (opened : Keyword.closesProperties (readingsOf base fields) = false) (value : Json) :
    accepts refs c value = true ↔ ∀ member ∈ members, ∀ inner, Spells base member.2 inner →
      ∀ part, value.field? member.1 = some part → accepts refs inner part = true := by
  obtain ⟨_, known, same, rfl, pairs⟩ := properties_of_ok read opened
  cases same
  simp only [accepts, acceptsAll_iff, List.forall_mem_map]
  refine forall_iff_of_forall₂ pairs fun field _ member pair => ?_
  obtain ⟨named, spelled⟩ := pair
  have only : ∀ inner, Spells base field.2 inner ↔ member.2 = inner := by
    intro inner
    rw [Spells, show ofJson base field.2 = .ok member.2 from spelled, Except.ok.injEq]
  rw [named]
  simp only [only, forall_eq']
  cases value.field? field.1 <;> simp

theorem properties_iff (read : ofField base fields "properties" argument = .ok c)
    (opened : Keyword.closesProperties (readingsOf base fields) = false)
    (found : fields.get? "properties" = some argument)
    (faithful : FaithfulParts base refs fields) (unique : argument.DistinctKeys)
    (distinct : value.DistinctKeys) : accepts refs c value = true ↔
      ∀ name s, argument.field? name = some s → ∀ part, value.field? name = some part →
        Satisfies .validator s part := by
  obtain ⟨members, known, rfl, rfl, pairs⟩ := properties_of_ok read opened
  rw [accepts_properties read opened, ← Json.forall_members_iff unique]
  refine forall₂_congr fun member listed => ?_
  obtain ⟨⟨_, inner⟩, _, spelled⟩ := exists_of_forall₂_mem pairs listed
  have inside := faithful.members (by decide) found member listed
  constructor
  · intro each part present
    exact (inside inner spelled part (distinct.field present)).mp (each inner spelled part present)
  · intro each other spelledToo part present
    exact (inside other spelledToo part (distinct.field present)).mpr (each part present)

theorem patternProperties_iff (read : ofField base fields "patternProperties" argument = .ok c)
    (opened : Keyword.closesProperties (readingsOf base fields) = false)
    (found : fields.get? "patternProperties" = some argument)
    (faithful : FaithfulParts base refs fields) (unique : argument.DistinctKeys)
    (distinct : value.DistinctKeys) : accepts refs c value = true ↔
      ∀ expression s, argument.field? expression = some s → ∀ name part,
        value.field? name = some part → Dialect.validator.occurs expression name = true →
          Satisfies .validator s part := by
  change Keyword.patternProperties (readingsOf base fields)
    (readingOf base "patternProperties" argument) = .ok c at read
  rw [Keyword.patternProperties, opened] at read
  obtain ⟨patterns, compiled, rfl⟩ := (map_eq_ok_iff _ _ _).mp read
  obtain ⟨sources, rfl, pairs⟩ := (eachPattern_readingOf _ _ _).mp compiled
  simp only [accepts, acceptsAll_iff, List.forall_mem_map]
  rw [← Json.forall_members_iff unique]
  refine forall_iff_of_forall₂ pairs fun field listed entry pair => ?_
  obtain ⟨readable, spelled⟩ := pair
  rw [onFields_all distinct fun name part => !entry.1.occursIn name || accepts refs entry.2 part]
  refine forall₂_congr fun name part => imp_congr_right fun present => ?_
  rw [Dialect.validator_occurs readable]
  have inside := faithful.members (by decide) found field listed entry.2 spelled part
    (distinct.field present)
  cases hit : entry.1.occursIn name <;> simp [inside]

theorem closesProperties_of_none (base : Url) {fields : Fields}
    (absent : fields.get? "additionalProperties" = none) :
    Keyword.closesProperties (readingsOf base fields) = false := by
  rw [Keyword.closesProperties, get?_readingsOf, absent]
  rfl

theorem closes_cases (base : Url) (fields : Fields) :
    (Keyword.closesProperties (readingsOf base fields) = false ∧
      ∀ argument, fields.get? "additionalProperties" = some argument →
        ∀ inside, argument ≠ .obj inside ∧ argument ≠ .bool false) ∨
    (∃ argument, fields.get? "additionalProperties" = some argument ∧ argument ≠ .bool true) := by
  cases found : fields.get? "additionalProperties" with
  | none => exact .inl ⟨closesProperties_of_none base found, by simp⟩
  | some argument =>
    by_cases anything : argument = .bool true
    · subst anything
      refine .inl ⟨?_, by simp⟩
      rw [← Bool.not_eq_true, closesProperties_iff found]
      simp
    · exact .inr ⟨argument, rfl, anything⟩

end Keywords

end Constraint

end AccessRules
