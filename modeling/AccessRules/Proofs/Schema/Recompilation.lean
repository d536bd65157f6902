import AccessRules.Proofs.Schema.Admission
import AccessRules.Proofs.Schema.Orderless

/-!
Whether a schema compiles does not depend on the order of its keys. A keyword asks its reading for
data, which has the same shape in any order, or for schemas, which compile or fail to in any order;
and of its siblings it asks the same. What is made of them may well be in another order.
-/

namespace AccessRules

def SucceedAlike {ε α β : Type} (first : Except ε α) (second : Except ε β) : Prop :=
  (∃ a, first = .ok a) ↔ ∃ b, second = .ok b

namespace SucceedAlike

variable {ε α β γ δ : Type} {first : Except ε α} {second : Except ε β}

theorem refl (result : Except ε α) : SucceedAlike result result := Iff.rfl

theorem ok (a : α) (b : β) : SucceedAlike (.ok a : Except ε α) (.ok b : Except ε β) := by
  simp [SucceedAlike]

theorem map (alike : SucceedAlike first second) (f : α → γ) (g : β → δ) :
    SucceedAlike (first.map f) (second.map g) := by
  rwa [SucceedAlike, exists_map_ok_iff, exists_map_ok_iff]

theorem bind (alike : SucceedAlike first second) {next : α → Except ε γ} {after : β → Except ε δ}
    (each : ∀ a b, SucceedAlike (next a) (after b)) :
    SucceedAlike (first >>= next) (second >>= after) := by
  cases first with
  | error e => cases second <;> simp_all [SucceedAlike, Bind.bind, Except.bind]
  | ok a =>
    cases second with
    | error e => simp [SucceedAlike] at alike
    | ok b => exact each a b

end SucceedAlike

theorem Defect.within_alike {α β : Type} {first : Except Defect α} {second : Except Defect β}
    (alike : SucceedAlike first second) (step : String) :
    SucceedAlike (Defect.within step first) (Defect.within step second) := by
  simpa [SucceedAlike] using alike

namespace Reading

theorem wrongType_alike {α β : Type} (value other : Json) (types : List ValueType) :
    SucceedAlike (wrongType value types : Except Defect α)
      (wrongType other types : Except Defect β) := by
  simp [SucceedAlike]

structure Alike (r other : Reading) : Prop where
  value : Reordered r.value other.value
  compile : SucceedAlike (r.compile ()) (other.compile ())
  each : SucceedAlike r.each other.each
  eachMember : SucceedAlike r.eachMember other.eachMember
  eachPattern : SucceedAlike r.eachPattern other.eachPattern
  dependencies : SucceedAlike (Keyword.dependencies r) (Keyword.dependencies other)

variable {items others : List Json}

theorem names_alike (pairs : List.Forall₂ Reordered items others) :
    SucceedAlike (names items) (names others) := by
  induction pairs with
  | nil => exact .refl _
  | cons first _ ih =>
    cases first with
    | str text => exact ih.map _ _
    | _ => exact wrongType_alike _ _ _

theorem typesNamed_alike (pairs : List.Forall₂ Reordered items others) :
    SucceedAlike (typesNamed items) (typesNamed others) := by
  induction pairs with
  | nil => exact .refl _
  | cons first _ ih =>
    cases first with
    | str name =>
      simp only [typesNamed]
      cases ValueType.ofKey? name with
      | none => exact .refl _
      | some t => exact ih.map _ _
    | _ => simp [SucceedAlike, typesNamed]

end Reading

namespace Keyword

open Reading

section Data

variable {r other : Reading} (same : Reordered r.value other.value)

include same

theorem number_alike : SucceedAlike r.number other.number := by
  simp only [number]
  generalize r.value = value, other.value = otherValue at same ⊢
  cases same with
  | num n => exact .refl _
  | _ => exact wrongType_alike _ _ _

theorem count_alike : SucceedAlike r.count other.count := by
  simp only [count]
  generalize r.value = value, other.value = otherValue at same ⊢
  cases same with
  | num n => exact .refl _
  | _ => exact wrongType_alike _ _ _

theorem types_alike : SucceedAlike (types r) (types other) := by
  simp only [types]
  generalize r.value = value, other.value = otherValue at same ⊢
  cases same with
  | str name => exact .refl _
  | arr length each =>
    have pairs := (Reordered.forall₂_iff _ _).mp (.arr length each)
    have several := Defect.within_alike (typesNamed_alike pairs) "type"
    -- a list of one name is read as the name
    cases pairs with
    | nil => exact .refl _
    | cons first rest =>
      cases rest with
      | cons second rest => cases first <;> exact several.map _ _
      | nil =>
        cases first with
        | str name => exact .refl _
        | _ => exact Defect.within_alike (wrongType_alike _ _ _) _
  | _ => exact wrongType_alike _ _ _

theorem options_alike : SucceedAlike (options r) (options other) := by
  simp only [options]
  generalize r.value = value, other.value = otherValue at same ⊢
  cases same with
  | arr length each => simp [SucceedAlike, assert]
  | _ => exact wrongType_alike _ _ _

theorem required_alike : SucceedAlike (required r) (required other) := by
  simp only [required]
  refine Defect.within_alike ?_ _
  generalize r.value = value, other.value = otherValue at same ⊢
  cases same with
  | arr length each =>
    exact (names_alike ((Reordered.forall₂_iff _ _).mp (.arr length each))).map _ _
  | _ => exact wrongType_alike _ _ _

theorem pattern_alike : SucceedAlike (pattern r) (pattern other) := by
  simp only [pattern]
  generalize r.value = value, other.value = otherValue at same ⊢
  cases same with
  | str source => exact .refl _
  | _ => exact wrongType_alike _ _ _

theorem format_alike : SucceedAlike (format r) (format other) := by
  simp only [format]
  generalize r.value = value, other.value = otherValue at same ⊢
  cases same with
  | str source => exact .refl _
  | _ => exact wrongType_alike _ _ _

theorem uniqueItems_alike : SucceedAlike (uniqueItems r) (uniqueItems other) := by
  simp only [uniqueItems]
  generalize r.value = value, other.value = otherValue at same ⊢
  cases same <;> exact .refl _

end Data

section Siblings

variable {siblings others : Readings} {r other : Reading}
  (beside : ∀ keyword, Option.Rel Reading.Alike (siblings.get? keyword) (others.get? keyword))

include beside

theorem sibling_value (keyword : String) :
    Option.Rel Reordered (siblings.value? keyword) (others.value? keyword) := by
  have both := beside keyword
  rw [Readings.value?, Readings.value?]
  generalize siblings.get? keyword = here, others.get? keyword = there at both
  cases both with
  | none => exact .none
  | some alike => exact .some alike.value

theorem sibling_has (keyword : String) : siblings.has keyword = others.has keyword := by
  have absent := none_iff_of_related (beside keyword)
  rw [Readings.has, Readings.has, Bool.eq_iff_iff, Option.isSome_iff_ne_none,
    Option.isSome_iff_ne_none, ne_eq, ne_eq, absent]

theorem contentMediaType_alike (same : Reordered r.value other.value) :
    SucceedAlike (contentMediaType siblings r) (contentMediaType others other) := by
  have encoding := sibling_value beside "contentEncoding"
  simp only [contentMediaType]
  generalize r.value = value, other.value = otherValue at same ⊢
  cases same with
  | str media =>
    generalize siblings.value? "contentEncoding" = here,
      others.value? "contentEncoding" = there at encoding ⊢
    cases encoding with
    | none => exact .refl _
    | some text =>
      cases text with
      | arr | obj => split <;> simp [SucceedAlike]
      | _ => exact .refl _
  | _ => exact wrongType_alike _ _ _

theorem contentEncoding_alike (same : Reordered r.value other.value) :
    SucceedAlike (contentEncoding siblings r) (contentEncoding others other) := by
  simp only [contentEncoding, sibling_has beside]
  split
  · exact .refl _
  · generalize r.value = value, other.value = otherValue at same ⊢
    cases same with
    | str text => exact .refl _
    | _ => exact wrongType_alike _ _ _

theorem closesProperties_eq : closesProperties siblings = closesProperties others := by
  have both := beside "additionalProperties"
  rw [closesProperties, closesProperties]
  generalize siblings.get? "additionalProperties" = here,
    others.get? "additionalProperties" = there at both
  cases both with
  | none => rfl
  | @some r other alike =>
    have same := alike.value
    dsimp only
    generalize r.value = value, other.value = otherValue at same ⊢
    cases same <;> rfl

theorem properties_alike (alike : r.Alike other) :
    SucceedAlike (properties siblings r) (properties others other) := by
  rw [properties, properties, closesProperties_eq beside]
  split
  · exact .refl _
  · exact alike.eachMember.map _ _

theorem patternProperties_alike (alike : r.Alike other) :
    SucceedAlike (patternProperties siblings r) (patternProperties others other) := by
  rw [patternProperties, patternProperties, closesProperties_eq beside]
  split
  · exact .refl _
  · exact alike.eachPattern.map _ _

theorem siblingMembers_alike :
    SucceedAlike (siblingMembers siblings) (siblingMembers others) := by
  have both := beside "properties"
  rw [siblingMembers, siblingMembers]
  generalize siblings.get? "properties" = here, others.get? "properties" = there at both
  cases both with
  | none => exact .refl _
  | @some r other alike =>
    have same := alike.value
    have members := alike.eachMember
    dsimp only
    generalize r.value = value, other.value = otherValue at same ⊢
    cases same with
    | obj names each => exact members
    | _ => exact .refl _

theorem siblingPatterns_alike :
    SucceedAlike (siblingPatterns siblings) (siblingPatterns others) := by
  have both := beside "patternProperties"
  rw [siblingPatterns, siblingPatterns]
  generalize siblings.get? "patternProperties" = here,
    others.get? "patternProperties" = there at both
  cases both with
  | none => exact .refl _
  | @some r other alike =>
    have patterns := alike.eachPattern
    dsimp only
    cases first : r.eachPattern <;> cases second : other.eachPattern <;>
      simp_all [SucceedAlike]

theorem additionalProperties_alike (alike : r.Alike other) :
    SucceedAlike (additionalProperties siblings r) (additionalProperties others other) := by
  have same := alike.value
  have compile := alike.compile
  have members := siblingMembers_alike beside
  rw [additionalProperties, additionalProperties]
  refine (siblingPatterns_alike beside).bind fun patterns otherPatterns => ?_
  simp only [sibling_has beside]
  generalize r.value = value, other.value = otherValue at same ⊢
  cases same with
  | bool allowed =>
    cases allowed with
    | true => exact .refl _
    | false =>
      dsimp only
      split
      · exact members.bind fun _ _ => .ok _ _
      · exact .refl _
  | _ =>
    dsimp only
    split
    · exact compile.bind fun _ _ => members.bind fun _ _ => .ok _ _
    · exact members.bind fun _ _ => compile.bind fun _ _ => .ok _ _

theorem additionalItems_alike (alike : r.Alike other) :
    SucceedAlike (additionalItems siblings r) (additionalItems others other) := by
  have same := alike.value
  have compile := alike.compile
  have items := sibling_value beside "items"
  rw [additionalItems, additionalItems]
  generalize siblings.value? "items" = here, others.value? "items" = there at items ⊢
  cases items with
  | none => exact .refl _
  | some under =>
    cases under with
    | arr length each =>
      dsimp only
      generalize r.value = value, other.value = otherValue at same ⊢
      cases same with
      | bool allowed => cases allowed <;> simp [SucceedAlike, assert, silent]
      | obj names each => exact compile.map _ _
      | _ => exact .refl _
    | bool allowed =>
      cases allowed with
      | true => exact .refl _
      | false => exact .refl _
    | obj names each => exact .refl _
    | _ => exact wrongType_alike _ _ _

theorem outcome_alike (keyword : String) :
    SucceedAlike (Constraint.outcome siblings keyword) (Constraint.outcome others keyword) := by
  have both := beside keyword
  rw [Constraint.outcome, Constraint.outcome]
  generalize siblings.get? keyword = here, others.get? keyword = there at both
  cases both with
  | none => exact .refl _
  | some alike => exact alike.compile

theorem conditional_alike (alike : r.Alike other) :
    SucceedAlike (conditional siblings r) (conditional others other) := by
  have noThen := none_iff_of_related (beside "then")
  have noElse := none_iff_of_related (beside "else")
  by_cases alone : siblings.get? "then" = none ∧ siblings.get? "else" = none
  · rw [conditional, conditional, alone.1, alone.2, noThen.mp alone.1, noElse.mp alone.2]
    exact .refl _
  · have otherAlone := alone
    rw [noThen, noElse] at otherAlone
    rw [Constraint.conditional_eq _ _ (Classical.not_and_iff_not_or_not.mp alone),
      Constraint.conditional_eq _ _ (Classical.not_and_iff_not_or_not.mp otherAlone)]
    refine alike.compile.bind fun _ _ => ?_
    refine (outcome_alike beside "then").bind fun _ _ => ?_
    exact (outcome_alike beside "else").bind fun _ _ => .ok _ _

end Siblings

theorem propertyNames_alike {r other : Reading} (alike : r.Alike other) :
    SucceedAlike (propertyNames r) (propertyNames other) := by
  have same := alike.value
  have compile := alike.compile
  rw [propertyNames, propertyNames]
  generalize r.value = value, other.value = otherValue at same ⊢
  cases same with
  | obj names each => exact compile.map _ _
  | bool allowed => cases allowed <;> exact .refl _
  | _ => exact .refl _

theorem items_alike {r other : Reading} (alike : r.Alike other) :
    SucceedAlike (items r) (items other) := by
  have same := alike.value
  have compile := alike.compile
  have each := alike.each
  rw [items, items]
  generalize r.value = value, other.value = otherValue at same ⊢
  cases same with
  | arr => exact each.map _ _
  | obj => exact compile.map _ _
  | bool allowed =>
    cases allowed with
    | true => exact .refl _
    | false => exact compile.map _ _
  | _ => exact .refl _

/-- A keyword compiles or fails to, whatever the order of keys. -/
theorem compile_alike {siblings others : Readings} {r other : Reading}
    (beside : ∀ keyword, Option.Rel Reading.Alike (siblings.get? keyword) (others.get? keyword))
    (alike : r.Alike other) (keyword : String) :
    SucceedAlike (compile siblings keyword r) (compile others keyword other) := by
  have same := alike.value
  unfold compile
  split
  case h_1 => exact types_alike same
  case h_2 => exact options_alike same
  case h_3 => exact .ok _ _
  case h_15 => exact pattern_alike same
  case h_16 => exact format_alike same
  case h_17 => exact contentMediaType_alike beside same
  case h_18 => exact contentEncoding_alike beside same
  case h_19 => exact uniqueItems_alike same
  case h_20 => exact required_alike same
  case h_21 => exact properties_alike beside alike
  case h_22 => exact patternProperties_alike beside alike
  case h_23 => exact additionalProperties_alike beside alike
  case h_24 => exact propertyNames_alike alike
  case h_25 => exact items_alike alike
  case h_26 => exact additionalItems_alike beside alike
  case h_27 => exact alike.compile.map _ _
  case h_28 => exact alike.dependencies
  case h_29 | h_30 | h_31 => exact alike.each.map _ _
  case h_32 => exact alike.compile.map _ _
  case h_33 => exact conditional_alike beside alike
  case h_34 => exact .refl _
  all_goals first
    | exact (number_alike same).map _ _
    | exact (Defect.within_alike (count_alike same) _).map _ _

end Keyword

namespace Constraint

section Readings

variable {base : Url} {keyword : String} {argument other : Json}

def CanDepend (base : Url) (s : Json) : Prop :=
  match s with
  | .arr items => ∃ names, Reading.names items = .ok names
  | s => Compiles base s

theorem exists_dependency_iff (name : String) (s : Json) :
    (∃ c, Keyword.dependency name ⟨s, fun _ => Defect.within keyword (Defect.within name
      (ofJson base s))⟩ = .ok c) ↔ CanDepend base s := by
  cases s with
  | arr items =>
    simp [Keyword.dependency, Keyword.allRequired, CanDepend, map_eq_ok_iff]
  | _ => simp [Keyword.dependency, CanDepend, map_eq_ok_iff, Compiles, Spells]

theorem exists_dependencies_iff :
    (∃ c, Keyword.dependencies (readingOf base keyword argument) = .ok c) ↔
      ∃ members, argument = .obj members ∧ ∀ member ∈ members, CanDepend base member.2 := by
  cases argument with
  | obj members =>
    have each : ∀ cs, List.Forall₂ (fun (member : String × Subschema) c =>
        Keyword.dependency member.1 member.2 = .ok c) (namedSubschemas base keyword members) cs ↔
        List.Forall₂ (fun member c => Keyword.dependency member.1 ⟨member.2, fun _ =>
          Defect.within keyword (Defect.within member.1 (ofJson base member.2))⟩ = .ok c)
            members cs :=
      fun cs => namedSubschemas_forall₂ keyword members (fun name s c =>
        Keyword.dependency name ⟨s, fun _ => Defect.within keyword (Defect.within name
          (ofJson base s))⟩ = .ok c) cs fun _ _ _ => Iff.rfl
    have succeeds := @exists_forall₂_iff _ _ (fun member c => Keyword.dependency member.1
      ⟨member.2, fun _ => Defect.within keyword (Defect.within member.1 (ofJson base member.2))⟩ =
        .ok c) members
    simp only [exists_dependency_iff, ← each, ← mapM_eq_ok_iff] at succeeds
    simp only [Keyword.dependencies, readingOf, exists_map_ok_iff, Json.obj.injEq,
      exists_eq_left', succeeds]
  | _ => simp [Keyword.dependencies, readingOf]

def CompileAlike (base : Url) (size : Nat) : Prop :=
  ∀ s t, sizeOf s ≤ size → Reordered s t → s.DistinctKeys → (Compiles base s ↔ Compiles base t)

theorem CanDepend.alike {size : Nat} (known : CompileAlike base size) {s t : Json}
    (small : sizeOf s ≤ size) (same : Reordered s t) (distinct : s.DistinctKeys) :
    CanDepend base s ↔ CanDepend base t := by
  have schemas := known s t small same distinct
  cases same with
  | arr length each =>
    exact Reading.names_alike ((Reordered.forall₂_iff _ _).mp (.arr length each))
  | _ => exact schemas

section Parts

variable (same : Reordered argument other) (distinct : argument.DistinctKeys)

include same distinct

theorem items_alike (known : CompileAlike base (sizeOf argument)) :
    (∃ items, argument = .arr items ∧ ∀ item ∈ items, Compiles base item) ↔
      ∃ items, other = .arr items ∧ ∀ item ∈ items, Compiles base item := by
  cases same with
  | @arr items others length each =>
    have both : Reordered (.arr items) (.arr others) := .arr length each
    simp only [Json.arr.injEq, exists_eq_left', List.mem_iff_getElem?, forall_exists_index]
    rw [forall_comm, @forall_comm Json Nat]
    refine forall_iff_of_related both.item? fun i item otherItem here _ related => ?_
    have listed := List.mem_of_getElem? here
    have small := Nat.le_of_lt (Json.sizeOf_item_lt listed)
    exact known item otherItem small related (distinct.item listed)
  | _ => simp

theorem members_alike (asked : String → Json → Prop)
    (each : ∀ name s t, sizeOf s ≤ sizeOf argument → Reordered s t → s.DistinctKeys →
      (asked name s ↔ asked name t)) :
    (∃ members, argument = .obj members ∧ ∀ member ∈ members, asked member.1 member.2) ↔
      ∃ members, other = .obj members ∧ ∀ member ∈ members, asked member.1 member.2 := by
  have otherDistinct := same.distinctKeys distinct
  cases same with
  | @obj members others names related =>
    simp only [Json.obj.injEq, exists_eq_left']
    rw [Json.forall_members_iff distinct, Json.forall_members_iff otherDistinct]
    have both : Reordered (.obj members) (.obj others) := .obj names related
    refine forall_iff_of_related both.field? fun name s t here _ alike => ?_
    have small := Nat.le_of_lt (Json.sizeOf_field_lt here)
    exact each name s t small alike (distinct.field here)
  | _ => simp

theorem readingOf_alike (known : CompileAlike base (sizeOf argument)) :
    (readingOf base keyword argument).Alike (readingOf base keyword other) where
  value := same
  compile := by
    simp only [SucceedAlike, compile_readingOf]
    exact known argument other (Nat.le_refl _) same distinct
  each := by
    rw [SucceedAlike, exists_each_iff, exists_each_iff]
    exact items_alike same distinct known
  eachMember := by
    rw [SucceedAlike, exists_eachMember_iff, exists_eachMember_iff]
    exact members_alike same distinct (fun _ => Compiles base) fun _ => known
  eachPattern := by
    rw [SucceedAlike, exists_eachPattern_iff, exists_eachPattern_iff]
    refine members_alike same distinct (fun name s =>
      (∃ pattern, Pattern.ofText? name = some pattern) ∧ Compiles base s) ?_
    intro name s t small related unique
    rw [known s t small related unique]
  dependencies := by
    rw [SucceedAlike, exists_dependencies_iff, exists_dependencies_iff]
    exact members_alike same distinct (fun _ => CanDepend base) fun _ _ _ => CanDepend.alike known

end Parts

end Readings

section Objects

variable {base : Url} {fields others : Fields} (same : Reordered (.obj fields) (.obj others))
  (distinct : (Json.obj fields).DistinctKeys)

include same distinct

theorem readingsOf_alike (known : ∀ keyword argument, fields.get? keyword = some argument →
    CompileAlike base (sizeOf argument)) (keyword : String) :
    Option.Rel Reading.Alike ((readingsOf base fields).get? keyword)
      ((readingsOf base others).get? keyword) := by
  have under := same.get? keyword
  rw [get?_readingsOf, get?_readingsOf]
  cases here : fields.get? keyword with
  | none =>
    rw [(none_iff_of_related under).mp here]
    exact .none
  | some argument =>
    obtain ⟨otherArgument, there, related⟩ := exists_of_related under here
    rw [there]
    have unique := distinct.member (Fields.mem_of_get? here)
    exact .some (readingOf_alike related unique (known keyword argument here))

theorem compiles_obj_alike (beside : ∀ keyword, Option.Rel Reading.Alike
    ((readingsOf base fields).get? keyword) ((readingsOf base others).get? keyword)) :
    Compiles base (.obj fields) ↔ Compiles base (.obj others) := by
  have otherDistinct := same.distinctKeys distinct
  have reference := same.get? "$ref"
  cases here : fields.get? "$ref" with
  | none =>
    have there := (none_iff_of_related reference).mp here
    rw [compiles_obj_iff distinct.names here, compiles_obj_iff otherDistinct.names there]
    refine forall_iff_of_related same.get? fun keyword argument otherArgument found other _ => ?_
    have alike := beside keyword
    rw [get?_readingsOf, get?_readingsOf, found, other] at alike
    exact Keyword.compile_alike beside (Option.rel_some_some.mp alike) keyword
  | some target =>
    obtain ⟨otherTarget, there, related⟩ := exists_of_related reference here
    change SucceedAlike ((readingsOf base fields).compile base)
      ((readingsOf base others).compile base)
    simp only [Readings.compile, get?_readingsOf, here, there, Option.map_some, readingOf]
    cases related with
    | str text => exact .refl _
    | _ => exact Reading.wrongType_alike _ _ _

end Objects

/-- A schema compiles or fails to, whatever the order of keys in it. -/
theorem compiles_reordered {base : Url} {schema other : Json} (same : Reordered schema other)
    (distinct : schema.DistinctKeys) : Compiles base schema ↔ Compiles base other := by
  induction size : sizeOf schema using Nat.strongRecOn generalizing schema other with
  | ind size ih =>
    cases same with
    | @obj fields others names each =>
      have both : Reordered (.obj fields) (.obj others) := .obj names each
      refine compiles_obj_alike both distinct (readingsOf_alike both distinct ?_)
      intro keyword argument found s t small alike unique
      have smaller := Json.sizeOf_member_lt (Fields.mem_of_get? found)
      exact ih (sizeOf s) (by omega) alike unique rfl
    | arr length each => simp [Compiles, Spells, ofJson]
    | _ => rfl

end Constraint

/-- Whether a schema is taken for use does not depend on the order of keys in it. -/
theorem Admissible.reordered {schema other : Json} (same : Reordered schema other)
    (distinct : schema.DistinctKeys) : Admissible schema ↔ Admissible other := by
  have accepted := MetaSchema.accepts_orderless schema other same distinct
  have compiles := @Constraint.compiles_reordered Url.unnamed schema other same distinct
  constructor
  · rintro ⟨here, made⟩
    exact ⟨accepted ▸ here, compiles.mp made⟩
  · rintro ⟨there, made⟩
    exact ⟨accepted ▸ there, compiles.mpr made⟩

end AccessRules
