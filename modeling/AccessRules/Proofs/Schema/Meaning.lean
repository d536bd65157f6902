import AccessRules.Proofs.Json.Fields
import AccessRules.Rule.Validator

/-!
What a document says of a value. A constraint asks its references only about the value and its
parts, so the meaning of references need not know what a value is a part of. A value is accepted
exactly when nothing is found wrong with it.
-/

namespace AccessRules

namespace Constraint

section Congruence

variable {refs others : String → Json → Bool} {limit : Nat}

def AgreeUpTo (limit : Nat) (refs others : String → Json → Bool) : Prop :=
  ∀ target value, value.depth ≤ limit → refs target value = others target value

theorem onFields_congr {value : Json} {test other : Fields → Bool}
    (same : ∀ fields, value = .obj fields → test fields = other fields) :
    Assertion.onFields value test = Assertion.onFields value other := by
  cases value with
  | obj fields => exact same fields rfl
  | _ => rfl

theorem onItems_congr {value : Json} {test other : List Json → Bool}
    (same : ∀ items, value = .arr items → test items = other items) :
    Assertion.onItems value test = Assertion.onItems value other := by
  cases value with
  | arr items => exact same items rfl
  | _ => rfl

theorem all_congr_mem {α : Type} {items : List α} {test other : α → Bool}
    (same : ∀ item ∈ items, test item = other item) : items.all test = items.all other := by
  induction items with
  | nil => rfl
  | cons item rest ih =>
    simp only [List.all_cons, same item List.mem_cons_self,
      ih fun item later => same item (List.mem_cons_of_mem _ later)]

theorem any_congr_mem {α : Type} {items : List α} {test other : α → Bool}
    (same : ∀ item ∈ items, test item = other item) : items.any test = items.any other := by
  induction items with
  | nil => rfl
  | cons item rest ih =>
    simp only [List.any_cons, same item List.mem_cons_self,
      ih fun item later => same item (List.mem_cons_of_mem _ later)]

mutual

theorem accepts_congr (agree : AgreeUpTo limit refs others) :
    ∀ (c : Constraint) (value : Json), value.depth ≤ limit →
      accepts refs c value = accepts others c value
  | .never, _, _ => rfl
  | .assertion _, _, _ => rfl
  | .every parts, value, small => by
    simp only [accepts, acceptsAll_congr agree parts value small]
  | .anyOf branches, value, small => by
    simp only [accepts, acceptsEach_congr agree branches value small]
  | .oneOf branches, value, small => by
    simp only [accepts, acceptsEach_congr agree branches value small]
  | .negation _ inner, value, small => by
    simp only [accepts, accepts_congr agree inner value small]
  | .choice test whenMet otherwise, value, small => by
    simp only [accepts, accepts_congr agree test value small,
      accepts_congr agree whenMet value small, accepts_congr agree otherwise value small]
  | .property name inner, value, small => by
    simp only [accepts]
    cases found : value.field? name with
    | none => rfl
    | some part =>
      have deeper := Json.depth_field_lt found
      exact accepts_congr agree inner part (by omega)
  | .matching pattern inner, value, small => by
    simp only [accepts]
    refine onFields_congr fun fields isObject => all_congr_mem fun (name, part) listed => ?_
    subst isObject
    have deeper := Json.depth_member_lt listed
    simp only [accepts_congr agree inner part (by omega)]
  | .closed known patterns other, value, small => by
    simp only [accepts]
    refine onFields_congr fun fields isObject => all_congr_mem fun (name, part) listed => ?_
    subst isObject
    have deeper := Json.depth_member_lt listed
    simp only [acceptsKnown_congr agree known name part (by omega),
      acceptsMatched_congr agree patterns name part (by omega),
      acceptsOther_congr agree other part (by omega)]
  | .names inner, value, small => by
    simp only [accepts]
    refine onFields_congr fun fields _ => all_congr_mem fun (name, _) _ => ?_
    exact accepts_congr agree inner (.str name) (Nat.zero_le _)
  | .given name inner, value, small => by
    simp only [accepts, accepts_congr agree inner value small]
  | .item index inner, value, small => by
    simp only [accepts]
    refine onItems_congr fun items isArray => ?_
    cases found : items[index]? with
    | none => rfl
    | some part =>
      subst isArray
      have deeper := Json.depth_item_lt (List.mem_of_getElem? found)
      exact accepts_congr agree inner part (by omega)
  | .itemsFrom start inner, value, small => by
    simp only [accepts]
    refine onItems_congr fun items isArray => all_congr_mem fun part listed => ?_
    subst isArray
    have deeper := Json.depth_item_lt (List.mem_of_mem_drop listed)
    exact accepts_congr agree inner part (by omega)
  | .contains inner, value, small => by
    simp only [accepts]
    refine onItems_congr fun items isArray => any_congr_mem fun part listed => ?_
    subst isArray
    have deeper := Json.depth_item_lt listed
    exact accepts_congr agree inner part (by omega)
  | .reference target, value, small => agree target value small
termination_by structural c => c

theorem acceptsAll_congr (agree : AgreeUpTo limit refs others) :
    ∀ (parts : List Constraint) (value : Json), value.depth ≤ limit →
      acceptsAll refs parts value = acceptsAll others parts value
  | [], _, _ => rfl
  | part :: rest, value, small => by
    simp only [acceptsAll, accepts_congr agree part value small,
      acceptsAll_congr agree rest value small]

theorem acceptsEach_congr (agree : AgreeUpTo limit refs others) :
    ∀ (branches : List Constraint) (value : Json), value.depth ≤ limit →
      acceptsEach refs branches value = acceptsEach others branches value
  | [], _, _ => rfl
  | branch :: rest, value, small => by
    simp only [acceptsEach, accepts_congr agree branch value small,
      acceptsEach_congr agree rest value small]

theorem acceptsKnown_congr (agree : AgreeUpTo limit refs others) :
    ∀ (known : List (String × Constraint)) (name : String) (part : Json), part.depth ≤ limit →
      acceptsKnown refs known name part = acceptsKnown others known name part
  | [], _, _, _ => rfl
  | (_, inner) :: rest, name, part, small => by
    simp only [acceptsKnown, accepts_congr agree inner part small,
      acceptsKnown_congr agree rest name part small]

theorem acceptsMatched_congr (agree : AgreeUpTo limit refs others) :
    ∀ (patterns : List (Pattern × Constraint)) (name : String) (part : Json),
      part.depth ≤ limit →
      acceptsMatched refs patterns name part = acceptsMatched others patterns name part
  | [], _, _, _ => rfl
  | (_, inner) :: rest, name, part, small => by
    simp only [acceptsMatched, accepts_congr agree inner part small,
      acceptsMatched_congr agree rest name part small]

theorem acceptsOther_congr (agree : AgreeUpTo limit refs others) :
    ∀ (other : Option Constraint) (part : Json), part.depth ≤ limit →
      acceptsOther refs other part = acceptsOther others other part
  | none, _, _ => rfl
  | some inner, part, small => accepts_congr agree inner part small

end

end Congruence

section Violations

variable {refs : References}

/-- References find nothing wrong with exactly the values that they accept. -/
def Consistent (refs : References) : Prop :=
  ∀ target value, refs.violations target value = [] ↔ refs.accepts target value = true

theorem violationsOfAssertion_eq_nil (a : Assertion) (value : Json) :
    violationsOfAssertion a value = [] ↔ a.holds value = true := by
  unfold violationsOfAssertion
  split
  · rename_i source pattern s
    simp only [Assertion.holds, Assertion.onString, Pattern.occursIn]
    cases pattern.search s with
    | error exhaustion => simp
    | ok found => cases found <;> simp
  · rename_i s
    simp only [Assertion.holds, Assertion.onString]
    cases Assertion.base64Text? s with
    | none => simp
    | some decoded =>
      cases decoded with
      | error flaw => simp
      | ok text => cases h : Assertion.isJsonText text <;> simp [h]
  · cases h : a.holds value <;> simp

theorem acceptsKnown_eq_none_iff (refs : String → Json → Bool) (known : List (String × Constraint))
    (name : String) (part : Json) :
    acceptsKnown refs known name part = none ↔ known.any (fun k => k.1 == name) = false := by
  induction known with
  | nil => simp [acceptsKnown]
  | cons first rest ih =>
    obtain ⟨key, inner⟩ := first
    by_cases same : key = name
    · simp [acceptsKnown, same]
    · simp [acceptsKnown, same, ih]

theorem acceptsMatched_isEmpty (refs : String → Json → Bool)
    (patterns : List (Pattern × Constraint)) (name : String) (part : Json) :
    (acceptsMatched refs patterns name part).isEmpty =
      !patterns.any fun p => p.1.occursIn name := by
  induction patterns with
  | nil => rfl
  | cons first rest ih =>
    obtain ⟨pattern, inner⟩ := first
    cases hit : pattern.occursIn name <;> simp [acceptsMatched, hit, ih]

theorem located_eq_nil (step : String) (found : List Violation) :
    located step found = [] ↔ found = [] := List.map_eq_nil_iff

def acceptsField (refs : String → Json → Bool) (known : List (String × Constraint))
    (patterns : List (Pattern × Constraint)) (other : Option Constraint) (name : String)
    (part : Json) : Bool :=
  let matched := acceptsMatched refs patterns name part
  match acceptsKnown refs known name part with
  | some accepted => accepted && matched.all id
  | none => if matched.isEmpty then acceptsOther refs other part else matched.all id

theorem accepts_closed (refs : String → Json → Bool) (known : List (String × Constraint))
    (patterns : List (Pattern × Constraint)) (other : Option Constraint) (fields : Fields) :
    accepts refs (.closed known patterns other) (.obj fields) = true ↔
      ∀ field ∈ fields, acceptsField refs known patterns other field.1 field.2 = true := by
  simp only [accepts, Assertion.onFields, List.all_eq_true]
  rfl

def violationsOfField (refs : References) (known : List (String × Constraint))
    (patterns : List (Pattern × Constraint)) (other : Option Constraint) (name : String)
    (part : Json) : List Violation :=
  let matched := violationsOfMatched refs patterns name part
  match violationsOfKnown refs known name part with
  | some ofKnown => located name (ofKnown ++ matched.flatten)
  | none =>
    if matched.isEmpty then located name (violationsOfOther refs other part)
    else located name matched.flatten

def unexpectedNames (known : List (String × Constraint)) (patterns : List (Pattern × Constraint))
    (other : Option Constraint) (fields : Fields) : List String :=
  if other.isSome then [] else
    (fields.filter fun f =>
      !known.any (fun k => k.1 == f.1) && !patterns.any (fun p => p.1.occursIn f.1)).map (·.1)

theorem violations_closed (known : List (String × Constraint))
    (patterns : List (Pattern × Constraint)) (other : Option Constraint) (fields : Fields) :
    violations refs (.closed known patterns other) (.obj fields) =
      let found := fields.flatMap fun f => violationsOfField refs known patterns other f.1 f.2
      let extra := unexpectedNames known patterns other fields
      if extra.isEmpty then found else found ++ [.here (.unexpectedProperties extra)] := by
  simp only [violations]
  rfl

theorem unexpectedNames_eq_nil (known : List (String × Constraint))
    (patterns : List (Pattern × Constraint)) (other : Option Constraint) (fields : Fields) :
    unexpectedNames known patterns other fields = [] ↔
      other.isSome = true ∨ ∀ f ∈ fields, known.any (fun k => k.1 == f.1) = true ∨
        patterns.any (fun p => p.1.occursIn f.1) = true := by
  cases other with
  | some inner => simp [unexpectedNames]
  | none =>
    simp only [unexpectedNames, Option.isSome_none, Bool.false_eq_true, if_false, false_or,
      List.map_eq_nil_iff, List.filter_eq_nil_iff, Bool.and_eq_true, Bool.not_eq_true',
      Classical.not_and_iff_not_or_not, Bool.not_eq_false]

/-- Nothing is wrong with a property's value, and the property may be there. -/
theorem field_eq_nil {known : List (String × Constraint)} {patterns : List (Pattern × Constraint)}
    {other : Option Constraint}
    (ofKnown : ∀ name part, (violationsOfKnown refs known name part).map (·.isEmpty) =
      acceptsKnown refs.accepts known name part)
    (ofMatched : ∀ name part, (violationsOfMatched refs patterns name part).map (·.isEmpty) =
      acceptsMatched refs.accepts patterns name part)
    (ofOther : other.isSome = true → ∀ part, violationsOfOther refs other part = [] ↔
      acceptsOther refs.accepts other part = true) (name : String) (part : Json) :
    (violationsOfField refs known patterns other name part = [] ∧
      (other.isSome = true ∨ known.any (fun k => k.1 == name) = true ∨
        patterns.any (fun p => p.1.occursIn name) = true)) ↔
      acceptsField refs.accepts known patterns other name part = true := by
  have flat : (violationsOfMatched refs patterns name part).flatten = [] ↔
      (acceptsMatched refs.accepts patterns name part).all id = true := by
    rw [← ofMatched name part]
    simp [List.flatten_eq_nil_iff]
  have empty : (violationsOfMatched refs patterns name part).isEmpty =
      !patterns.any fun p => p.1.occursIn name := by
    rw [← acceptsMatched_isEmpty refs.accepts patterns name part, ← ofMatched name part]
    simp
  have unknown := acceptsKnown_eq_none_iff refs.accepts known name part
  rw [violationsOfField, acceptsField, acceptsMatched_isEmpty, empty]
  cases found : violationsOfKnown refs known name part with
  | some ofKnown' =>
    have accepted : acceptsKnown refs.accepts known name part = some ofKnown'.isEmpty := by
      rw [← ofKnown name part, found]
      rfl
    have isKnown : known.any (fun k => k.1 == name) = true := by
      rw [← Bool.not_eq_false, ← unknown, accepted]
      simp
    simp [accepted, isKnown, located_eq_nil, flat]
  | none =>
    have accepted : acceptsKnown refs.accepts known name part = none := by
      rw [← ofKnown name part, found]
      rfl
    rw [accepted, unknown.mp accepted]
    cases hit : patterns.any fun p => p.1.occursIn name with
    | true => simp [located_eq_nil, flat]
    | false =>
      cases other with
      | none => simp [acceptsOther]
      | some inner => simp [located_eq_nil, ofOther rfl part]

theorem closed_eq_nil {known : List (String × Constraint)}
    {patterns : List (Pattern × Constraint)} {other : Option Constraint} {fields : Fields}
    (ofKnown : ∀ name part, (violationsOfKnown refs known name part).map (·.isEmpty) =
      acceptsKnown refs.accepts known name part)
    (ofMatched : ∀ name part, (violationsOfMatched refs patterns name part).map (·.isEmpty) =
      acceptsMatched refs.accepts patterns name part)
    (ofOther : other.isSome = true → ∀ part, violationsOfOther refs other part = [] ↔
      acceptsOther refs.accepts other part = true) :
    violations refs (.closed known patterns other) (.obj fields) = [] ↔
      accepts refs.accepts (.closed known patterns other) (.obj fields) = true := by
  have field := field_eq_nil ofKnown ofMatched ofOther
  have found : violations refs (.closed known patterns other) (.obj fields) = [] ↔
      (∀ f ∈ fields, violationsOfField refs known patterns other f.1 f.2 = []) ∧
      (other.isSome = true ∨ ∀ f ∈ fields, known.any (fun k => k.1 == f.1) = true ∨
        patterns.any (fun p => p.1.occursIn f.1) = true) := by
    rw [violations_closed]
    dsimp only
    split
    · rename_i inside
      rw [List.flatMap_eq_nil_iff]
      exact (and_iff_left ((unexpectedNames_eq_nil known patterns other fields).mp
        (List.isEmpty_iff.mp inside))).symm
    · rename_i outside
      rw [List.isEmpty_iff, unexpectedNames_eq_nil] at outside
      constructor
      · intro none
        exact absurd (List.append_eq_nil_iff.mp none).2 (by simp)
      · intro both
        exact absurd both.2 outside
  rw [found, accepts_closed]
  simp only [← field]
  constructor
  · rintro ⟨sound, open_ | closed⟩ f listed
    · exact ⟨sound f listed, .inl open_⟩
    · exact ⟨sound f listed, .inr (closed f listed)⟩
  · intro each
    refine ⟨fun f listed => (each f listed).1, ?_⟩
    cases other with
    | some inner => exact .inl rfl
    | none => exact .inr fun f listed => (each f listed).2.resolve_left (by simp)

mutual

theorem violations_eq_nil (consistent : Consistent refs) :
    ∀ (c : Constraint) (value : Json),
      violations refs c value = [] ↔ accepts refs.accepts c value = true
  | .never, _ => by simp [violations, accepts]
  | .assertion a, value => violationsOfAssertion_eq_nil a value
  | .every parts, value => violationsOfAll_eq_nil consistent parts value
  | .anyOf branches, value => by
    cases h : accepts refs.accepts (.anyOf branches) value <;> simp [violations, h]
  | .oneOf branches, value => by
    cases h : accepts refs.accepts (.oneOf branches) value
    · cases any : accepts refs.accepts (.anyOf branches) value <;> simp [violations, h, any]
    · simp [violations, h]
  | .negation schema inner, value => by
    cases h : accepts refs.accepts inner value <;> simp [violations, accepts, h]
  | .choice test whenMet otherwise, value => by
    cases h : accepts refs.accepts test value
    · simp [violations, accepts, h, violations_eq_nil consistent otherwise value]
    · simp [violations, accepts, h, violations_eq_nil consistent whenMet value]
  | .property name inner, value => by
    simp only [violations, accepts]
    cases value.field? name with
    | none => simp
    | some part => simp only [located_eq_nil, violations_eq_nil consistent inner part]
  | .matching pattern inner, value => by
    cases value with
    | obj fields =>
      simp only [violations, accepts, Assertion.onFields, List.flatMap_eq_nil_iff,
        List.all_eq_true]
      refine forall₂_congr fun field _ => ?_
      cases pattern.occursIn field.1
      · simp
      · simp [located_eq_nil, violations_eq_nil consistent inner field.2]
    | _ => simp [violations, accepts, Assertion.onFields]
  | .closed known patterns other, value => by
    cases value with
    | obj fields =>
      exact closed_eq_nil (violationsOfKnown_eq_nil consistent known)
        (violationsOfMatched_eq_nil consistent patterns) (violationsOfOther_eq_nil consistent other)
    | _ => simp [violations, accepts, Assertion.onFields]
  | .names inner, value => by
    cases value with
    | obj fields =>
      simp only [violations, accepts, Assertion.onFields, List.flatMap_eq_nil_iff,
        List.all_eq_true, List.map_eq_nil_iff]
      exact forall₂_congr fun field _ => violations_eq_nil consistent inner (.str field.1)
    | _ => simp [violations, accepts, Assertion.onFields]
  | .given name inner, value => by
    simp only [violations, accepts]
    cases value.field? name with
    | none => simp
    | some part => exact violations_eq_nil consistent inner value
  | .item index inner, value => by
    cases value with
    | arr items =>
      simp only [violations, accepts, Assertion.onItems]
      cases items[index]? with
      | none => simp
      | some part => simp only [located_eq_nil, violations_eq_nil consistent inner part]
    | _ => simp [violations, accepts, Assertion.onItems]
  | .itemsFrom start inner, value => by
    cases value with
    | arr items =>
      simp only [violations, accepts, Assertion.onItems, List.flatMap_eq_nil_iff,
        List.all_eq_true, located_eq_nil, violations_eq_nil consistent inner]
      conv => rhs; rw [← List.zipIdx_map_fst 0 (items.drop start)]
      rw [List.forall_mem_map]
    | _ => simp [violations, accepts, Assertion.onItems]
  | .contains inner, value => by
    cases h : accepts refs.accepts (.contains inner) value <;> simp [violations, h]
  | .reference target, value => consistent target value
termination_by structural c => c

theorem violationsOfAll_eq_nil (consistent : Consistent refs) :
    ∀ (parts : List Constraint) (value : Json),
      violationsOfAll refs parts value = [] ↔ acceptsAll refs.accepts parts value = true
  | [], _ => by simp [violationsOfAll, acceptsAll]
  | part :: rest, value => by
    simp only [violationsOfAll, acceptsAll, List.append_eq_nil_iff, Bool.and_eq_true,
      violations_eq_nil consistent part value, violationsOfAll_eq_nil consistent rest value]

theorem violationsOfKnown_eq_nil (consistent : Consistent refs) :
    ∀ (known : List (String × Constraint)) (name : String) (part : Json),
      (violationsOfKnown refs known name part).map (·.isEmpty) =
        acceptsKnown refs.accepts known name part
  | [], _, _ => rfl
  | (key, inner) :: rest, name, part => by
    have here : (violations refs inner part).isEmpty = accepts refs.accepts inner part := by
      rw [Bool.eq_iff_iff, List.isEmpty_iff, violations_eq_nil consistent inner part]
    have later := violationsOfKnown_eq_nil consistent rest name part
    by_cases same : key = name
    · simp [violationsOfKnown, acceptsKnown, same, here]
    · simpa [violationsOfKnown, acceptsKnown, same] using later

theorem violationsOfMatched_eq_nil (consistent : Consistent refs) :
    ∀ (patterns : List (Pattern × Constraint)) (name : String) (part : Json),
      (violationsOfMatched refs patterns name part).map (·.isEmpty) =
        acceptsMatched refs.accepts patterns name part
  | [], _, _ => rfl
  | (pattern, inner) :: rest, name, part => by
    have here : (violations refs inner part).isEmpty = accepts refs.accepts inner part := by
      rw [Bool.eq_iff_iff, List.isEmpty_iff, violations_eq_nil consistent inner part]
    have later := violationsOfMatched_eq_nil consistent rest name part
    cases hit : pattern.occursIn name
    · simpa [violationsOfMatched, acceptsMatched, hit] using later
    · simp [violationsOfMatched, acceptsMatched, hit, later, here]

theorem violationsOfOther_eq_nil (consistent : Consistent refs) :
    ∀ (other : Option Constraint), other.isSome = true → ∀ part,
      violationsOfOther refs other part = [] ↔ acceptsOther refs.accepts other part = true
  | none, present, _ => by simp at present
  | some inner, _, part => violations_eq_nil consistent inner part

end

end Violations

end Constraint

namespace SchemaDocument

/-- What a reference in the document says of a value, whatever the value is a part of. -/
def admits (document : SchemaDocument) (target : String) (value : Json) : Bool :=
  (document.referencesOn value).accepts target value

section References

variable {targets : List (String × Target)}

/-- On values of one depth it makes no difference how much deeper the meaning of references reaches,
if it makes none on what lies below. -/
theorem following_agree {depth : Nat} {parts others : References}
    (below : ∀ target value, value.depth < depth →
      parts.accepts target value = others.accepts target value) (budget : Nat) :
    ∀ target value, value.depth = depth → (following targets parts budget).accepts target value =
      (following targets others budget).accepts target value := by
  -- every reference that is followed on the value itself leaves a smaller budget for it
  induction budget with
  | zero => exact fun _ _ _ => rfl
  | succ budget ih =>
    intro target value here
    simp only [following]
    split
    · rename_i c found
      apply Constraint.accepts_congr _ c value (Nat.le_refl _)
      intro other part small
      simp only [splitAt]
      split
      · exact below other part (by omega)
      · exact ih other part (by omega)
    · rfl

theorem meaning_agree (depth : Nat) : ∀ target value, value.depth = depth → ∀ reach others : Nat,
    depth < reach → depth < others →
      (meaning targets reach).accepts target value =
        (meaning targets others).accepts target value := by
  -- the parts of the value are less deep, so that both reaches are still enough for them
  induction depth using Nat.strongRecOn with
  | ind depth ih =>
    intro target value here reach others deep deeper
    obtain ⟨r, rfl⟩ := Nat.exists_eq_add_one_of_ne_zero (Nat.ne_zero_of_lt deep)
    obtain ⟨o, rfl⟩ := Nat.exists_eq_add_one_of_ne_zero (Nat.ne_zero_of_lt deeper)
    exact following_agree (fun other part small =>
      ih part.depth small other part rfl r o (by omega) (by omega)) _ target value here

theorem following_consistent {parts : References} (consistent : Constraint.Consistent parts)
    (budget : Nat) : Constraint.Consistent (following targets parts budget) := by
  induction budget with
  | zero => intro target value; simp [following, exhausted]
  | succ budget ih =>
    intro target value
    simp only [following]
    cases target? targets target with
    | none => simp
    | some found =>
      cases found with
      | error defect => simp
      | ok c =>
        apply Constraint.violations_eq_nil
        intro other part
        simp only [splitAt]
        split
        · exact consistent other part
        · exact ih other part

theorem meaning_consistent (reach : Nat) : Constraint.Consistent (meaning targets reach) := by
  induction reach with
  | zero => intro target value; simp [meaning, exhausted]
  | succ reach ih => exact following_consistent ih _

end References

variable (document : SchemaDocument)

theorem agreeUpTo_admits (value : Json) :
    Constraint.AgreeUpTo value.depth (document.referencesOn value).accepts document.admits := by
  intro target part small
  exact meaning_agree part.depth target part rfl _ _ (by omega) (by omega)

theorem accepts_eq (value : Json) :
    document.accepts value = document.root.accepts document.admits value :=
  Constraint.accepts_congr (agreeUpTo_admits document value) _ _ (Nat.le_refl _)

theorem violations_eq_nil_iff (value : Json) :
    document.violations value = [] ↔ document.accepts value = true :=
  Constraint.violations_eq_nil (meaning_consistent _) _ _

/-- What a reference to a constraint says of a value, the constraint's own references having one
less to follow on the value itself. -/
theorem admits_eq {target : String} {c : Constraint} (found : target? document.targets target = some
    (.ok c)) (value : Json) : document.admits target value = c.accepts (fun other part =>
      if part.depth < value.depth then document.admits other part
      else (following document.targets (meaning document.targets value.depth)
        document.targets.length).accepts other part) value := by
  simp only [admits, referencesOn, meaning, following, found]
  apply Constraint.accepts_congr _ c value (Nat.le_refl _)
  intro other part _
  simp only [splitAt]
  split
  · rename_i deeper
    exact meaning_agree part.depth other part rfl _ _ deeper (Nat.lt_succ_self _)
  · rfl

end SchemaDocument

end AccessRules
