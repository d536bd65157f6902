import AccessRules.Proofs.Schema.Assertions
import AccessRules.Proofs.Schema.Places

/-!
What the keywords that read schemas compile to, the ones for properties apart. Each is taken by
itself, given that the schemas in it are compiled faithfully.
-/

namespace AccessRules

namespace Constraint

variable {base : Url} {refs : String → Json → Bool}

/-- Whatever the schema compiles to says what the schema says. -/
def Faithful (base : Url) (refs : String → Json → Bool) (schema : Json) : Prop :=
  ∀ c, Spells base schema c → ∀ value, value.DistinctKeys →
    (accepts refs c value = true ↔ Satisfies .validator schema value)

def Agrees (refs : String → Json → Bool) (value : Json) (schema : Json) (c : Constraint) : Prop :=
  accepts refs c value = true ↔ Satisfies .validator schema value

theorem forall₂_agrees {ss : List Json} {cs : List Constraint} {value : Json}
    (spelled : List.Forall₂ (Spells base) ss cs) (faithful : ∀ s ∈ ss, Faithful base refs s)
    (distinct : value.DistinctKeys) : List.Forall₂ (Agrees refs value) ss cs :=
  forall₂_imp_mem spelled fun s listed c first => faithful s listed c first value distinct

section Lists

variable {ss : List Json} {cs : List Constraint} {value : Json}

theorem acceptsAll_agrees (alike : List.Forall₂ (Agrees refs value) ss cs) :
    acceptsAll refs cs value = true ↔ ∀ s ∈ ss, Satisfies .validator s value := by
  induction alike with
  | nil => simp [acceptsAll]
  | @cons s c ss cs first _ ih =>
    have here : accepts refs c value = true ↔ Satisfies .validator s value := first
    simp [acceptsAll, ih, here]

theorem acceptsEach_any (alike : List.Forall₂ (Agrees refs value) ss cs) :
    (acceptsEach refs cs value).any id = true ↔ ∃ s ∈ ss, Satisfies .validator s value := by
  induction alike with
  | nil => simp [acceptsEach]
  | cons first _ ih => simp_all [acceptsEach, Agrees]

/-- One of `n + 1` places is the only one when it is the first and none of the others is, or when it
is the only one of the others and the first is none. -/
theorem existsUnique_fin_succ {n : Nat} (chosen : Fin (n + 1) → Prop) : (∃! i, chosen i) ↔
    (chosen 0 ∧ ∀ i : Fin n, ¬ chosen i.succ) ∨ (¬ chosen 0 ∧ ∃! i : Fin n, chosen i.succ) := by
  constructor
  · rintro ⟨i, here, only⟩
    cases i using Fin.cases with
    | zero =>
      refine .inl ⟨here, fun i also => ?_⟩
      exact absurd (only _ also) (Fin.succ_ne_zero i)
    | succ i =>
      refine .inr ⟨fun also => absurd (only _ also) (Fin.succ_ne_zero i).symm, i, here, ?_⟩
      exact fun j also => Fin.succ_inj.mp (only _ also)
  · rintro (⟨here, others⟩ | ⟨first, i, here, only⟩)
    · refine ⟨0, here, fun j also => ?_⟩
      cases j using Fin.cases with
      | zero => rfl
      | succ j => exact absurd also (others j)
    · refine ⟨i.succ, here, fun j also => ?_⟩
      cases j using Fin.cases with
      | zero => exact absurd also first
      | succ j => exact congrArg Fin.succ (only j also)

theorem exactlyOne_acceptsEach (alike : List.Forall₂ (Agrees refs value) ss cs) :
    exactlyOne (acceptsEach refs cs value) = true ↔
      ∃! i : Fin ss.length, Satisfies .validator (ss.get i) value := by
  induction alike with
  | nil =>
    simp only [acceptsEach, exactlyOne, Bool.false_eq_true, false_iff]
    rintro ⟨i, _⟩
    exact i.elim0
  | @cons s c ss cs first rest ih =>
    refine Iff.trans ?_ (existsUnique_fin_succ fun i : Fin (s :: ss).length =>
      Satisfies .validator ((s :: ss).get i) value).symm
    have others : (acceptsEach refs cs value).any id = false ↔
        ∀ i : Fin ss.length, ¬ Satisfies .validator (ss.get i) value := by
      rw [← Bool.not_eq_true, acceptsEach_any rest]
      constructor
      · exact fun none i met => none ⟨_, List.get_mem ss i, met⟩
      · rintro none ⟨s, listed, met⟩
        obtain ⟨i, bound, rfl⟩ := List.mem_iff_getElem.mp listed
        exact none ⟨i, bound⟩ met
    cases accepted : accepts refs c value with
    | true =>
      have met : Satisfies .validator s value := first.mp accepted
      simp only [acceptsEach, accepted, exactlyOne, Bool.not_eq_true', others]
      simp [met]
    | false =>
      have unmet : ¬ Satisfies .validator s value := fun met => by simp [first.mpr met] at accepted
      simp only [acceptsEach, accepted, exactlyOne, ih]
      simp [unmet]

theorem tuple_agrees (items : List Json) (spelled : List.Forall₂ (Spells base) ss cs)
    (faithful : ∀ s ∈ ss, Faithful base refs s) (distinct : ∀ item ∈ items, item.DistinctKeys)
    (start : Nat) :
    (∀ part ∈ (cs.zipIdx start).map fun (c, i) => Constraint.item i c,
      accepts refs part (.arr items) = true) ↔
    ∀ (i : Nat) s part, ss[i]? = some s → items[start + i]? = some part →
      Satisfies .validator s part := by
  induction spelled generalizing start with
  | nil => simp
  | @cons s c ss cs first _ ih =>
    have here : accepts refs (.item start c) (.arr items) = true ↔
        ∀ part, items[start]? = some part → Satisfies .validator s part := by
      simp only [accepts, Assertion.onItems]
      cases found : items[start]? with
      | none => simp
      | some part =>
        have parts := distinct part (List.mem_of_getElem? found)
        simp [faithful s List.mem_cons_self c first part parts]
    have later :=
      ih (fun other member => faithful other (List.mem_cons_of_mem _ member)) (start + 1)
    rw [List.zipIdx_cons, List.map_cons, List.forall_mem_cons, here, later]
    constructor
    · rintro ⟨atStart, after⟩ i t part listed found
      cases i with
      | zero =>
        cases Option.some.inj listed
        exact atStart part found
      | succ i =>
        refine after i t part listed ?_
        rwa [show start + 1 + i = start + (i + 1) by omega]
    · intro each
      refine ⟨fun part found => each 0 s part rfl found, fun i t part listed found => ?_⟩
      refine each (i + 1) t part listed ?_
      rwa [show start + (i + 1) = start + 1 + i by omega]

end Lists

theorem onFields_all {value : Json} (distinct : value.DistinctKeys) (test : String → Json → Bool) :
    Assertion.onFields value (fun fields => fields.all fun f => test f.1 f.2) = true ↔
      ∀ name part, value.field? name = some part → test name part = true := by
  cases value with
  | obj fields =>
    simp only [Assertion.onFields, List.all_eq_true, Prod.forall, Json.field?]
    constructor
    · exact fun each name part found => each name part (Fields.mem_of_get? found)
    · exact fun each name part listed => each name part (Fields.get?_of_mem distinct.names listed)
  | _ => simp [Assertion.onFields, Json.field?]

theorem onFields_isEmpty {value : Json} : Assertion.onFields value (fun fields => fields.isEmpty) =
    true ↔ ∀ name part, value.field? name ≠ some part := by
  cases value with
  | obj fields =>
    cases fields with
    | nil => simp [Assertion.onFields, Json.field?, Fields.get?]
    | cons first rest =>
      simp only [Assertion.onFields, List.isEmpty_cons, Bool.false_eq_true, false_iff]
      exact fun none => none first.1 first.2 (by simp [Json.field?, Fields.get?])
  | _ => simp [Assertion.onFields, Json.field?]

theorem onItems_iff (value : Json) (test : List Json → Bool) :
    Assertion.onItems value test = true ↔ ∀ items, value = .arr items → test items = true := by
  cases value <;> simp [Assertion.onItems]

theorem accepts_itemsFrom (start : Nat) (c : Constraint) (value : Json) :
    accepts refs (.itemsFrom start c) value = true ↔
      ∀ part ∈ value.items.drop start, accepts refs c part = true := by
  simp only [accepts]
  cases value <;> simp [Assertion.onItems, Json.items]

theorem distinctKeys_of_mem_items {value part : Json} (distinct : value.DistinctKeys)
    (listed : part ∈ value.items) : part.DistinctKeys := by
  cases value with
  | arr items => exact distinct.item listed
  | _ => simp [Json.items] at listed

theorem satisfies_of_no_field {dialect : Dialect} {schema : Json} (value : Json)
    (empty : ∀ name, schema.field? name = none) (notFalse : schema ≠ .bool false) :
    Satisfies dialect schema value := by
  have absent : ∀ field name, schema.member? field name = none := by
    simp [Json.member?, empty]
  rw [satisfies_iff]
  constructor
  case notFalse => exact notFalse
  all_goals simp [empty, absent]

theorem satisfies_of_no_object {dialect : Dialect} {schema : Json} (value : Json)
    (notObject : ∀ fields, schema ≠ .obj fields) (notFalse : schema ≠ .bool false) :
    Satisfies dialect schema value := by
  have empty : ∀ name, schema.field? name = none := by
    intro name
    cases schema with
    | obj fields => exact absurd rfl (notObject fields)
    | _ => rfl
  exact satisfies_of_no_field value empty notFalse

theorem not_satisfies_false {dialect : Dialect} (value : Json) :
    ¬ Satisfies dialect (.bool false) value := by
  rw [satisfies_iff]
  exact fun met => met.notFalse rfl

section Keywords

variable {fields : Fields} {argument value : Json} {c : Constraint}

theorem each_agrees {keyword : String} {make : List Constraint → Constraint}
    (place : SchemaPlace.ofKeyword keyword ∈ [.negated, .oneOrMany, .listed])
    (read : (readingOf base keyword argument).each.map make = .ok c)
    (faithful : ∀ s ∈ schemasUnder keyword argument, Faithful base refs s)
    (distinct : value.DistinctKeys) :
    ∃ ss cs, argument = .arr ss ∧ c = make cs ∧ List.Forall₂ (Agrees refs value) ss cs := by
  obtain ⟨cs, compiled, rfl⟩ := (map_eq_ok_iff _ _ _).mp read
  obtain ⟨ss, rfl, spelled⟩ := (each_readingOf _ _ _).mp compiled
  rw [schemasUnder_listed place] at faithful
  exact ⟨ss, cs, rfl, rfl, forall₂_agrees spelled faithful distinct⟩

theorem allOf_iff (read : ofField base fields "allOf" argument = .ok c)
    (faithful : ∀ s ∈ schemasUnder "allOf" argument, Faithful base refs s)
    (distinct : value.DistinctKeys) : accepts refs c value = true ↔
      ∀ ss, argument = .arr ss → ∀ s ∈ ss, Satisfies .validator s value := by
  obtain ⟨ss, cs, rfl, rfl, alike⟩ := each_agrees (by decide) read faithful distinct
  simp only [accepts, acceptsAll_agrees alike, Json.arr.injEq, forall_eq']

theorem anyOf_iff (read : ofField base fields "anyOf" argument = .ok c)
    (faithful : ∀ s ∈ schemasUnder "anyOf" argument, Faithful base refs s)
    (distinct : value.DistinctKeys) : accepts refs c value = true ↔
      ∀ ss, argument = .arr ss → ∃ s ∈ ss, Satisfies .validator s value := by
  obtain ⟨ss, cs, rfl, rfl, alike⟩ := each_agrees (by decide) read faithful distinct
  simp only [accepts, acceptsEach_any alike, Json.arr.injEq, forall_eq']

theorem oneOf_iff (read : ofField base fields "oneOf" argument = .ok c)
    (faithful : ∀ s ∈ schemasUnder "oneOf" argument, Faithful base refs s)
    (distinct : value.DistinctKeys) : accepts refs c value = true ↔
      ∀ ss, argument = .arr ss → ∃! i : Fin ss.length, Satisfies .validator (ss.get i) value := by
  obtain ⟨ss, cs, rfl, rfl, alike⟩ := each_agrees (by decide) read faithful distinct
  simp only [accepts, exactlyOne_acceptsEach alike, Json.arr.injEq, forall_eq']

theorem Spells.not_arr (spelled : Spells base argument c) (ss : List Json) :
    argument ≠ .arr ss := by
  rintro rfl
  simp [Spells, ofJson] at spelled

theorem single_agrees {keyword : String}
    (place : SchemaPlace.ofKeyword keyword ∈ [.negated, .oneOrMany, .single])
    (compiled : (readingOf base keyword argument).compile () = .ok c)
    (faithful : ∀ s ∈ schemasUnder keyword argument, Faithful base refs s)
    (distinct : value.DistinctKeys) : Agrees refs value argument c := by
  have spelled := (compile_readingOf _ _ _).mp compiled
  exact faithful argument (mem_schemasUnder_self spelled.not_arr place) c spelled value distinct

theorem not_iff (read : ofField base fields "not" argument = .ok c)
    (faithful : ∀ s ∈ schemasUnder "not" argument, Faithful base refs s)
    (distinct : value.DistinctKeys) : (∀ ss, argument ≠ .arr ss) ∧
      (accepts refs c value = true ↔ ¬ Satisfies .validator argument value) := by
  obtain ⟨inner, compiled, rfl⟩ := (map_eq_ok_iff _ _ _).mp read
  have inside : _ ↔ _ := single_agrees (by decide) compiled faithful distinct
  refine ⟨((compile_readingOf _ _ _).mp compiled).not_arr, ?_⟩
  rw [← inside]
  simp [accepts]

def outcome (siblings : Readings) (keyword : String) : Compiled :=
  match siblings.get? keyword with
  | some r => r.compile ()
  | none => Keyword.silent

theorem conditional_eq (siblings : Readings) (r : Reading)
    (present : siblings.get? "then" ≠ none ∨ siblings.get? "else" ≠ none) :
    Keyword.conditional siblings r = (do
      let test ← r.compile ()
      let whenMet ← outcome siblings "then"
      let otherwise ← outcome siblings "else"
      return .choice test whenMet otherwise) := by
  unfold Keyword.conditional outcome
  cases noThen : siblings.get? "then" <;> cases noElse : siblings.get? "else"
  · simp [noThen, noElse] at present
  iterate 3 rfl

theorem outcome_iff {keyword : String} (place : SchemaPlace.ofKeyword keyword = .single)
    (read : outcome (readingsOf base fields) keyword = .ok c)
    (faithful : ∀ s, fields.get? keyword = some s → ∀ inner ∈ schemasUnder keyword s,
      Faithful base refs inner) (distinct : value.DistinctKeys) :
    accepts refs c value = true ↔
      ∀ s, fields.get? keyword = some s → Satisfies .validator s value := by
  rw [outcome, get?_readingsOf] at read
  cases found : fields.get? keyword with
  | none =>
    rw [found] at read
    cases Except.ok.inj read
    simp [always, accepts, acceptsAll]
  | some s =>
    rw [found] at read
    have inside : _ ↔ _ := single_agrees (by simp [place]) read (faithful s found) distinct
    simp [inside]

theorem if_iff (read : ofField base fields "if" argument = .ok c)
    (faithful : ∀ keyword s, fields.get? keyword = some s → ∀ inner ∈ schemasUnder keyword s,
      Faithful base refs inner) (found : fields.get? "if" = some argument)
    (distinct : value.DistinctKeys) : accepts refs c value = true ↔
      (∀ s, fields.get? "then" = some s → Satisfies .validator argument value →
        Satisfies .validator s value) ∧
      (∀ s, fields.get? "else" = some s → ¬ Satisfies .validator argument value →
        Satisfies .validator s value) := by
  change Keyword.conditional (readingsOf base fields) (readingOf base "if" argument) = .ok c at read
  by_cases alone : fields.get? "then" = none ∧ fields.get? "else" = none
  · obtain ⟨noThen, noElse⟩ := alone
    rw [Keyword.conditional, get?_readingsOf, get?_readingsOf, noThen, noElse] at read
    cases Except.ok.inj read
    simp [always, accepts, acceptsAll, noThen, noElse]
  · rw [conditional_eq] at read
    · simp only [bind_eq_ok_iff] at read
      obtain ⟨test, compiled, whenMet, readThen, otherwise, readElse, made⟩ := read
      cases Except.ok.inj made
      have asked : _ ↔ _ :=
        single_agrees (by decide) compiled (faithful "if" argument found) distinct
      have yes := outcome_iff (by decide) readThen (faithful "then") distinct
      have no := outcome_iff (by decide) readElse (faithful "else") distinct
      by_cases met : Satisfies .validator argument value
      · simp [accepts, asked.mpr met, yes, met]
      · have unmet : accepts refs test value = false := by
          rw [← Bool.not_eq_true, asked]
          exact met
        simp [accepts, unmet, no, met]
    · simp only [get?_readingsOf, ne_eq, Option.map_eq_none_iff]
      exact Classical.not_and_iff_not_or_not.mp alone

theorem contains_iff (read : ofField base fields "contains" argument = .ok c)
    (faithful : ∀ s ∈ schemasUnder "contains" argument, Faithful base refs s)
    (distinct : value.DistinctKeys) : accepts refs c value = true ↔
      ∀ items, value = .arr items → ∃ part ∈ items, Satisfies .validator argument part := by
  obtain ⟨inner, compiled, rfl⟩ := (map_eq_ok_iff _ _ _).mp read
  simp only [accepts, onItems_iff, List.any_eq_true]
  refine forall₂_congr fun items isArray => exists_congr fun part =>
    and_congr_right fun listed => ?_
  subst isArray
  exact single_agrees (by decide) compiled faithful (distinct.item listed)

theorem propertyNames_iff (read : ofField base fields "propertyNames" argument = .ok c)
    (faithful : ∀ s ∈ schemasUnder "propertyNames" argument, Faithful base refs s)
    (distinct : value.DistinctKeys) : accepts refs c value = true ↔
      ∀ name part, value.field? name = some part → Satisfies .validator argument (.str name) := by
  change Keyword.propertyNames (readingOf base "propertyNames" argument) = .ok c at read
  simp only [Keyword.propertyNames, readingOf] at read
  split at read
  · cases Except.ok.inj read
    simp only [accepts, Assertion.holds, onFields_isEmpty]
    exact forall₂_congr fun name part => by simp [not_satisfies_false]
  · obtain ⟨inner, compiled, rfl⟩ := (map_eq_ok_iff _ _ _).mp read
    have spelled := (Defect.within_eq_ok_iff _ _ _).mp compiled
    simp only [accepts]
    rw [onFields_all distinct fun name _ => accepts refs inner (.str name)]
    refine forall₂_congr fun name part => imp_congr_right fun _ => ?_
    exact faithful _ (mem_schemasUnder_self (Spells.not_arr spelled) (by decide)) inner spelled
      (.str name) trivial
  · rename_i notFalse notObject
    cases Except.ok.inj read
    simp only [always, accepts, acceptsAll, true_iff]
    intro name part _
    exact satisfies_of_no_object _ notObject notFalse

theorem tuple_iff {ss : List Json} (read : ofField base fields "items" (.arr ss) = .ok c)
    (faithful : ∀ s ∈ ss, Faithful base refs s) (distinct : value.DistinctKeys) :
    accepts refs c value = true ↔ ∀ (i : Nat) s part, ss[i]? = some s →
      value.items[i]? = some part → Satisfies .validator s part := by
  obtain ⟨cs, compiled, rfl⟩ := (map_eq_ok_iff _ _ _).mp read
  obtain ⟨_, same, spelled⟩ := (each_readingOf _ _ _).mp compiled
  cases same
  cases value with
  | arr items =>
    have each := tuple_agrees items spelled faithful (fun _ => distinct.item) 0
    simp only [accepts, acceptsAll_iff]
    simpa only [Json.items, Nat.zero_add] using each
  | _ =>
    simp only [accepts, acceptsAll_iff, List.forall_mem_map]
    simp [Assertion.onItems, Json.items]

theorem items_iff (read : ofField base fields "items" argument = .ok c)
    (faithful : ∀ s ∈ schemasUnder "items" argument, Faithful base refs s)
    (distinct : value.DistinctKeys) : accepts refs c value = true ↔
      (∀ part ∈ value.items, Satisfies .validator argument part) ∧
      (∀ ss (i : Nat) s part, argument = .arr ss → ss[i]? = some s →
        value.items[i]? = some part → Satisfies .validator s part) := by
  have list : ∀ ss, argument = .arr ss → ∀ part, Satisfies .validator argument part := by
    rintro ss rfl part
    exact satisfies_of_no_object part (by simp) (by simp)
  by_cases isList : ∃ ss, argument = .arr ss
  · obtain ⟨ss, rfl⟩ := isList
    rw [schemasUnder_listed (by decide)] at faithful
    rw [tuple_iff read faithful distinct]
    constructor
    · intro each
      refine ⟨fun part _ => list ss rfl part, ?_⟩
      rintro _ i s part same
      cases same
      exact each i s part
    · exact fun each i s part => each.2 ss i s part rfl
  · have noList : ∀ ss, argument ≠ .arr ss := fun ss same => isList ⟨ss, same⟩
    simp only [noList, false_implies, implies_true, and_true]
    change Keyword.items (readingOf base "items" argument) = .ok c at read
    simp only [Keyword.items] at read
    split at read
    · rename_i ss same
      exact absurd same (noList _)
    iterate 2
      obtain ⟨inner, compiled, rfl⟩ := (map_eq_ok_iff _ _ _).mp read
      rw [accepts_itemsFrom, List.drop_zero]
      refine forall₂_congr fun part listed => ?_
      exact single_agrees (by decide) compiled faithful (distinctKeys_of_mem_items distinct listed)
    · rename_i notFalse notObject
      cases Except.ok.inj read
      simp only [always, accepts, acceptsAll, true_iff]
      exact fun part _ => satisfies_of_no_object part notObject notFalse

theorem additionalItems_iff (read : ofField base fields "additionalItems" argument = .ok c)
    (faithful : ∀ s ∈ schemasUnder "additionalItems" argument, Faithful base refs s)
    (distinct : value.DistinctKeys) : accepts refs c value = true ↔
      (∀ ss, fields.get? "items" = some (.arr ss) → ∀ part ∈ value.items.drop ss.length,
        Satisfies .validator argument part) ∧ fields.get? "items" ≠ some (.bool false) := by
  change Keyword.additionalItems (readingsOf base fields)
    (readingOf base "additionalItems" argument)
    = .ok c at read
  simp only [Keyword.additionalItems, value?_readingsOf] at read
  split at read
  iterate 3
    rename_i beside
    cases Except.ok.inj read
    simp [always, accepts, acceptsAll, beside]
  · rename_i beside
    cases Except.ok.inj read
    simp [accepts, beside]
  · rename_i listed beside
    simp only [beside, Option.some.injEq, Json.arr.injEq, forall_eq', reduceCtorEq, ne_eq,
      not_false_eq_true, and_true]
    split at read
    · rename_i isFalse
      cases (show argument = .bool false from isFalse)
      cases Except.ok.inj read
      simp only [not_satisfies_false, imp_false, ← List.eq_nil_iff_forall_not_mem]
      cases value <;> simp [accepts, Assertion.holds, Assertion.onItems, Json.items]
    · obtain ⟨inner, compiled, rfl⟩ := (map_eq_ok_iff _ _ _).mp read
      rw [accepts_itemsFrom]
      refine forall₂_congr fun part later => ?_
      have parts := distinctKeys_of_mem_items distinct (List.mem_of_mem_drop later)
      exact single_agrees (by decide) compiled faithful parts
    · rename_i notFalse notObject
      cases Except.ok.inj read
      simp only [always, accepts, acceptsAll, true_iff]
      exact fun part _ => satisfies_of_no_object part notObject notFalse
  · simp at read

theorem dependency_iff {name : String} {s : Json}
    (read : Keyword.dependency name ⟨s, fun _ => Defect.within "dependencies" (Defect.within name
      (ofJson base s))⟩ = .ok c) (faithful : Faithful base refs s) (distinct : value.DistinctKeys) :
    accepts refs c value = true ↔ ∀ part, value.field? name = some part →
      Satisfies .validator s value ∧ ∀ names, s = .arr names → ∀ other, .str other ∈ names →
        ∃ part, value.field? other = some part := by
  have given : ∀ inner, accepts refs (.given name inner) value = true ↔
      ∀ part, value.field? name = some part → accepts refs inner value = true := by
    intro inner
    simp only [accepts]
    cases value.field? name <;> simp
  unfold Keyword.dependency at read
  split at read
  · rename_i names isList
    cases (show s = .arr names from isList)
    obtain ⟨inner, compiled, rfl⟩ := (map_eq_ok_iff _ _ _).mp read
    obtain ⟨texts, rfl, rfl⟩ :=
      Keyword.allRequired_of_ok ((Defect.within_eq_ok_iff _ _ _).mp compiled)
    rw [given]
    refine forall₂_congr fun part found => ?_
    have trivially : Satisfies .validator (.arr (texts.map .str)) value :=
      satisfies_of_no_object value (by simp) (by simp)
    rw [every_asserts]
    cases value with
    | obj fields =>
      simp [trivially, Assertion.holds, Assertion.onFields, Json.field?, Fields.has_eq_true_iff]
    | _ => simp [Json.field?] at found
  · rename_i notList
    obtain ⟨inner, compiled, rfl⟩ := (map_eq_ok_iff _ _ _).mp read
    have spelled : Spells base s inner := by simpa [Spells] using compiled
    have noList : ∀ names, s ≠ .arr names := spelled.not_arr
    rw [given]
    refine forall₂_congr fun part found => ?_
    rw [faithful inner spelled value distinct]
    simp [noList]

theorem dependencies_iff (read : ofField base fields "dependencies" argument = .ok c)
    (faithful : ∀ s ∈ schemasUnder "dependencies" argument, Faithful base refs s)
    (unique : argument.DistinctKeys) (distinct : value.DistinctKeys) : accepts refs c value = true ↔
      ∀ name s, argument.field? name = some s → ∀ part, value.field? name = some part →
        Satisfies .validator s value ∧ ∀ names, s = .arr names → ∀ other, .str other ∈ names →
          ∃ part, value.field? other = some part := by
  change Keyword.dependencies (readingOf base "dependencies" argument) = .ok c at read
  cases argument with
  | obj members =>
    obtain ⟨cs, compiled, rfl⟩ := (map_eq_ok_iff _ _ _).mp read
    rw [mapM_eq_ok_iff] at compiled
    have each := (namedSubschemas_forall₂ "dependencies" members (fun name s c =>
      Keyword.dependency name ⟨s, fun _ => Defect.within "dependencies" (Defect.within name
        (ofJson base s))⟩ = .ok c) cs fun _ _ _ => Iff.rfl).mp compiled
    simp only [accepts, acceptsAll_iff]
    rw [← Json.forall_members_iff unique, forall_iff_of_forall₂ each]
    intro member listed c read
    have inside : member.2 ∈ schemasUnder "dependencies" (.obj members) :=
      List.mem_map_of_mem listed
    exact dependency_iff read (faithful member.2 inside) distinct
  | _ => simp [Keyword.dependencies, readingOf] at read

end Keywords

end Constraint

end AccessRules
