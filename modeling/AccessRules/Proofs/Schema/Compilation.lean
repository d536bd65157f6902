import Mathlib.Data.List.Forall2
import AccessRules.Proofs.Schema.Meaning

/-!
What a schema compiles to. A schema object compiles exactly when each of its keywords does, and a
value meets the result when it meets the constraint of every keyword. A keyword that reads schemas
compiles to a form over the constraints of those schemas.
-/

namespace AccessRules

theorem bind_eq_ok_iff {ε α β : Type} (result : Except ε α) (next : α → Except ε β) (b : β) :
    (result >>= next) = .ok b ↔ ∃ a, result = .ok a ∧ next a = .ok b := by
  cases result <;> simp [bind, Except.bind]

theorem mapM_eq_ok_iff {ε α β : Type} (f : α → Except ε β) (items : List α) (results : List β) :
    items.mapM f = .ok results ↔
      List.Forall₂ (fun item result => f item = .ok result) items results := by
  induction items generalizing results with
  | nil => simp [pure, Except.pure, eq_comm]
  | cons item rest ih =>
    simp only [List.mapM_cons, bind_eq_ok_iff, ih, List.forall₂_cons_left_iff]
    constructor
    · rintro ⟨first, here, others, later, joined⟩
      exact ⟨first, others, here, later, (Except.ok.inj joined).symm⟩
    · rintro ⟨first, others, here, later, rfl⟩
      exact ⟨first, here, others, later, rfl⟩

theorem map_eq_ok_iff {ε α β : Type} (f : α → β) (result : Except ε α) (b : β) :
    result.map f = .ok b ↔ ∃ a, result = .ok a ∧ f a = b := by
  cases result <;> simp [Except.map]

theorem exists_map_ok_iff {ε α β : Type} (f : α → β) (result : Except ε α) :
    (∃ b, result.map f = .ok b) ↔ ∃ a, result = .ok a := by
  cases result <;> simp [Except.map]

theorem exists_ok_of_toBool {ε α : Type} {result : Except ε α} (isOk : result.toBool = true) :
    ∃ a, result = .ok a := by
  cases result with
  | ok a => exact ⟨a, rfl⟩
  | error e => cases isOk

theorem forall₂_imp_mem {α β : Type} {related other : α → β → Prop} {items : List α}
    {results : List β} (pairs : List.Forall₂ related items results)
    (stronger : ∀ item ∈ items, ∀ result, related item result → other item result) :
    List.Forall₂ other items results := by
  induction pairs with
  | nil => exact .nil
  | @cons item result items results first _ ih =>
    refine .cons (stronger item List.mem_cons_self result first) (ih ?_)
    exact fun later listed => stronger later (List.mem_cons_of_mem _ listed)

section Pairs

variable {α β : Type} {related : α → β → Prop} {items : List α} {others : List β}
  (pairs : List.Forall₂ related items others)

include pairs

theorem exists_getElem?_of_forall₂ {i : Nat} {item : α} (here : items[i]? = some item) :
    ∃ other, others[i]? = some other ∧ related item other := by
  obtain ⟨inside, rfl⟩ := List.getElem?_eq_some_iff.mp here
  have there : i < others.length := pairs.length_eq ▸ inside
  exact ⟨_, List.getElem?_eq_getElem there, pairs.get inside there⟩

theorem exists_mem_of_forall₂ {item : α} (listed : item ∈ items) :
    ∃ other ∈ others, related item other := by
  obtain ⟨i, here⟩ := List.mem_iff_getElem?.mp listed
  obtain ⟨other, there, both⟩ := exists_getElem?_of_forall₂ pairs here
  exact ⟨other, List.mem_of_getElem? there, both⟩

theorem exists_of_forall₂_mem {item : α} (listed : item ∈ items) :
    ∃ result, related item result := by
  obtain ⟨other, _, both⟩ := exists_mem_of_forall₂ pairs listed
  exact ⟨other, both⟩

end Pairs

theorem all_eq_of_forall₂ {α β : Type} {test : α → Bool} {otherTest : β → Bool} {items : List α}
    {others : List β} (agree : List.Forall₂ (fun a b => test a = otherTest b) items others) :
    items.all test = others.all otherTest := by
  induction agree with
  | nil => rfl
  | cons first _ ih => rw [List.all_cons, List.all_cons, first, ih]

theorem any_eq_of_forall₂ {α β : Type} {test : α → Bool} {otherTest : β → Bool} {items : List α}
    {others : List β} (agree : List.Forall₂ (fun a b => test a = otherTest b) items others) :
    items.any test = others.any otherTest := by
  induction agree with
  | nil => rfl
  | cons first _ ih => rw [List.any_cons, List.any_cons, first, ih]

/-- What is asked of all items is asked of all results, if it comes to the same for each pair. -/
theorem forall_iff_of_forall₂ {α β : Type} {related : α → β → Prop} {items : List α}
    {results : List β} (pairs : List.Forall₂ related items results) {asked : α → Prop}
    {answered : β → Prop}
    (same : ∀ item ∈ items, ∀ result, related item result → (answered result ↔ asked item)) :
    (∀ result ∈ results, answered result) ↔ ∀ item ∈ items, asked item := by
  induction pairs with
  | nil => simp
  | @cons item result items results first _ ih =>
    rw [List.forall_mem_cons, List.forall_mem_cons, same item List.mem_cons_self result first,
      ih fun other later => same other (List.mem_cons_of_mem _ later)]

@[simp] theorem Defect.within_eq_ok_iff {α : Type} (step : String) (result : Except Defect α)
    (a : α) : Defect.within step result = .ok a ↔ result = .ok a := by
  cases result <;> simp [Defect.within, Except.mapError]

@[simp] theorem Reading.refuse_ne_ok {α : Type} (a : Assertion) (value : Json) (result : α) :
    Reading.refuse a value ≠ .ok result := by
  simp [Reading.refuse]

@[simp] theorem Reading.wrongType_ne_ok {α : Type} (value : Json) (types : List ValueType)
    (result : α) : Reading.wrongType value types ≠ .ok result := by
  unfold Reading.wrongType
  split <;> simp

@[simp] theorem Reading.unreadable_ne_ok {α : Type} (result : α) :
    Reading.unreadable ≠ .ok result := by
  simp [Reading.unreadable]

namespace Constraint

def Spells (base : Url) (schema : Json) (c : Constraint) : Prop :=
  ofJson base schema = .ok c

def readingOf (base : Url) (keyword : String) (value : Json) : Reading where
  value := value
  compile := fun _ => Defect.within keyword (ofJson base value)
  items := match value with
    | .arr items => subschemas base keyword 0 items
    | _ => []
  members := match value with
    | .obj fields => namedSubschemas base keyword fields
    | _ => []

def ofField (base : Url) (fields : Fields) (keyword : String) (value : Json) : Compiled :=
  Keyword.compile (readingsOf base fields) keyword (readingOf base keyword value)

variable {base : Url}

theorem readingsOf_eq_map (fields : Fields) :
    readingsOf base fields = fields.map fun f => (f.1, readingOf base f.1 f.2) := by
  induction fields with
  | nil => rfl
  | cons first rest ih =>
    obtain ⟨keyword, value⟩ := first
    rw [List.map_cons, ← ih]
    -- the reading of a value is only known once the kind of the value is
    cases value <;> rfl

theorem get?_readingsOf (fields : Fields) (keyword : String) :
    (readingsOf base fields).get? keyword =
      (fields.get? keyword).map (readingOf base keyword) := by
  rw [readingsOf_eq_map]
  induction fields with
  | nil => rfl
  | cons first rest ih =>
    obtain ⟨key, value⟩ := first
    by_cases here : key = keyword
    · subst here
      simp [Readings.get?, Fields.get?]
    · simpa [Readings.get?, Fields.get?, here] using ih

theorem value?_readingsOf (fields : Fields) (keyword : String) :
    (readingsOf base fields).value? keyword = fields.get? keyword := by
  rw [Readings.value?, get?_readingsOf, Option.map_map]
  exact Option.map_id'

theorem has_readingsOf (fields : Fields) (keyword : String) :
    (readingsOf base fields).has keyword = fields.has keyword := by
  rw [Readings.has, get?_readingsOf, Option.isSome_map]
  rfl

theorem subschemas_mapM (keyword : String) (index : Nat) (items : List Json)
    (cs : List Constraint) :
    (subschemas base keyword index items).mapM (fun s => s.compile ()) = .ok cs ↔
      List.Forall₂ (Spells base) items cs := by
  rw [mapM_eq_ok_iff]
  induction items generalizing index cs with
  | nil => cases cs <;> simp [subschemas]
  | cons item rest ih =>
    cases cs <;> simp [subschemas, ih, Spells]

theorem namedSubschemas_forall₂ {β : Type} (keyword : String) (fields : Fields)
    (related : String → Json → β → Prop) (results : List β)
    {test : String × Subschema → β → Prop}
    (same : ∀ name schema result, test (name, ⟨schema, fun _ =>
      Defect.within keyword (Defect.within name (ofJson base schema))⟩) result ↔
        related name schema result) :
    List.Forall₂ test (namedSubschemas base keyword fields) results ↔
      List.Forall₂ (fun field result => related field.1 field.2 result) fields results := by
  induction fields generalizing results with
  | nil => cases results <;> simp [namedSubschemas]
  | cons first rest ih =>
    obtain ⟨name, schema⟩ := first
    cases results <;> simp [namedSubschemas, ih, same]

theorem compile_readingOf (keyword : String) (value : Json) (c : Constraint) :
    (readingOf base keyword value).compile () = .ok c ↔ Spells base value c := by
  simp [readingOf, Spells]

theorem each_readingOf (keyword : String) (value : Json) (cs : List Constraint) :
    (readingOf base keyword value).each = .ok cs ↔
      ∃ items, value = .arr items ∧ List.Forall₂ (Spells base) items cs := by
  cases value with
  | arr items => simp [Reading.each, readingOf, subschemas_mapM]
  | _ => simp [Reading.each, readingOf]

theorem eachMember_readingOf (keyword : String) (value : Json)
    (members : List (String × Constraint)) :
    (readingOf base keyword value).eachMember = .ok members ↔
      ∃ fields, value = .obj fields ∧ List.Forall₂ (fun field member =>
        member.1 = field.1 ∧ Spells base field.2 member.2) fields members := by
  cases value with
  | obj fields =>
    simp only [Reading.eachMember, readingOf, mapM_eq_ok_iff, Json.obj.injEq, exists_eq_left']
    refine namedSubschemas_forall₂ keyword fields
      (fun name schema (member : String × Constraint) =>
        member.1 = name ∧ Spells base schema member.2) members fun name schema member => ?_
    rw [map_eq_ok_iff]
    simp only [Defect.within_eq_ok_iff, Prod.ext_iff, Spells]
    constructor
    · rintro ⟨c, spelled, named, rfl⟩
      exact ⟨named.symm, spelled⟩
    · rintro ⟨named, spelled⟩
      exact ⟨member.2, spelled, named.symm, rfl⟩
  | _ => simp [Reading.eachMember, readingOf]

theorem expressionOf_eq_ok_iff (name : String) (s : Subschema) (pattern : Pattern) :
    Reading.expressionOf name s = .ok pattern ↔ Pattern.ofText? name = some pattern := by
  unfold Reading.expressionOf
  cases Pattern.ofText? name <;> simp

/-- In whatever order the patterns and their schemas are read, all of them have to be readable. -/
theorem eachPattern_eq_ok_iff (r : Reading) (isObject : ∃ fields, r.value = .obj fields)
    (patterns : List (Pattern × Constraint)) :
    r.eachPattern = .ok patterns ↔ List.Forall₂ (fun member entry =>
      Pattern.ofText? member.1 = some entry.1 ∧ member.2.compile () = .ok entry.2)
        r.members patterns := by
  obtain ⟨fields, isObject⟩ := isObject
  simp only [Reading.eachPattern, isObject]
  split
  · rename_i name s alone
    simp only [alone, bind_eq_ok_iff, expressionOf_eq_ok_iff, List.forall₂_cons_left_iff,
      List.forall₂_nil_left_iff]
    constructor
    · rintro ⟨c, spelled, pattern, read, made⟩
      cases Except.ok.inj made
      exact ⟨(pattern, c), [], ⟨read, spelled⟩, rfl, rfl⟩
    · rintro ⟨entry, others, ⟨read, spelled⟩, rfl, rfl⟩
      exact ⟨entry.2, spelled, entry.1, read, rfl⟩
  · rw [mapM_eq_ok_iff]
    simp only [bind_eq_ok_iff, expressionOf_eq_ok_iff]
    have one : ∀ (member : String × Subschema) (entry : Pattern × Constraint),
        (∃ pattern, Pattern.ofText? member.1 = some pattern ∧ ∃ c, member.2.compile () = .ok c ∧
          (pure (pattern, c) : Except Defect (Pattern × Constraint)) = .ok entry) ↔
        Pattern.ofText? member.1 = some entry.1 ∧ member.2.compile () = .ok entry.2 := by
      intro member entry
      constructor
      · rintro ⟨pattern, read, c, spelled, made⟩
        cases Except.ok.inj made
        exact ⟨read, spelled⟩
      · rintro ⟨read, spelled⟩
        exact ⟨entry.1, read, entry.2, spelled, rfl⟩
    simp only [one]

theorem eachPattern_readingOf (keyword : String) (value : Json)
    (patterns : List (Pattern × Constraint)) :
    (readingOf base keyword value).eachPattern = .ok patterns ↔
      ∃ fields, value = .obj fields ∧ List.Forall₂ (fun field entry =>
        Pattern.ofText? field.1 = some entry.1 ∧ Spells base field.2 entry.2) fields patterns := by
  cases value with
  | obj fields =>
    rw [eachPattern_eq_ok_iff _ ⟨fields, rfl⟩]
    simp only [readingOf, Json.obj.injEq, exists_eq_left']
    refine namedSubschemas_forall₂ keyword fields
      (fun name schema (entry : Pattern × Constraint) =>
        Pattern.ofText? name = some entry.1 ∧ Spells base schema entry.2) patterns
      fun name schema entry => ?_
    simp only [Defect.within_eq_ok_iff, Spells]
  | _ => simp [Reading.eachPattern, readingOf]

/-- A schema object without a reference compiles when all its keywords do, and values have to meet
the constraints of all of them. -/
theorem spells_obj_iff {fields : Fields} (free : fields.has "$ref" = false) (c : Constraint) :
    Spells base (.obj fields) c ↔ ∃ parts, c = .every parts ∧ List.Forall₂ (fun field part =>
      ofField base fields field.1 field.2 = .ok part) fields parts := by
  have noReference : (readingsOf base fields).get? "$ref" = none := by
    rw [get?_readingsOf, Option.map_eq_none_iff]
    simpa [Fields.has] using free
  have keywords : ∀ parts, List.Forall₂ (fun (entry : String × Reading) part =>
      Keyword.compile (readingsOf base fields) entry.1 entry.2 = .ok part)
        (readingsOf base fields) parts ↔
      List.Forall₂ (fun field part => ofField base fields field.1 field.2 = .ok part)
        fields parts := by
    intro parts
    conv => lhs; arg 2; rw [readingsOf_eq_map]
    exact List.forall₂_map_left_iff
  simp only [Spells, ofJson, Readings.compile, noReference, map_eq_ok_iff, mapM_eq_ok_iff, keywords]
  constructor
  · rintro ⟨parts, compiled, rfl⟩
    exact ⟨parts, rfl, compiled⟩
  · rintro ⟨parts, rfl, compiled⟩
    exact ⟨parts, compiled, rfl⟩

theorem acceptsAll_iff (refs : String → Json → Bool) (parts : List Constraint) (value : Json) :
    acceptsAll refs parts value = true ↔ ∀ part ∈ parts, accepts refs part value = true := by
  induction parts with
  | nil => simp [acceptsAll]
  | cons part rest ih => simp [acceptsAll, ih]

theorem accepts_of_silent {c : Constraint} (read : Keyword.silent = .ok c)
    {refs : String → Json → Bool} {value : Json} : accepts refs c value = true := by
  cases Except.ok.inj read
  simp [always, accepts, acceptsAll]

theorem accepts_every_iff {fields : Fields} {parts : List Constraint}
    (compiled : List.Forall₂ (fun field part =>
      ofField base fields field.1 field.2 = .ok part) fields parts)
    (refs : String → Json → Bool) (value : Json) : accepts refs (.every parts) value = true ↔
      ∀ field ∈ fields, ∀ part, ofField base fields field.1 field.2 = .ok part →
        accepts refs part value = true := by
  rw [accepts, acceptsAll_iff]
  refine forall_iff_of_forall₂ compiled fun field _ part read => ?_
  simp [read]

end Constraint

end AccessRules
