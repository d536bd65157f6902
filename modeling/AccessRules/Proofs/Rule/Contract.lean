import AccessRules.Proofs.Rule.Lowering
import AccessRules.Rule.Contract

/-!
The contract of a rule. A value laid over another has every name of both; under a name that both
have stands the one value laid over the other. Laid over the base contract, a schema that leaves it
alone keeps all its keywords, and its namespaces all theirs.
-/

namespace AccessRules

namespace Contract

def laid (below : Option Json) : Option Json → Option Json
  | some value => some (match below with
    | some old => merge old value
    | none => value)
  | none => below

@[simp] theorem laid_none (below : Option Json) : laid below none = below := rfl

@[simp] theorem none_laid (value : Option Json) : laid none value = value := by
  cases value <;> rfl

@[simp] theorem some_laid (old value : Json) :
    laid (some old) (some value) = some (merge old value) :=
  rfl

theorem merge_obj (below fields : Fields) :
    merge (.obj below) (.obj fields) = .obj (mergeFields below fields) := rfl

theorem get?_mergeFields {below fields : Fields} (nodup : (fields.map (·.1)).Nodup)
    (name : String) : (mergeFields below fields).get? name =
      laid (below.get? name) (fields.get? name) := by
  induction fields generalizing below with
  | nil => rfl
  | cons first rest ih =>
    obtain ⟨key, value⟩ := first
    rw [List.map_cons, List.nodup_cons] at nodup
    rw [mergeFields, ih nodup.2, Fields.get?_put]
    by_cases here : key = name
    · subst here
      have absent : Fields.get? rest key = none := (Fields.get?_eq_none_iff rest key).mpr nodup.1
      simp only [Fields.get?, absent, if_true, laid_none]
      cases below.get? key <;> rfl
    · simp [Fields.get?, here]

-- Putting a field never makes a name come twice, so that only the values have to be looked after.
mutual

theorem distinctKeys_merge {under : Json} (below : under.DistinctKeys) :
    ∀ {value : Json}, value.DistinctKeys → (merge under value).DistinctKeys
  | .obj fields, distinct => by
    cases under with
    | obj old =>
      rw [Json.DistinctKeys] at distinct
      exact distinctKeys_mergeFields below distinct.2
    | _ => exact distinct
  | .arr items, distinct => distinct
  | .null, distinct | .bool _, distinct | .num _, distinct | .str _, distinct => distinct

theorem distinctKeys_mergeFields {below : Fields} (old : (Json.obj below).DistinctKeys) :
    ∀ {fields : List (String × Json)}, Json.DistinctKeysUnder fields →
      (Json.obj (mergeFields below fields)).DistinctKeys
  | [], _ => old
  | (name, value) :: rest, distinct => by
    rw [Json.DistinctKeysUnder] at distinct
    rw [mergeFields]
    refine distinctKeys_mergeFields (old.put ?_ name) distinct.2
    cases found : below.get? name with
    | none => exact distinct.1
    | some inside =>
      exact distinctKeys_merge (old.member (Fields.mem_of_get? found)) distinct.1

end

theorem distinctKeys_base : (Json.obj base).DistinctKeys := by
  simp [base, Namespace.all, Namespace.key, namespaceSchema, Json.DistinctKeys, Json.DistinctKeysIn,
    Json.DistinctKeysUnder]

theorem distinctKeys_extend {schema : Json} (unique : schema.DistinctKeys) :
    (extend schema).DistinctKeys :=
  distinctKeys_merge distinctKeys_base unique

/-- The schema leaves to the base contract what that is there to say, of itself and of the
namespaces. -/
structure Extendable (schema : Json) : Prop where
  isObject : ∃ fields : Fields, schema = .obj fields
  left : ∀ keyword ∈ ["type", "required", "additionalProperties"], schema.field? keyword = none
  properties : ∀ argument, schema.field? "properties" = some argument →
    ∃ members : Fields, argument = .obj members
  namespaces : ∀ (ns : Namespace) s, schema.member? "properties" ns.key = some s →
    (∃ fields : Fields, s = .obj fields) ∧ s.field? "type" = none

/-- The outer schema is the inner one with `type` object and, it may be, a default. -/
structure Typed (inner outer : Json) : Prop where
  objects : (∃ fields : Fields, inner = .obj fields) ∧ ∃ fields : Fields, outer = .obj fields
  untyped : inner.field? "type" = none
  typed : outer.field? "type" = some (.str "object")
  same : ∀ keyword ∉ ["type", "default"], outer.field? keyword = inner.field? keyword

/-- The outer schema is the inner one with the base contract: an object that has every namespace,
each of them an object. -/
structure Contracted (inner outer : Json) : Prop where
  objects : (∃ fields : Fields, inner = .obj fields) ∧ ∃ fields : Fields, outer = .obj fields
  left : ∀ keyword ∈ ["type", "required", "additionalProperties"], inner.field? keyword = none
  typed : outer.field? "type" = some (.str "object")
  required : outer.field? "required" = some (.arr (Namespace.all.map fun ns => .str ns.key))
  same : ∀ keyword ∉ ["type", "required", "properties"],
    outer.field? keyword = inner.field? keyword
  inside : ∀ argument, inner.field? "properties" = some argument →
      ∃ members : Fields, argument = .obj members
  outside : ∃ members : Fields, outer.field? "properties" = some (.obj members)
  others : ∀ name, (∀ ns : Namespace, ns.key ≠ name) →
    outer.member? "properties" name = inner.member? "properties" name
  namespaces : ∀ ns : Namespace, ∃ above, outer.member? "properties" ns.key = some above ∧
    Typed ((inner.member? "properties" ns.key).getD (.obj [])) above

def namespaceMembers : Fields :=
  Namespace.all.map fun ns => (ns.key, namespaceSchema)

theorem get?_namespaceMembers (ns : Namespace) :
    namespaceMembers.get? ns.key = some namespaceSchema := by
  cases ns <;> rfl

theorem get?_namespaceMembers_other {name : String} (other : ∀ ns : Namespace, ns.key ≠ name) :
    namespaceMembers.get? name = none := by
  have subject : ¬ "subject" = name := other .subject
  have object : ¬ "object" = name := other .object
  have environment : ¬ "environment" = name := other .environment
  simp [namespaceMembers, Namespace.all, Namespace.key, Fields.get?, subject, object, environment]

theorem get?_base_other {keyword : String} (other : keyword ∉ ["type", "required", "properties"]) :
    Fields.get? base keyword = none := by
  rw [Fields.get?_eq_none_iff]
  exact other

theorem field?_namespaceSchema_other {keyword : String} (other : keyword ∉ ["type", "default"]) :
    namespaceSchema.field? keyword = none := by
  rw [namespaceSchema, Json.field?, Fields.get?_eq_none_iff]
  exact other

theorem typed_namespaceSchema : Typed (.obj []) namespaceSchema where
  objects := ⟨⟨_, rfl⟩, _, rfl⟩
  untyped := rfl
  typed := rfl
  same := fun _ other => field?_namespaceSchema_other other

theorem typed_merge {fields : Fields} (nodup : (fields.map (·.1)).Nodup)
    (untyped : fields.get? "type" = none) :
    Typed (.obj fields) (merge namespaceSchema (.obj fields)) where
  objects := ⟨⟨_, rfl⟩, _, rfl⟩
  untyped := untyped
  typed := by
    change (mergeFields _ fields).get? "type" = _
    rw [get?_mergeFields nodup, untyped]
    rfl
  same := by
    intro keyword other
    have below := field?_namespaceSchema_other other
    rw [namespaceSchema, Json.field?] at below
    change (mergeFields _ fields).get? keyword = fields.get? keyword
    rw [get?_mergeFields nodup, below, none_laid]

theorem field?_extend {fields : Fields} (unique : (Json.obj fields).DistinctKeys)
    (keyword : String) :
    (extend (.obj fields)).field? keyword =
      laid (Fields.get? base keyword) (fields.get? keyword) :=
  get?_mergeFields unique.names keyword

theorem properties_extend {fields : Fields} (unique : (Json.obj fields).DistinctKeys)
    (properties : ∀ argument, fields.get? "properties" = some argument →
      ∃ members : Fields, argument = .obj members) : ∃ members : Fields,
      (extend (.obj fields)).field? "properties" = some (.obj members) ∧ ∀ name,
        members.get? name = laid (namespaceMembers.get? name)
          ((Json.obj fields).member? "properties" name) := by
  rw [field?_extend unique]
  cases found : fields.get? "properties" with
  | none =>
    refine ⟨namespaceMembers, rfl, fun name => ?_⟩
    simp [Json.member?, Json.field?, found]
  | some argument =>
    obtain ⟨members, rfl⟩ := properties argument found
    have inside : (Json.obj members).DistinctKeys := unique.member (Fields.mem_of_get? found)
    refine ⟨mergeFields namespaceMembers members, rfl, fun name => ?_⟩
    rw [get?_mergeFields inside.names]
    simp [Json.member?, Json.field?, found]

theorem contracted_extend {schema : Json} (extendable : Extendable schema)
    (unique : schema.DistinctKeys) : Contracted schema (extend schema) := by
  obtain ⟨⟨fields, rfl⟩, left, properties, namespaces⟩ := extendable
  have joined := field?_extend unique
  obtain ⟨above, outside, named⟩ := properties_extend unique properties
  have member : ∀ name, (extend (.obj fields)).member? "properties" name =
      laid (namespaceMembers.get? name) ((Json.obj fields).member? "properties" name) := by
    intro name
    rw [← named, Json.member?, outside]
    rfl
  constructor
  case objects => exact ⟨⟨_, rfl⟩, _, rfl⟩
  case left => exact left
  case typed =>
    rw [joined, show fields.get? "type" = none from left _ (by decide)]
    rfl
  case required =>
    rw [joined, show fields.get? "required" = none from left _ (by decide)]
    rfl
  case same =>
    intro keyword other
    rw [joined, get?_base_other other, none_laid]
    rfl
  case inside => exact properties
  case outside => exact ⟨above, outside⟩
  case others =>
    intro name other
    rw [member, get?_namespaceMembers_other other, none_laid]
  case namespaces =>
    intro ns
    rw [member, get?_namespaceMembers]
    cases found : (Json.obj fields).member? "properties" ns.key with
    | none => exact ⟨namespaceSchema, rfl, typed_namespaceSchema⟩
    | some s =>
      obtain ⟨⟨inside, rfl⟩, untyped⟩ := namespaces ns s found
      exact ⟨_, rfl, typed_merge (unique.ofMember found).names untyped⟩

section Lowering

variable {inner outer : Json}

theorem field?_lower_same {keyword : String}
    (same : outer.field? keyword = inner.field? keyword) :
    (Lowering.lower outer).field? keyword = (Lowering.lower inner).field? keyword := by
  rw [Lowering.field?_lower, Lowering.field?_lower, same]

theorem lower_isObject {schema : Json} (isObject : ∃ fields : Fields, schema = .obj fields) :
    ∃ fields : Fields, Lowering.lower schema = .obj fields := by
  obtain ⟨fields, rfl⟩ := isObject
  exact ⟨_, rfl⟩

theorem Typed.lower (typed : Typed inner outer) :
    Typed (Lowering.lower inner) (Lowering.lower outer) where
  objects := typed.objects.imp lower_isObject lower_isObject
  untyped := by rw [Lowering.field?_lower, typed.untyped]; rfl
  typed := by rw [Lowering.field?_lower, typed.typed]; rfl
  same := fun keyword other => field?_lower_same (typed.same keyword other)

theorem lowerValue_properties (members : Fields) :
    Lowering.lowerValue "properties" (.obj members) =
      .obj (members.map fun m => (m.1, Lowering.lower m.2)) := rfl

theorem Contracted.lower (contracted : Contracted inner outer) :
    Contracted (Lowering.lower inner) (Lowering.lower outer) := by
  have named : ∀ schema name, (Lowering.lower schema).member? "properties" name =
      (schema.member? "properties" name).map Lowering.lower :=
    Lowering.member?_lower (by decide)
  constructor
  case objects => exact contracted.objects.imp lower_isObject lower_isObject
  case left =>
    intro keyword listed
    rw [Lowering.field?_lower, contracted.left keyword listed, Option.map_none]
  case typed =>
    rw [Lowering.field?_lower, contracted.typed]
    rfl
  case required =>
    rw [Lowering.field?_lower, contracted.required]
    rfl
  case same => exact fun keyword other => field?_lower_same (contracted.same keyword other)
  case inside =>
    intro argument found
    rw [Lowering.field?_lower] at found
    obtain ⟨old, before, rfl⟩ := Option.map_eq_some_iff.mp found
    obtain ⟨members, rfl⟩ := contracted.inside old before
    exact ⟨_, lowerValue_properties members⟩
  case outside =>
    obtain ⟨members, found⟩ := contracted.outside
    rw [Lowering.field?_lower, found, Option.map_some, lowerValue_properties]
    exact ⟨_, rfl⟩
  case others =>
    intro name other
    rw [named, named, contracted.others name other]
  case namespaces =>
    intro ns
    obtain ⟨above, found, typed⟩ := contracted.namespaces ns
    refine ⟨Lowering.lower above, ?_, ?_⟩
    · rw [named, found, Option.map_some]
    · rw [named]
      cases present : inner.member? "properties" ns.key with
      | none =>
        rw [present] at typed
        exact typed.lower
      | some s =>
        rw [present] at typed
        exact typed.lower

end Lowering

end Contract

end AccessRules
