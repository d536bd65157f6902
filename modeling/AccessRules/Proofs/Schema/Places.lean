import AccessRules.Proofs.Json.Fields
import AccessRules.Rule.Lowering

/-!
The schemas inside a schema. A property that holds of a schema and of every schema inside it, at any
depth, is one to go by in an induction over schemas.
-/

namespace AccessRules

namespace Json

mutual

def mentions (name : String) : Json → Bool
  | .arr items => mentionsIn name items
  | .obj fields => mentionsUnder name fields
  | _ => false
termination_by structural value => value

def mentionsIn (name : String) : List Json → Bool
  | [] => false
  | item :: rest => mentions name item || mentionsIn name rest

def mentionsUnder (name : String) : List (String × Json) → Bool
  | [] => false
  | (key, value) :: rest => key == name || mentions name value || mentionsUnder name rest

end

theorem mentions_item {name : String} {items : List Json} {item : Json} (listed : item ∈ items)
    (unmentioned : mentions name (.arr items) = false) : mentions name item = false := by
  rw [mentions] at unmentioned
  induction items with
  | nil => simp at listed
  | cons first rest ih =>
    simp only [mentionsIn, Bool.or_eq_false_iff] at unmentioned
    rcases List.mem_cons.mp listed with rfl | later
    · exact unmentioned.1
    · exact ih later unmentioned.2

theorem mentions_member {name key : String} {fields : Fields} {value : Json}
    (listed : (key, value) ∈ fields) (unmentioned : mentions name (.obj fields) = false) :
    key ≠ name ∧ mentions name value = false := by
  rw [mentions] at unmentioned
  induction fields with
  | nil => simp at listed
  | cons first rest ih =>
    obtain ⟨other, old⟩ := first
    simp only [mentionsUnder, Bool.or_eq_false_iff, beq_eq_false_iff_ne] at unmentioned
    rcases List.mem_cons.mp listed with same | later
    · cases same
      exact unmentioned.1
    · exact ih later unmentioned.2

theorem mentions_field {name key : String} {value part : Json}
    (found : value.field? key = some part) (unmentioned : mentions name value = false) :
    key ≠ name ∧ mentions name part = false := by
  cases value with
  | obj fields => exact mentions_member (Fields.mem_of_get? found) unmentioned
  | _ => simp [field?] at found

end Json

def SchemaPlace.schemas : SchemaPlace → Json → List Json
  | .negated, .arr ss | .oneOrMany, .arr ss | .listed, .arr ss => ss
  | .negated, s | .oneOrMany, s | .single, s => [s]
  | .named, .obj members => members.map (·.2)
  | _, _ => []

def schemasUnder (keyword : String) (argument : Json) : List Json :=
  (SchemaPlace.ofKeyword keyword).schemas argument

/-- The property holds of the schema and of every schema inside it. -/
inductive Everywhere (property : Json → Prop) : Json → Prop where
  | intro {schema : Json} (here : property schema)
      (inside : ∀ keyword argument s, schema.field? keyword = some argument →
        s ∈ schemasUnder keyword argument → Everywhere property s) : Everywhere property schema

theorem Everywhere.here {property : Json → Prop} {schema : Json}
    (everywhere : Everywhere property schema) : property schema := by
  cases everywhere with
  | intro here inside => exact here

theorem Everywhere.inside {property : Json → Prop} {schema : Json}
    (everywhere : Everywhere property schema) {keyword : String} {argument s : Json}
    (found : schema.field? keyword = some argument) (listed : s ∈ schemasUnder keyword argument) :
    Everywhere property s := by
  cases everywhere with
  | intro here inside => exact inside keyword argument s found listed

theorem Everywhere.member {property : Json → Prop} {schema : Json}
    (everywhere : Everywhere property schema) {keyword name : String} {s : Json}
    (place : SchemaPlace.ofKeyword keyword = .named)
    (found : schema.member? keyword name = some s) : Everywhere property s := by
  obtain ⟨members, under, named⟩ := (Json.member?_eq_some_iff _ _ _ _).mp found
  refine everywhere.inside under ?_
  rw [schemasUnder, place]
  exact List.mem_map.mpr ⟨(name, s), Fields.mem_of_get? named, rfl⟩

/-- No schema inside the schema is a reference to another one. -/
def ReferenceFree (schema : Json) : Prop :=
  Everywhere (fun s => s.field? "$ref" = none) schema

theorem sizeOf_schemasUnder_le {keyword : String} {argument s : Json}
    (listed : s ∈ schemasUnder keyword argument) : sizeOf s ≤ sizeOf argument := by
  unfold schemasUnder SchemaPlace.schemas at listed
  split at listed
  iterate 3 exact Nat.le_of_lt (Json.sizeOf_item_lt listed)
  iterate 3
    cases List.mem_singleton.mp listed
    exact Nat.le_refl _
  · obtain ⟨⟨name, s⟩, member, rfl⟩ := List.mem_map.mp listed
    exact Nat.le_of_lt (Json.sizeOf_member_lt member)
  · simp at listed

theorem distinctKeys_schemasUnder {keyword : String} {argument s : Json}
    (distinct : argument.DistinctKeys) (listed : s ∈ schemasUnder keyword argument) :
    s.DistinctKeys := by
  unfold schemasUnder SchemaPlace.schemas at listed
  split at listed
  iterate 3 exact distinct.item listed
  iterate 3
    cases List.mem_singleton.mp listed
    exact distinct
  · obtain ⟨⟨name, s⟩, member, rfl⟩ := List.mem_map.mp listed
    exact distinct.member member
  · simp at listed

theorem everywhere_of_forall {property : Json → Prop} (always : ∀ s, property s) (schema : Json) :
    Everywhere property schema := by
  induction size : sizeOf schema using Nat.strongRecOn generalizing schema with
  | ind size ih =>
    refine .intro (always schema) fun keyword argument s found listed => ?_
    have smaller := Json.sizeOf_field_lt found
    have inside := sizeOf_schemasUnder_le listed
    exact ih (sizeOf s) (by omega) s rfl

theorem mentions_schemasUnder {name keyword : String} {argument s : Json}
    (listed : s ∈ schemasUnder keyword argument) (unmentioned : argument.mentions name = false) :
    s.mentions name = false := by
  unfold schemasUnder SchemaPlace.schemas at listed
  split at listed
  iterate 3 exact Json.mentions_item listed unmentioned
  iterate 3
    cases List.mem_singleton.mp listed
    exact unmentioned
  · obtain ⟨⟨key, s⟩, member, rfl⟩ := List.mem_map.mp listed
    exact (Json.mentions_member member unmentioned).2
  · simp at listed

/-- A schema that has some names nowhere has none of them as a keyword, nor has a schema inside
it. -/
theorem everywhere_of_unmentioned {property : Json → Prop} {names : List String} {schema : Json}
    (unmentioned : ∀ name ∈ names, schema.mentions name = false)
    (each : ∀ s : Json, (∀ name ∈ names, s.field? name = none) → property s) :
    Everywhere property schema := by
  have everywhere : Everywhere (fun _ => True) schema :=
    everywhere_of_forall (fun _ => trivial) schema
  induction everywhere with
  | @intro schema _ _ ih =>
    refine .intro (each schema fun name listed => ?_) fun keyword argument s found under => ?_
    · rw [Option.eq_none_iff_forall_ne_some]
      exact fun argument found => (Json.mentions_field found (unmentioned name listed)).1 rfl
    · refine ih keyword argument s found under fun name listed => ?_
      exact mentions_schemasUnder under (Json.mentions_field found (unmentioned name listed)).2

theorem referenceFree_of_unmentioned {schema : Json}
    (unmentioned : schema.mentions "$ref" = false) :
    ReferenceFree schema := by
  have everyName : ∀ name ∈ ["$ref"], schema.mentions name = false := by simpa using unmentioned
  exact everywhere_of_unmentioned everyName fun s absent => absent _ (by simp)

section Places

variable {keyword : String}

theorem schemasUnder_listed {ss : List Json}
    (place : SchemaPlace.ofKeyword keyword ∈ [.negated, .oneOrMany, .listed]) :
    schemasUnder keyword (.arr ss) = ss := by
  simp only [List.mem_cons, List.not_mem_nil, or_false] at place
  rcases place with h | h | h <;> simp [schemasUnder, SchemaPlace.schemas, h]

theorem schemasUnder_nowhere (place : SchemaPlace.ofKeyword keyword = .nowhere) (argument : Json) :
    schemasUnder keyword argument = [] := by
  rw [schemasUnder, place]
  cases argument <;> rfl

theorem mem_schemasUnder_self {s : Json} (single : ∀ ss, s ≠ .arr ss)
    (place : SchemaPlace.ofKeyword keyword ∈ [.negated, .oneOrMany, .single]) :
    s ∈ schemasUnder keyword s := by
  simp only [List.mem_cons, List.not_mem_nil, or_false] at place
  rcases place with h | h | h <;> cases s <;> simp_all [schemasUnder, SchemaPlace.schemas]

end Places

end AccessRules
