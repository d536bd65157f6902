import AccessRules.Proofs.Attribute.Layers
import AccessRules.Proofs.Rule.Lowering

/-!
What a layered schema says of a value rests on what stands at the chains to its leaves. Two values
that have the same there are told apart by no layer: a container passes on their parts, a
combinator the values themselves, and at a leaf they are equal.
-/

namespace AccessRules

open Lowering Constraint

/-- Both values have something at every leaf of the schema, and the same. -/
def AgreeAt (schema first second : Json) : Prop :=
  ∀ chain, Shape.LeafAt chain (Shape.ofJson schema) →
    ∃ value, first.at? chain = some value ∧ second.at? chain = some value

namespace AgreeAt

variable {schema first second : Json}

theorem eq_of_leaf (agree : AgreeAt schema first second) (isLeaf : Shape.ofJson schema = .leaf) :
    first = second := by
  have reached : Shape.LeafAt [] (Shape.ofJson schema) := by
    rw [isLeaf]
    exact .leaf
  obtain ⟨value, here, there⟩ := agree [] reached
  exact (Option.some.inj here).trans (Option.some.inj there).symm

theorem under {key : String} (layered : Layered schema)
    (below : ∀ chain, Shape.LeafAt chain (Shape.ofJson schema) →
      ∃ value, first.at? (key :: chain) = some value ∧ second.at? (key :: chain) = some value) :
    ∃ a b, first.field? key = some a ∧ second.field? key = some b ∧ AgreeAt schema a b := by
  obtain ⟨chain, reached⟩ := layered.exists_leaf
  obtain ⟨_, inFirst, inSecond⟩ := below chain reached
  obtain ⟨a, hereFirst, _⟩ := Option.bind_eq_some_iff.mp inFirst
  obtain ⟨b, hereSecond, _⟩ := Option.bind_eq_some_iff.mp inSecond
  refine ⟨a, b, hereFirst, hereSecond, fun chain reached => ?_⟩
  obtain ⟨value, inFirst, inSecond⟩ := below chain reached
  rw [Json.at?, hereFirst, Option.bind_some] at inFirst
  rw [Json.at?, hereSecond, Option.bind_some] at inSecond
  exact ⟨value, inFirst, inSecond⟩

theorem child {children : Fields}
    (agree : AgreeAt (.obj [("properties", .obj children)]) first second)
    {key : String} (listed : (key, schema) ∈ children) (layered : Layered schema) :
    ∃ a b, first.field? key = some a ∧ second.field? key = some b ∧ AgreeAt schema a b := by
  refine under layered fun chain reached => ?_
  refine agree (key :: chain) ((Shape.leafAt_container_iff _ _).mpr ?_)
  exact ⟨key, schema, chain, listed, reached, rfl⟩

theorem branch {keyword : String} {branches : List Json} (known : keyword ∈ combinators)
    (containers : ∀ s ∈ branches, IsContainer s)
    (agree : AgreeAt (.obj [(keyword, .arr branches)]) first second) (listed : schema ∈ branches) :
    AgreeAt schema first second := by
  intro chain reached
  exact agree chain
    ((Shape.leafAt_combination_iff known containers chain).mpr ⟨schema, listed, reached⟩)

theorem negated (container : IsContainer schema)
    (agree : AgreeAt (.obj [("not", schema)]) first second) : AgreeAt schema first second :=
  fun chain reached => agree chain ((Shape.leafAt_negation_iff container chain).mpr reached)

end AgreeAt

section Indifference

variable (base : Url) (refs : String → Json → Bool) (first second : Json)

/-- The constraint does not tell the two values apart. -/
def Indifferent (c : Constraint) : Prop :=
  accepts refs c first = true ↔ accepts refs c second = true

def IndifferentAs (schema : Json) : Prop :=
  ∀ c, Spells base (lower schema) c → Indifferent refs first second c

/-- Nothing that the keyword compiles to with this value, lowered, tells the two values apart. The
keyword stands in a schema that does not restrict its other properties. -/
def IndifferentUnder (keyword : String) (argument : Json) : Prop :=
  ∀ fields : Fields, fields.get? "additionalProperties" = none →
    ∀ c, ofField base fields keyword (lowerValue keyword argument) = .ok c →
      Indifferent refs first second c

end Indifference

section Keywords

variable {base : Url} {refs : String → Json → Bool} {first second : Json}

theorem indifferent_of_fields {fields : Fields} {c : Constraint} (free : fields.get? "$ref" = none)
    (spelled : Spells base (.obj fields) c)
    (each : ∀ field ∈ fields, ∀ part, ofField base fields field.1 field.2 = .ok part →
      Indifferent refs first second part) : Indifferent refs first second c := by
  obtain ⟨parts, rfl, compiled⟩ := (spells_obj_iff (by simp [Fields.has, free]) c).mp spelled
  rw [Indifferent, accepts_every_iff compiled, accepts_every_iff compiled]
  exact forall₂_congr fun field listed => forall₂_congr fun part read => each field listed part read

def PartsIndifferent (base : Url) (refs : String → Json → Bool) (first second : Json)
    (child : String × Json) : Prop :=
  (first.field? child.1 = none ∧ second.field? child.1 = none) ∨
  ∃ a b, first.field? child.1 = some a ∧ second.field? child.1 = some b ∧
    IndifferentAs base refs a b child.2

theorem indifferent_properties {children : Fields}
    (each : ∀ child ∈ children, PartsIndifferent base refs first second child) :
    IndifferentUnder base refs first second "properties" (.obj children) := by
  intro fields closed c read
  have opened := closesProperties_of_none base closed
  have lowered : lowerValue "properties" (.obj children) =
      .obj (children.map fun child => (child.1, lower child.2)) := rfl
  rw [lowered] at read
  rw [Indifferent, accepts_properties read opened, accepts_properties read opened]
  simp only [List.forall_mem_map]
  refine forall₂_congr fun child listed => forall₂_congr fun inner spelled => ?_
  rcases each child listed with ⟨noFirst, noSecond⟩ | ⟨a, b, inFirst, inSecond, alike⟩
  · simp [noFirst, noSecond]
  · have same : accepts refs inner a = true ↔ accepts refs inner b = true := alike inner spelled
    simp [inFirst, inSecond, same]

theorem acceptsEach_eq {ss : List Json} {cs : List Constraint}
    (spelled : List.Forall₂ (Spells base) (ss.map lower) cs)
    (each : ∀ s ∈ ss, IndifferentAs base refs first second s) :
    acceptsEach refs cs first = acceptsEach refs cs second := by
  induction ss generalizing cs with
  | nil =>
    cases spelled
    rfl
  | cons s rest ih =>
    cases spelled with
    | @cons _ c _ others here later =>
      have same : accepts refs c first = true ↔ accepts refs c second = true :=
        each s List.mem_cons_self c here
      rw [acceptsEach, acceptsEach, Bool.eq_iff_iff.mpr same,
        ih later fun other listed => each other (List.mem_cons_of_mem _ listed)]

theorem acceptsAll_eq (refs : String → Json → Bool) (cs : List Constraint) (value : Json) :
    acceptsAll refs cs value = (acceptsEach refs cs value).all id := by
  induction cs with
  | nil => rfl
  | cons c rest ih => simp [acceptsAll, acceptsEach, ih]

theorem indifferent_anyOf {fields : Fields} {ss : List Json} {c : Constraint}
    (each : ∀ s ∈ ss, IndifferentAs base refs first second s)
    (read : ofField base fields "anyOf" (.arr (ss.map lower)) = .ok c) :
    Indifferent refs first second c := by
  obtain ⟨cs, compiled, rfl⟩ := (map_eq_ok_iff _ _ _).mp read
  obtain ⟨_, same, spelled⟩ := (each_readingOf _ _ _).mp compiled
  cases same
  rw [Indifferent, accepts, accepts, acceptsEach_eq spelled each]

theorem indifferent_negation {fields : Fields} {s : Json} {c : Constraint}
    (alike : ∀ inner, Spells base s inner → Indifferent refs first second inner)
    (read : ofField base fields "not" s = .ok c) : Indifferent refs first second c := by
  obtain ⟨inner, compiled, rfl⟩ := (map_eq_ok_iff _ _ _).mp read
  have same := alike inner ((compile_readingOf _ _ _).mp compiled)
  rw [Indifferent] at same
  rw [Indifferent, accepts, accepts, Bool.eq_iff_iff.mpr same]

theorem indifferent_combination {keyword : String} {ss : List Json} (known : keyword ∈ combinators)
    (each : ∀ s ∈ ss, IndifferentAs base refs first second s) :
    IndifferentUnder base refs first second keyword (.arr ss) := by
  intro fields _ c read
  simp only [combinators, List.mem_cons, List.not_mem_nil, or_false] at known
  rcases known with rfl | rfl | rfl | rfl
  · exact indifferent_anyOf each read
  · obtain ⟨cs, compiled, rfl⟩ := (map_eq_ok_iff _ _ _).mp read
    obtain ⟨_, same, spelled⟩ := (each_readingOf _ _ _).mp compiled
    cases (show Json.arr (ss.map lower) = _ from same)
    rw [Indifferent, accepts, accepts, acceptsAll_eq, acceptsAll_eq, acceptsEach_eq spelled each]
  · obtain ⟨cs, compiled, rfl⟩ := (map_eq_ok_iff _ _ _).mp read
    obtain ⟨_, same, spelled⟩ := (each_readingOf _ _ _).mp compiled
    cases (show Json.arr (ss.map lower) = _ from same)
    rw [Indifferent, accepts, accepts, acceptsEach_eq spelled each]
  · -- a list under `not` is lowered to the one schema that any of it makes
    refine indifferent_negation (fun inner spelled => ?_) read
    refine indifferent_of_fields rfl spelled fun field listed part compiled => ?_
    cases List.mem_singleton.mp listed
    exact indifferent_anyOf each compiled

theorem indifferent_single {keyword : String} {argument : Json}
    (ordinary : keyword ≠ "$ref" ∧ keyword ≠ "additionalProperties")
    (alike : IndifferentUnder base refs first second keyword argument) :
    IndifferentAs base refs first second (.obj [(keyword, argument)]) := by
  intro c spelled
  rw [lower, lowerFields_eq_map] at spelled
  have free : Fields.get? [(keyword, lowerValue keyword argument)] "$ref" = none := by
    simp [Fields.get?, ordinary.1]
  have closed :
      Fields.get? [(keyword, lowerValue keyword argument)] "additionalProperties" = none := by
    simp [Fields.get?, ordinary.2]
  refine indifferent_of_fields free spelled fun field listed part read => ?_
  cases List.mem_singleton.mp listed
  exact alike _ closed part read

end Keywords

namespace Layered

def keywords : List String := ["properties", "anyOf", "allOf", "oneOf", "not"]

variable {base : Url} {refs : String → Json → Bool}

/-- Two values that agree at the leaves of a layered schema are equal, or the schema has one
keyword, and that does not tell them apart. -/
theorem eq_or_indifferent {schema : Json} (layered : Layered schema) {first second : Json}
    (agree : AgreeAt schema first second) : first = second ∨ ∃ keyword argument,
      schema = .obj [(keyword, argument)] ∧ keyword ∈ keywords ∧
        IndifferentUnder base refs first second keyword argument := by
  -- the hypothesis for an inner schema, in the form in which the layers around it use it
  have further : ∀ {s a b : Json}, (a = b ∨ ∃ keyword argument, s = .obj [(keyword, argument)] ∧
      keyword ∈ keywords ∧ IndifferentUnder base refs a b keyword argument) →
        IndifferentAs base refs a b s := by
    rintro s a b (rfl | ⟨keyword, argument, rfl, known, alike⟩)
    · exact fun _ _ => Iff.rfl
    · have ordinary : ∀ k ∈ keywords, k ≠ "$ref" ∧ k ≠ "additionalProperties" := by decide
      exact indifferent_single (ordinary keyword known) alike
  induction layered generalizing first second with
  | leaf isLeaf => exact .inl (agree.eq_of_leaf isLeaf)
  | @container children _ _ each ih =>
    refine .inr ⟨_, _, rfl, by decide, indifferent_properties fun child listed => .inr ?_⟩
    obtain ⟨a, b, inFirst, inSecond, below⟩ := agree.child listed (each child listed)
    exact ⟨a, b, inFirst, inSecond, further (ih child listed below)⟩
  | @combination keyword branches known _ containers _ ih =>
    have among : ∀ k ∈ combinators, k ∈ keywords := by decide
    refine .inr ⟨_, _, rfl, among keyword known, indifferent_combination known fun s listed => ?_⟩
    exact further (ih s listed (agree.branch known containers listed))
  | @negation s container _ ih =>
    refine .inr ⟨_, _, rfl, by decide, fun fields _ c read => ?_⟩
    have alike := further (ih (agree.negated container))
    obtain ⟨children, rfl⟩ := container
    exact indifferent_negation alike read

end Layered

end AccessRules
