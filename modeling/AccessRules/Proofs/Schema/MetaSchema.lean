import AccessRules.Proofs.Schema.Properties
import AccessRules.Proofs.Schema.References

/-!
The schema of schemas, keyword by keyword. It accepts an object when it permits the value of every
keyword, and it permits schemas in the place of schemas when it accepts them.
-/

namespace AccessRules

namespace MetaSchema

open Constraint

theorem document_read : SchemaDocument.ofJson json = .ok document := by
  obtain ⟨read, same⟩ : ∃ read, SchemaDocument.ofJson json = .ok read :=
    exists_ok_of_toBool (by decide +kernel)
  rw [document, same]

theorem document_spelled : Spells Url.unnamed json document.root ∧
    document.targets = Target.table json := by
  obtain ⟨root, spelled, same⟩ := (map_eq_ok_iff _ _ _).mp document_read
  rw [← same]
  exact ⟨spelled, rfl⟩

def keywords : Fields := [
  ("$schema", .str address), ("$id", .str address), ("title", .str "Core schema meta-schema"),
  ("definitions", definitions), ("type", .arr [.str "object", .str "boolean"]),
  ("properties", properties), ("default", .bool true)]

theorem json_eq : json = .obj keywords := rfl

/-- The keywords that a schema can have, with what is asked of their values. -/
def entries : Fields :=
  match properties with
  | .obj entries => entries
  | _ => []

theorem properties_eq : properties = .obj entries := rfl

theorem nodup_entries : (entries.map (·.1)).Nodup := by decide +kernel

theorem accepts_type {c : Constraint}
    (read : ofField Url.unnamed keywords "type" (.arr [.str "object", .str "boolean"]) = .ok c)
    (refs : String → Json → Bool) (value : Json) : accepts refs c value = true ↔
      ValueType.object.holds value = true ∨ ValueType.boolean.holds value = true := by
  rw [Keyword.type_asserts read]
  have named : Keyword.assertions (.obj keywords) "type" (.arr [.str "object", .str "boolean"]) =
      [.types [.object, .boolean]] := rfl
  simp [named, Assertion.holds]

theorem opened : Keyword.closesProperties (readingsOf Url.unnamed keywords) = false :=
  closesProperties_of_none Url.unnamed rfl

theorem accepts_entries {c : Constraint}
    (read : ofField Url.unnamed keywords "properties" (.obj entries) = .ok c)
    (refs : String → Json → Bool) (value : Json) : accepts refs c value = true ↔
      ∀ name s, entries.get? name = some s → ∀ c, Spells Url.unnamed s c →
        ∀ part, value.field? name = some part → accepts refs c part = true := by
  rw [accepts_properties read opened]
  constructor
  · exact fun each name s found => each (name, s) (Fields.mem_of_get? found)
  · exact fun each entry listed => each entry.1 entry.2 (Fields.get?_of_mem nodup_entries listed)

/-- What the schema of schemas says of a value, whatever its references mean. -/
theorem root_accepts_iff (refs : String → Json → Bool) (value : Json) :
    accepts refs document.root value = true ↔
      (ValueType.object.holds value = true ∨ ValueType.boolean.holds value = true) ∧
      ∀ name s, entries.get? name = some s → ∀ c, Spells Url.unnamed s c →
        ∀ part, value.field? name = some part → accepts refs c part = true := by
  obtain ⟨spelled, _⟩ := document_spelled
  rw [json_eq] at spelled
  obtain ⟨parts, root, compiled⟩ := (spells_obj_iff rfl document.root).mp spelled
  rw [root, accepts_every_iff compiled]
  constructor
  · intro each
    have ofType : ("type", Json.arr [.str "object", .str "boolean"]) ∈ keywords := by
      simp [keywords]
    have ofEntries : ("properties", Json.obj entries) ∈ keywords := by
      rw [← properties_eq]
      simp [keywords]
    obtain ⟨_, typeRead⟩ := exists_of_forall₂_mem compiled ofType
    obtain ⟨_, entriesRead⟩ := exists_of_forall₂_mem compiled ofEntries
    exact ⟨(accepts_type typeRead refs value).mp (each _ ofType _ typeRead),
      (accepts_entries entriesRead refs value).mp (each _ ofEntries _ entriesRead)⟩
  · rintro ⟨isSchema, permitted⟩ field listed part read
    simp only [keywords, List.mem_cons, List.not_mem_nil, or_false] at listed
    rcases listed with rfl | rfl | rfl | rfl | rfl | rfl | rfl
    iterate 4 exact accepts_of_silent read
    · exact (accepts_type read refs value).mpr isSchema
    · exact (accepts_entries read refs value).mpr permitted
    · exact accepts_of_silent read

theorem entries_spell {name : String} {s : Json} (found : entries.get? name = some s) :
    ∃ c, Spells Url.unnamed s c := by
  obtain ⟨spelled, _⟩ := document_spelled
  rw [json_eq] at spelled
  obtain ⟨parts, _, compiled⟩ := (spells_obj_iff rfl document.root).mp spelled
  have ofEntries : ("properties", Json.obj entries) ∈ keywords := by
    rw [← properties_eq]
    simp [keywords]
  obtain ⟨_, read⟩ := exists_of_forall₂_mem compiled ofEntries
  obtain ⟨_, known, same, _, pairs⟩ := properties_of_ok read opened
  cases same
  obtain ⟨member, _, spelled⟩ := exists_of_forall₂_mem pairs (Fields.mem_of_get? found)
  exact ⟨member.2, spelled⟩

theorem root_accepts_congr {refs others : String → Json → Bool} {value : Json}
    (agree : ∀ target part, part.depth < value.depth → refs target part = others target part) :
    accepts refs document.root value = accepts others document.root value := by
  rw [Bool.eq_iff_iff, root_accepts_iff, root_accepts_iff]
  refine and_congr_right fun _ => forall₂_congr fun name s => imp_congr_right fun _ =>
    forall₂_congr fun c _ => forall₂_congr fun part found => ?_
  have deeper := Json.depth_field_lt found
  have below : AgreeUpTo part.depth refs others :=
    fun target inner small => agree target inner (by omega)
  rw [accepts_congr below c part (Nat.le_refl _)]

theorem target?_whole : SchemaDocument.target? document.targets Target.whole.text =
    some (.ok document.root) := by
  obtain ⟨spelled, targets⟩ := document_spelled
  have first : (Target.allAddresses json).find? (fun url => url.text == Target.whole.text) =
      some Target.whole := by decide +kernel
  rw [targets, Target.target?_table, first, Option.map_some, Target.ofUrl_whole]
  exact congrArg some spelled

theorem admits_whole (value : Json) :
    document.admits Target.whole.text value = document.accepts value := by
  rw [SchemaDocument.admits_eq document target?_whole, SchemaDocument.accepts_eq]
  exact root_accepts_congr fun target part deeper => if_pos deeper

def Permits (keyword : String) (value : Json) : Prop :=
  ∀ s, entries.get? keyword = some s → ∀ c, Spells Url.unnamed s c →
    accepts document.admits c value = true

theorem accepts_obj_iff (fields : Fields) : document.accepts (.obj fields) = true ↔
    ∀ keyword argument, fields.get? keyword = some argument → Permits keyword argument := by
  rw [SchemaDocument.accepts_eq, root_accepts_iff]
  constructor
  · exact fun accepted keyword argument found s listed c spelled =>
      accepted.2 keyword s listed c spelled argument found
  · exact fun permitted => ⟨.inl rfl, fun keyword s listed c spelled argument found =>
      permitted keyword argument found s listed c spelled⟩

theorem permits_default (value : Json) : Permits "default" value := by
  intro s found c spelled
  have anything : entries.get? "default" = some (.bool true) := rfl
  cases Option.some.inj (found.symm.trans anything)
  cases Except.ok.inj spelled
  simp [always, accepts, acceptsAll]

theorem spells_schema {c : Constraint} (spelled : Spells Url.unnamed schema c) :
    c = .reference Target.whole.text := by
  have resolved : (Url.ofText? (some Url.unnamed) "#").toOption = some Target.whole := by
    decide +kernel
  change Readings.compile Url.unnamed (readingsOf Url.unnamed [("$ref", .str "#")]) = .ok c
    at spelled
  simp only [Readings.compile, get?_readingsOf, Fields.get?, if_true, Option.map_some, readingOf]
    at spelled
  cases read : Url.ofText? (some Url.unnamed) "#" with
  | error fault => simp [read, Except.toOption] at resolved
  | ok url =>
    rw [read] at resolved spelled
    cases Option.some.inj resolved
    exact (Except.ok.inj spelled).symm

theorem accepts_additionalProperties {fields : Fields} {inside : Fields} {c : Constraint}
    (read : ofField Url.unnamed fields "additionalProperties" (.obj inside) = .ok c)
    (noNames : fields.get? "properties" = none)
    (noPatterns : fields.get? "patternProperties" = none) :
    ∃ inner, Spells Url.unnamed (.obj inside) inner ∧ c = .closed [] [] (some inner) := by
  change Keyword.additionalProperties (readingsOf Url.unnamed fields)
    (readingOf Url.unnamed "additionalProperties" (.obj inside)) = .ok c at read
  simp only [Keyword.additionalProperties, Keyword.siblingPatterns, Keyword.siblingMembers,
    get?_readingsOf, noNames, noPatterns, Option.map_none, has_readingsOf, Fields.has,
    Option.isSome_none, Bool.false_eq_true, if_false, bind_eq_ok_iff] at read
  obtain ⟨_, same, rest⟩ := read
  cases same
  obtain ⟨_, same, rest⟩ := (bind_eq_ok_iff _ _ _).mp rest
  cases same
  obtain ⟨inner, compiled, made⟩ := (bind_eq_ok_iff _ _ _).mp rest
  exact ⟨inner, (compile_readingOf _ _ _).mp compiled, (Except.ok.inj made).symm⟩

theorem accepts_schemaMap {c : Constraint} (spelled : Spells Url.unnamed schemaMap c)
    (members : Fields) : accepts document.admits c (.obj members) = true ↔
      ∀ member ∈ members, document.accepts member.2 = true := by
  have isObject : schemaMap = .obj [("type", .str "object"), ("additionalProperties", schema),
      ("default", .obj [])] := rfl
  rw [isObject] at spelled
  obtain ⟨parts, rfl, compiled⟩ := (spells_obj_iff rfl c).mp spelled
  rw [accepts_every_iff compiled]
  have ofOthers : ∀ part, ofField Url.unnamed [("type", .str "object"),
      ("additionalProperties", schema), ("default", .obj [])] "additionalProperties" schema =
        .ok part → (accepts document.admits part (.obj members) = true ↔
          ∀ member ∈ members, document.accepts member.2 = true) := by
    intro part read
    obtain ⟨inner, inside, rfl⟩ := accepts_additionalProperties read rfl rfl
    cases spells_schema inside
    rw [accepts_closed]
    refine forall₂_congr fun member _ => ?_
    rw [← admits_whole]
    rfl
  constructor
  · intro each
    obtain ⟨part, read⟩ := exists_of_forall₂_mem compiled
      (List.mem_cons_of_mem _ List.mem_cons_self)
    exact (ofOthers part read).mp (each _ (List.mem_cons_of_mem _ List.mem_cons_self) part read)
  · intro each field listed part read
    simp only [List.mem_cons, List.not_mem_nil, or_false] at listed
    rcases listed with rfl | rfl | rfl
    · rw [Keyword.type_asserts read]
      intro a asserted
      cases List.mem_singleton.mp asserted
      rfl
    · exact (ofOthers part read).mpr each
    · exact accepts_of_silent read

theorem permits_properties_iff (members : Fields) : Permits "properties" (.obj members) ↔
    ∀ member ∈ members, document.accepts member.2 = true := by
  have found : entries.get? "properties" = some schemaMap := rfl
  constructor
  · intro permitted
    obtain ⟨c, spelled⟩ := entries_spell found
    exact (accepts_schemaMap spelled members).mp (permitted _ found c spelled)
  · intro each s listed c spelled
    cases Option.some.inj (listed.symm.trans found)
    exact (accepts_schemaMap spelled members).mpr each

end MetaSchema

end AccessRules
