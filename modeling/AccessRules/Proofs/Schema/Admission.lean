import AccessRules.Proofs.Schema.MetaSchema
import AccessRules.Proofs.Schema.Siblings
import AccessRules.Schema.Meta

/-!
Which schemas are taken for use: those that the schema of schemas accepts and whose keywords
compile. A schema is taken when the value of every keyword can stand where it stands, which depends
on few other keywords, so that two schemas that differ in a keyword or two are compared on those
alone.
-/

namespace AccessRules

namespace SchemaDocument

theorem ofJson_eq_ok_iff (schema : Json) (document : SchemaDocument) :
    ofJson schema = .ok document ↔
      ∃ root, Constraint.Spells Url.unnamed schema root ∧ ⟨root, Target.table schema⟩ = document :=
  map_eq_ok_iff _ _ _

theorem compile_eq_ok_iff (schema : Json) (document : SchemaDocument) :
    compile schema = .ok document ↔
      MetaSchema.document.accepts schema = true ∧ ofJson schema = .ok document := by
  rw [← violations_eq_nil_iff, compile]
  cases MetaSchema.document.violations schema with
  | cons violation rest => simp
  | nil => cases ofJson schema <;> simp

end SchemaDocument

structure Admissible (schema : Json) : Prop where
  accepted : MetaSchema.document.accepts schema = true
  compiles : Constraint.Compiles Url.unnamed schema

theorem admissible_iff (schema : Json) :
    Admissible schema ↔ ∃ document, SchemaDocument.compile schema = .ok document := by
  constructor
  · rintro ⟨accepted, root, spelled⟩
    refine ⟨⟨root, Target.table schema⟩, (SchemaDocument.compile_eq_ok_iff _ _).mpr ⟨accepted, ?_⟩⟩
    exact (SchemaDocument.ofJson_eq_ok_iff _ _).mpr ⟨root, spelled, rfl⟩
  · rintro ⟨document, made⟩
    obtain ⟨accepted, read⟩ := (SchemaDocument.compile_eq_ok_iff _ _).mp made
    obtain ⟨root, spelled, _⟩ := (SchemaDocument.ofJson_eq_ok_iff _ _).mp read
    exact ⟨accepted, root, spelled⟩

structure Usable (fields : Fields) (keyword : String) (argument : Json) : Prop where
  permitted : MetaSchema.Permits keyword argument
  compiles : ∃ c, Constraint.ofField Url.unnamed fields keyword argument = .ok c

section Fields

variable {fields : Fields}

theorem admissible_obj_iff (nodup : (fields.map (·.1)).Nodup) (free : fields.get? "$ref" = none) :
    Admissible (.obj fields) ↔
      ∀ keyword argument, fields.get? keyword = some argument → Usable fields keyword argument := by
  constructor
  · rintro ⟨accepted, compiles⟩ keyword argument found
    exact ⟨(MetaSchema.accepts_obj_iff fields).mp accepted keyword argument found,
      (Constraint.compiles_obj_iff nodup free).mp compiles keyword argument found⟩
  · intro usable
    constructor
    · rw [MetaSchema.accepts_obj_iff]
      exact fun keyword argument found => (usable keyword argument found).permitted
    · rw [Constraint.compiles_obj_iff nodup free]
      exact fun keyword argument found => (usable keyword argument found).compiles

theorem Usable.congr {others : Fields} {keyword : String} {argument : Json}
    (usable : Usable fields keyword argument)
    (same : ∀ other ∈ Keyword.siblingsOf keyword, fields.get? other = others.get? other) :
    Usable others keyword argument := by
  obtain ⟨c, read⟩ := usable.compiles
  rw [Constraint.ofField_congr argument same] at read
  exact ⟨usable.permitted, c, read⟩

theorem usable_default (fields : Fields) (value : Json) : Usable fields "default" value :=
  ⟨MetaSchema.permits_default value, .every [], rfl⟩

theorem usable_properties_iff {members : Fields} (nodup : (members.map (·.1)).Nodup)
    (opened : fields.get? "additionalProperties" = none) :
    Usable fields "properties" (.obj members) ↔
      ∀ name s, members.get? name = some s → Admissible s := by
  have noOthers := Constraint.closesProperties_of_none Url.unnamed opened
  rw [← @Fields.forall_get?_iff members nodup fun _ s => Admissible s]
  constructor
  · rintro ⟨permitted, compiles⟩ member listed
    exact ⟨(MetaSchema.permits_properties_iff members).mp permitted member listed,
      (Constraint.compiles_properties_iff noOthers).mp compiles member listed⟩
  · intro each
    constructor
    · rw [MetaSchema.permits_properties_iff]
      exact fun member listed => (each member listed).accepted
    · rw [Constraint.compiles_properties_iff noOthers]
      exact fun member listed => (each member listed).compiles

end Fields

end AccessRules
