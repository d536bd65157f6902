import AccessRules.Proofs.Rule.Lowering
import AccessRules.Request
import AccessRules.Rule.Validator

/-!
Request documents and defaults. A request document has what is supplied for a namespace under its
key and nothing else. A document that is filled keeps what it has, and has the default of every
other property that has one.
-/

namespace AccessRules

namespace Request

theorem field?_document (request : Request) (ns : Namespace) :
    request.document.field? ns.key = request.get ns := by
  obtain ⟨subject, object, environment⟩ := request
  cases subject <;> cases object <;> cases environment <;> cases ns <;> rfl

theorem field?_document_other (request : Request) {name : String}
    (other : ∀ ns : Namespace, ns.key ≠ name) : request.document.field? name = none := by
  have subject : ¬ "subject" = name := other .subject
  have object : ¬ "object" = name := other .object
  have environment : ¬ "environment" = name := other .environment
  obtain ⟨forSubject, forObject, forEnvironment⟩ := request
  cases forSubject <;> cases forObject <;> cases forEnvironment <;>
    simp [document, fieldsFor, Namespace.all, get, Namespace.key, Json.field?, Fields.get?, subject,
      object, environment]

end Request

namespace SchemaDefaults

theorem get?_fill (fields defaults : Fields) (name : String) :
    (fill fields defaults).get? name = (fields.get? name).or (defaults.get? name) := by
  induction defaults generalizing fields with
  | nil => simp [fill, Fields.get?]
  | cons first rest ih =>
    obtain ⟨key, value⟩ := first
    by_cases here : fields.has key = true
    · rw [fill, if_pos here, ih]
      obtain ⟨old, present⟩ := (Fields.has_eq_true_iff fields key).mp here
      by_cases same : key = name
      · subst same
        simp [present]
      · simp [Fields.get?, same]
    · rw [fill, if_neg here, ih, Fields.get?_append]
      have absent : fields.get? key = none := by simpa [Fields.has] using here
      by_cases same : key = name
      · subst same
        simp [absent, Fields.get?]
      · simp [Fields.get?, same]

theorem distinctKeys_fill {fields defaults : Fields} (distinct : (Json.obj fields).DistinctKeys)
    (each : ∀ field ∈ defaults, field.2.DistinctKeys) :
    (Json.obj (fill fields defaults)).DistinctKeys := by
  induction defaults generalizing fields with
  | nil => exact distinct
  | cons first rest ih =>
    obtain ⟨key, value⟩ := first
    have later : ∀ field ∈ rest, field.2.DistinctKeys :=
      fun field listed => each field (List.mem_cons_of_mem _ listed)
    by_cases here : fields.has key = true
    · rw [fill, if_pos here]
      exact ih distinct later
    · rw [fill, if_neg here]
      have absent : fields.get? key = none := by simpa [Fields.has] using here
      rw [← Fields.put_of_absent absent]
      exact ih (distinct.put (each (key, value) List.mem_cons_self) key) later

theorem ofProperties_mem {properties : Fields} {field : String × Json}
    (listed : field ∈ ofProperties properties) :
    ∃ schema, (field.1, schema) ∈ properties ∧ schema.field? "default" = some field.2 := by
  induction properties with
  | nil => simp [ofProperties] at listed
  | cons first rest ih =>
    obtain ⟨name, schema⟩ := first
    have further : field ∈ ofProperties rest →
        ∃ schema', (field.1, schema') ∈ (name, schema) :: rest ∧
          schema'.field? "default" = some field.2 := by
      intro later
      obtain ⟨other, member, default⟩ := ih later
      exact ⟨other, List.mem_cons_of_mem _ member, default⟩
    rw [ofProperties] at listed
    split at listed
    · rename_i value found
      rcases List.mem_cons.mp listed with rfl | later
      · exact ⟨schema, List.mem_cons_self, found⟩
      · exact further later
    · exact further listed

theorem get?_ofProperties {properties : Fields} (nodup : (properties.map (·.1)).Nodup)
    (name : String) : (ofProperties properties).get? name =
      (properties.get? name).bind fun schema => schema.field? "default" := by
  induction properties with
  | nil => rfl
  | cons first rest ih =>
    obtain ⟨key, schema⟩ := first
    rw [List.map_cons, List.nodup_cons] at nodup
    have later := ih nodup.2
    by_cases here : key = name
    · subst here
      have absent : Fields.get? rest key = none := (Fields.get?_eq_none_iff rest key).mpr nodup.1
      rw [absent, Option.bind_none] at later
      cases found : schema.field? "default" <;> simp [ofProperties, Fields.get?, found, later]
    · cases found : schema.field? "default" <;> simp [ofProperties, Fields.get?, here, found, later]

theorem distinctKeys_ofSchema {schema : Json} (distinct : schema.DistinctKeys) :
    ∀ field ∈ ofSchema schema, field.2.DistinctKeys := by
  intro field listed
  unfold ofSchema at listed
  split at listed
  · rename_i properties found
    obtain ⟨s, member, default⟩ := ofProperties_mem listed
    exact ((distinct.field found).member member).field default
  · simp at listed

theorem distinctKeys_apply {schema value : Json} (unique : schema.DistinctKeys)
    (distinct : value.DistinctKeys) : (apply (ofSchema schema) value).DistinctKeys := by
  cases value with
  | obj fields => exact distinctKeys_fill distinct (distinctKeys_ofSchema unique)
  | _ => exact distinct

theorem ofProperties_lower (properties : Fields) :
    ofProperties (properties.map fun p => (p.1, Lowering.lower p.2)) = ofProperties properties := by
  induction properties with
  | nil => rfl
  | cons first rest ih =>
    obtain ⟨name, schema⟩ := first
    have kept : (Lowering.lower schema).field? "default" = schema.field? "default" := by
      rw [Lowering.field?_lower]
      cases schema.field? "default" <;> rfl
    simp only [List.map_cons, ofProperties, kept, ih]

/-- Defaults are data, so that lowering leaves them alone. -/
theorem ofSchema_lower (schema : Json) : ofSchema (Lowering.lower schema) = ofSchema schema := by
  have place : SchemaPlace.ofKeyword "properties" = .named := by decide
  rw [ofSchema, ofSchema, Lowering.field?_lower]
  cases schema.field? "properties" with
  | none => rfl
  | some argument =>
    cases argument with
    | obj properties =>
      simp only [Option.map_some, Lowering.lowerValue, place, Lowering.lowerAt]
      exact ofProperties_lower properties
    | _ => simp [Lowering.lowerValue, place, Lowering.lowerAt]

theorem fill_filter (keep : String → Bool) {fields : Fields}
    (present : ∀ name, keep name = false → fields.has name = true) (defaults : Fields) :
    fill fields (defaults.filter fun field => keep field.1) = fill fields defaults := by
  induction defaults generalizing fields with
  | nil => rfl
  | cons first rest ih =>
    obtain ⟨name, value⟩ := first
    cases kept : keep name with
    | false =>
      simp only [List.filter_cons, kept, Bool.false_eq_true, if_false]
      rw [fill, if_pos (present name kept)]
      exact ih present
    | true =>
      simp only [List.filter_cons, kept, if_true]
      rw [fill, fill]
      split
      · exact ih present
      · refine ih fun other outside => ?_
        rw [Fields.has, Fields.get?_append, Option.isSome_or, Bool.or_eq_true]
        exact .inl (present other outside)

theorem filter_ofProperties (keep : String → Bool) (properties : Fields) :
    (ofProperties properties).filter (fun field => keep field.1) =
      ofProperties (properties.filter fun field => keep field.1) := by
  induction properties with
  | nil => rfl
  | cons first rest ih =>
    obtain ⟨name, schema⟩ := first
    cases kept : keep name <;> cases found : schema.field? "default" <;>
      simp [ofProperties, kept, found, ih]

end SchemaDefaults

end AccessRules
