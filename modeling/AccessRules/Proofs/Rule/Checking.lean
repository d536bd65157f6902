import AccessRules.Proofs.Schema.Admission
import AccessRules.Rule.Compiled

/-!
What a compiled rule holds, and when it is satisfied: when its checker grants the request document.
The checker of a JSON schema grants what the schema's document accepts once the defaults are filled
in.
-/

namespace AccessRules

/-- The checker says that a value is valid, whatever errors it lists beside. -/
def Checker.Grants (checker : Checker) (value : Json) : Prop :=
  ∃ errors, checker value = .verdict true errors

namespace Rule

theorem evaluate_satisfied (rule : Rule) (request : Request) :
    (rule.evaluate request).result = .satisfied ↔ rule.checker.Grants request.document := by
  simp only [Rule.evaluate, Checker.Grants]
  cases rule.checker request.document with
  | verdict valid errors => cases valid <;> simp [Rule.judge]
  | failure message => simp [Rule.judge]
  | crash text => simp [Rule.judge]

theorem validate_iff (rule : Rule) (request : Request) :
    (rule.validate request).result = true ↔ rule.checker.Grants request.document := by
  rw [← evaluate_satisfied]
  simp only [Rule.validate]
  cases (rule.evaluate request).result <;> simp [Evaluation.isSatisfied]

/-- A rule is compiled from a schema that is an object, whose attributes can be found and whose
contract the validator takes. -/
theorem compile_eq_ok_iff (validator : Validator) (classification : Classification) (schema : Json)
    (rule : Rule) : (Rule.compile validator classification schema).result = .ok rule ↔
      ∃ fields found checker, schema = .obj fields ∧
        Extraction.ofShape (Shape.ofJson schema) classification = .ok found ∧
        validator.compile (contractOf schema) = .ok checker ∧
        rule = ⟨schema, contractOf schema, found.buckets, checker⟩ := by
  cases schema with
  | obj fields =>
    simp only [Rule.compile, compileObject]
    cases extracted : Extraction.ofShape (Shape.ofJson (.obj fields)) classification with
    | error e => simp
    | ok found =>
      cases validator.compile (contractOf (.obj fields)) <;> simp [eq_comm]
  | _ => simp [Rule.compile]

theorem compiles_iff (validator : Validator) (classification : Classification) (schema : Json) :
    (∃ rule, (Rule.compile validator classification schema).result = .ok rule) ↔
      (∃ fields : Fields, schema = .obj fields) ∧
      (∃ found, Extraction.ofShape (Shape.ofJson schema) classification = .ok found) ∧
      ∃ checker, validator.compile (contractOf schema) = .ok checker := by
  simp only [compile_eq_ok_iff]
  constructor
  · rintro ⟨_, fields, found, checker, isObject, extracted, taken, _⟩
    exact ⟨⟨fields, isObject⟩, ⟨found, extracted⟩, checker, taken⟩
  · rintro ⟨⟨fields, isObject⟩, ⟨found, extracted⟩, checker, taken⟩
    exact ⟨_, fields, found, checker, isObject, extracted, taken, rfl⟩

theorem compiled_checker {validator : Validator} {classification : Classification} {schema : Json}
    {rule : Rule} (compiled : (Rule.compile validator classification schema).result = .ok rule) :
    validator.compile rule.contract = .ok rule.checker := by
  obtain ⟨_, _, checker, _, _, made, rfl⟩ := (compile_eq_ok_iff _ _ _ _).mp compiled
  exact made

end Rule

namespace Validator

theorem jsonSchema_eq_ok_iff (schema : Json) (checker : Checker) :
    jsonSchema.compile schema = .ok checker ↔ ∃ document,
      SchemaDocument.compile schema = .ok document ∧ checker = fun value =>
        verdictOf document (SchemaDefaults.apply (SchemaDefaults.ofSchema schema) value) := by
  simp only [jsonSchema]
  cases SchemaDocument.compile schema <;> simp [eq_comm]

theorem jsonSchema_takes_iff (schema : Json) :
    (∃ checker, jsonSchema.compile schema = .ok checker) ↔ Admissible schema := by
  rw [admissible_iff]
  constructor
  · rintro ⟨checker, compiled⟩
    obtain ⟨document, made, _⟩ := (jsonSchema_eq_ok_iff _ _).mp compiled
    exact ⟨document, made⟩
  · rintro ⟨document, made⟩
    exact ⟨_, (jsonSchema_eq_ok_iff _ _).mpr ⟨document, made, rfl⟩⟩

theorem verdictOf_valid_iff (document : SchemaDocument) (value : Json) :
    (∃ errors, verdictOf document value = .verdict true errors) ↔
      document.accepts value = true := by
  rw [← SchemaDocument.violations_eq_nil_iff, verdictOf]
  cases document.violations value with
  | nil => simp
  | cons violation rest => split <;> simp

/-- The constraint of a schema that compiles, and what its checker makes of it. References mean what
they mean in the document. -/
theorem jsonSchema_of_ok {schema : Json} {checker : Checker}
    (compiled : jsonSchema.compile schema = .ok checker) :
    ∃ root refs, Constraint.Spells Url.unnamed schema root ∧ ∀ value, checker.Grants value ↔
      root.accepts refs (SchemaDefaults.apply (SchemaDefaults.ofSchema schema) value) = true := by
  obtain ⟨document, made, rfl⟩ := (jsonSchema_eq_ok_iff _ _).mp compiled
  obtain ⟨_, read⟩ := (SchemaDocument.compile_eq_ok_iff _ _).mp made
  obtain ⟨root, spelled, rfl⟩ := (SchemaDocument.ofJson_eq_ok_iff _ _).mp read
  refine ⟨root, SchemaDocument.admits ⟨root, Target.table schema⟩, spelled, fun value => ?_⟩
  rw [Checker.Grants, verdictOf_valid_iff, SchemaDocument.accepts_eq]

end Validator

end AccessRules
