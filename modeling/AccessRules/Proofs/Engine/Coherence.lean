import AccessRules.Proofs.Attribute.Distribution
import AccessRules.Proofs.Engine.Names

/-!
What an engine holds stays in step with the schemas it was given. Whatever is asked of the
attributes of a name is answered from the last schema of the name, without any path twice.
-/

namespace AccessRules

theorem Registration.classification_of_mem {validator : Validator}
    {classification : Classification} {steps : List Step} {made : Registration}
    (listed : made ∈ Step.registrationsOf validator classification steps) :
    made.classification = classification := by
  induction steps generalizing validator with
  | nil => cases listed
  | cons step rest ih =>
    rw [Step.registrationsOf, List.mem_append] at listed
    rcases listed with first | later
    · cases step with
      | register name schema =>
        cases List.mem_singleton.mp first
        rfl
      | registerAll rules =>
        obtain ⟨rule, _, rfl⟩ := List.mem_map.mp first
        rfl
      | _ => cases first
    · exact ih later

theorem Registration.mem_of_last? {name : String} {made : List Registration} {last : Registration}
    (isLast : Registration.last? name made = some last) : last ∈ made :=
  (List.mem_filter.mp (List.mem_of_getLast? isLast)).1

namespace Rule

/-- The parts of a rule all belong to one schema. -/
structure MadeFrom (rule : Rule) (classification : Classification) (schema : Json) : Prop where
  written : rule.schema = schema
  attributes : ∃ found, Extraction.ofShape (Shape.ofJson schema) classification = .ok found ∧
    rule.attributes = found.buckets
  contract : rule.contract = Lowering.lower (Contract.merge (.obj Contract.base) schema)

theorem madeFrom_of_leaves {made : Registration} {rule : Rule}
    (leaves : made.Leaves (.compiled rule)) : rule.MadeFrom made.classification made.schema := by
  cases leaves with
  | rule isObject extracted taken => exact ⟨rfl, ⟨_, extracted, rfl⟩, rfl⟩

end Rule

namespace Buckets

/-- No path stands in the buckets twice, and every path names the namespace of its bucket. -/
structure Tidy (buckets : Buckets) : Prop where
  nodup : buckets.all.Nodup
  named : ∀ ns, ∀ path ∈ buckets.get ns,
    (∃ rest, path = "/" ++ rest) ∧ ns.key.toList <:+: path.toList

theorem tidy_ofShape {shape : Shape} {classification : Classification} {found : Extraction}
    (done : Extraction.ofShape shape classification = .ok found) : found.buckets.Tidy where
  nodup := Extraction.nodup_all done
  named := fun _ _ listed => Extraction.of_mem_get done listed

end Buckets

namespace Engine

variable {engine : Engine} {name : String}

theorem rule?_eq_some_iff (rule : Rule) :
    engine.rule? name = some rule ↔ engine.entryOf? name = some (.compiled rule) := by
  rw [rule?]
  cases engine.entryOf? name with
  | none => simp
  | some entry => cases entry <;> simp [Entry.rule?]

theorem attributes?_eq_some_iff (buckets : Buckets) : engine.attributes? name = some buckets ↔
    ∃ rule, engine.entryOf? name = some (.compiled rule) ∧ rule.attributes = buckets := by
  simp only [attributes?, Option.map_eq_some_iff, rule?_eq_some_iff]

theorem attributesList_of_none (nothing : engine.attributes? name = none) (ns : Option String) :
    engine.attributesList name ns = [] := by
  rw [attributesList, nothing]

theorem attributesList_key {buckets : Buckets} (held : engine.attributes? name = some buckets)
    (ns : Namespace) : engine.attributesList name (some ns.key) = buckets.get ns := by
  simp [attributesList, held, Namespace.ofKey?_key]

theorem attributesList_all {buckets : Buckets} (held : engine.attributes? name = some buckets) :
    engine.attributesList name none = buckets.all := by
  simp [attributesList, held]

theorem attributesList_other {text : String} (other : ∀ ns : Namespace, ns.key ≠ text) :
    engine.attributesList name (some text) = engine.attributesList name none := by
  have unnamed : Namespace.ofKey? text = none := by
    refine Option.eq_none_iff_forall_ne_some.mpr fun ns named => ?_
    exact other ns ((Namespace.ofKey?_eq_some_iff text ns).mp named)
  simp [attributesList, unnamed]

/-- What can be asked of the attributes of a name, and how the answers belong together. -/
structure Answers (engine : Engine) (name : String) : Prop where
  unnamed : ∀ text, (∀ ns : Namespace, ns.key ≠ text) →
    engine.attributesList name (some text) = engine.attributesList name none
  joined : engine.attributesList name none =
    engine.attributesList name (some "subject") ++ engine.attributesList name (some "object") ++
      engine.attributesList name (some "environment")
  nodup : (engine.attributesList name none).Nodup
  length : ∀ buckets, engine.attributes? name = some buckets →
    (engine.attributesList name none).length = buckets.size
  paths : ∀ (ns : Namespace), ∀ path ∈ engine.attributesList name (some ns.key),
    (∃ rest, path = "/" ++ rest) ∧ ns.key.toList <:+: path.toList
  nothing : (∀ rule, engine.entryOf? name ≠ some (.compiled rule)) →
    ∀ ns, engine.attributesList name ns = []

theorem answers_of_tidy
    (tidy : ∀ buckets, engine.attributes? name = some buckets → buckets.Tidy) :
    engine.Answers name := by
  cases held : engine.attributes? name with
  | none =>
    have empty := attributesList_of_none held
    constructor
    case length =>
      intro buckets found
      cases held.symm.trans found
    all_goals simp [empty]
  | some buckets =>
    have ofKey := attributesList_key held
    have all := attributesList_all held
    constructor
    case unnamed => exact fun text other => attributesList_other other
    case joined =>
      rw [all, show "subject" = Namespace.subject.key from rfl,
        show "object" = Namespace.object.key from rfl,
        show "environment" = Namespace.environment.key from rfl, ofKey, ofKey, ofKey]
      rfl
    case nodup =>
      rw [all]
      exact (tidy buckets held).nodup
    case length =>
      intro other found
      cases held.symm.trans found
      rw [all, Buckets.length_all]
    case paths =>
      intro ns path listed
      rw [ofKey] at listed
      exact (tidy buckets held).named ns path listed
    case nothing =>
      intro none
      obtain ⟨rule, entry, _⟩ := (attributes?_eq_some_iff buckets).mp held
      exact absurd entry (none rule)

/-- Every rule that is held belongs to the last schema of its name, and so does every answer. -/
structure Coherent (engine : Engine) (classification : Classification)
    (made : List Registration) : Prop where
  rules : ∀ name rule, engine.entryOf? name = some (.compiled rule) →
    ∃ last, Registration.last? name made = some last ∧
      rule.MadeFrom classification last.schema
  answers : ∀ name, engine.Answers name

theorem coherent_of_holds {classification : Classification} {made : List Registration}
    (holds : engine.Holds made) (same : ∀ r ∈ made, r.classification = classification) :
    engine.Coherent classification made := by
  have rules : ∀ name rule, engine.entryOf? name = some (.compiled rule) →
      ∃ last, Registration.last? name made = some last ∧
        rule.MadeFrom classification last.schema := by
    intro name rule held
    obtain ⟨last, isLast, leaves⟩ := (holds.entries name _).mp held
    refine ⟨last, isLast, ?_⟩
    rw [← same last (Registration.mem_of_last? isLast)]
    exact Rule.madeFrom_of_leaves leaves
  refine ⟨rules, fun name => answers_of_tidy fun buckets held => ?_⟩
  obtain ⟨rule, entry, rfl⟩ := (attributes?_eq_some_iff buckets).mp held
  obtain ⟨_, _, made⟩ := rules name rule entry
  obtain ⟨found, extracted, attributes⟩ := made.attributes
  rw [attributes]
  exact Buckets.tidy_ofShape extracted

end Engine

/-- After any run of an engine that starts empty, or with the rules it is built from, schema,
attributes and contract of every rule belong to the last schema of its name, and the answers about
attributes belong together. -/
theorem entries_stay_coherent (steps : List Step) :
    (∀ options, ((Engine.withOptions options).after steps).Coherent options.classification
      (Step.registrationsOf .jsonSchema options.classification steps)) ∧
    ∀ rules, ((Engine.ofRules rules).result.after steps).Coherent .substring
      (Step.registrationsOf .jsonSchema .substring (.registerAll rules :: steps)) := by
  refine ⟨fun options => ?_, fun rules => ?_⟩
  · exact Engine.coherent_of_holds (Engine.holds_withOptions options steps)
      fun _ => Registration.classification_of_mem
  · exact Engine.coherent_of_holds (Engine.holds_ofRules rules steps)
      fun _ => Registration.classification_of_mem

end AccessRules
