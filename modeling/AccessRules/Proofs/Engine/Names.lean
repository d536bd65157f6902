import AccessRules.Proofs.Attribute.Distribution
import AccessRules.Proofs.Engine.History

/-!
The registry after a run. A name has its place from its first registration and what is held under it
from its last, and a registration leaves all other names alone. What a schema leaves under its name
is told by the first of three things that can go wrong with it.
-/

namespace AccessRules

/-- What a registration leaves under its name. -/
inductive Registration.Leaves (made : Registration) : Entry → Prop where
  | noObject (other : ∀ fields, made.schema ≠ .obj fields) :
      Leaves made (.invalid (.notAnObject made.schema.kindName))
  | unextracted {fields : Fields} {e : ExtractionError} (isObject : made.schema = .obj fields)
      (failed : Extraction.ofShape (Shape.ofJson made.schema) made.classification = .error e) :
      Leaves made (.invalid (.extraction e))
  | refused {fields : Fields} {found : Extraction} {message : String}
      (isObject : made.schema = .obj fields)
      (extracted : Extraction.ofShape (Shape.ofJson made.schema) made.classification = .ok found)
      (refusal : made.validator.compile (Rule.contractOf made.schema) = .error message) :
      Leaves made (.invalid (.rejected message))
  | rule {fields : Fields} {found : Extraction} {checker : Checker}
      (isObject : made.schema = .obj fields)
      (extracted : Extraction.ofShape (Shape.ofJson made.schema) made.classification = .ok found)
      (taken : made.validator.compile (Rule.contractOf made.schema) = .ok checker) :
      Leaves made (.compiled ⟨made.schema, Rule.contractOf made.schema, found.buckets, checker⟩)

theorem Registration.leaves_entry (made : Registration) : made.Leaves made.entry := by
  obtain ⟨name, schema, validator, classification⟩ := made
  by_cases isObject : ∃ fields, schema = .obj fields
  · obtain ⟨fields, rfl⟩ := isObject
    simp only [Registration.entry, Registration.compiled, Rule.compile, Rule.compileObject]
    cases extracted : Extraction.ofShape (Shape.ofJson (.obj fields)) classification with
    | error e => exact .unextracted rfl extracted
    | ok found =>
      cases compiled : validator.compile (Rule.contractOf (.obj fields)) with
      | error message => exact .refused rfl extracted compiled
      | ok checker => exact .rule rfl extracted compiled
  · have other : ∀ fields, schema ≠ .obj fields := fun fields same => isObject ⟨fields, same⟩
    cases schema with
    | obj fields => exact absurd rfl (other fields)
    | _ => exact .noObject other

theorem Registration.Leaves.entry_eq {made : Registration} {entry : Entry}
    (leaves : made.Leaves entry) : made.entry = entry := by
  cases leaves with
  | noObject other =>
    obtain ⟨name, schema, validator, classification⟩ := made
    cases schema with
    | obj fields => exact absurd rfl (other fields)
    | _ => rfl
  | unextracted isObject failed =>
    rw [isObject] at failed
    simp [Registration.entry, Registration.compiled, isObject, Rule.compile, Rule.compileObject,
      failed]
  | refused isObject extracted refusal =>
    rw [isObject] at extracted refusal
    simp [Registration.entry, Registration.compiled, isObject, Rule.compile, Rule.compileObject,
      extracted, refusal]
  | rule isObject extracted taken =>
    rw [isObject] at extracted taken
    simp [Registration.entry, Registration.compiled, isObject, Rule.compile, Rule.compileObject,
      extracted, taken]

theorem Registration.leaves_iff (made : Registration) (entry : Entry) :
    made.Leaves entry ↔ made.entry = entry := by
  constructor
  · exact Leaves.entry_eq
  · rintro rfl
    exact made.leaves_entry

theorem Entries.names_put (entries : Entries) (name : String) (entry : Entry) :
    (entries.put name entry).map (·.1) =
      if name ∈ entries.map (·.1) then entries.map (·.1) else entries.map (·.1) ++ [name] := by
  induction entries with
  | nil => rfl
  | cons first rest ih =>
    obtain ⟨key, old⟩ := first
    by_cases here : key = name
    · subst here
      simp [put]
    · have apart : ¬ name = key := fun same => here same.symm
      simp only [put, here, if_false, List.map_cons, ih, List.mem_cons, apart, false_or]
      split <;> rfl

theorem Entries.get?_eq_none_iff (entries : Entries) (name : String) :
    entries.get? name = none ↔ name ∉ entries.map (·.1) := by
  induction entries with
  | nil => simp [get?]
  | cons first rest ih =>
    obtain ⟨key, old⟩ := first
    by_cases here : key = name
    · simp [get?, here]
    · have apart : ¬ name = key := fun same => here same.symm
      simp [get?, here, apart, ih]

namespace Engine

theorem names_register (engine : Engine) (name : String) (schema : Json) :
    (engine.register name schema).result.names =
      if name ∈ engine.names then engine.names else engine.names ++ [name] :=
  Entries.names_put engine.entries name _

theorem isRegistered_iff (engine : Engine) (name : String) :
    engine.isRegistered name = true ↔ name ∈ engine.names := by
  have absent : engine.entryOf? name = none ↔ name ∉ engine.names :=
    Entries.get?_eq_none_iff engine.entries name
  rw [isRegistered, Option.isSome_iff_ne_none, ne_eq, absent, Decidable.not_not]

/-- The names of an engine are those of a list, each where it is first met. -/
def Lists (engine : Engine) (names : List String) : Prop :=
  engine.names = names.eraseDups

theorem Lists.register {engine : Engine} {names : List String} (lists : engine.Lists names)
    (name : String) (schema : Json) :
    (engine.register name schema).result.Lists (names ++ [name]) := by
  rw [Lists, names_register, eraseDups_concat, ← lists]

theorem Lists.registerAll {engine : Engine} {names : List String} (lists : engine.Lists names)
    (rules : List (String × Json)) :
    (engine.registerAll rules).result.Lists (names ++ rules.map (·.1)) := by
  induction rules generalizing engine names with
  | nil =>
    rw [List.map_nil, List.append_nil]
    exact lists
  | cons rule rest ih =>
    have others := ih (lists.register rule.1 rule.2)
    rw [List.append_assoc] at others
    exact others

theorem Lists.step {engine : Engine} {names : List String} (lists : engine.Lists names)
    (step : Step) : (engine.step step).engine.Lists (names ++
      (step.registrations engine.validator engine.options.classification).map (·.name)) := by
  have asked : engine.Lists (names ++ ([] : List Registration).map (·.name)) := by
    rw [List.map_nil, List.append_nil]
    exact lists
  cases step with
  | register name schema => exact lists.register name schema
  | registerAll rules =>
    have all := lists.registerAll rules
    simpa [Engine.step, Step.registrations, Function.comp_def] using all
  | validate name request =>
    have kept : (engine.step (.validate name request)).engine = engine := by
      cases found : engine.rule? name <;> simp [Engine.step, found]
    rw [kept]
    exact asked
  | _ => exact asked

theorem Lists.after {engine : Engine} {names : List String} (lists : engine.Lists names)
    (steps : List Step) : (engine.after steps).Lists (names ++
      (Step.registrationsOf engine.validator engine.options.classification steps).map
        (·.name)) := by
  induction steps generalizing engine names with
  | nil => simpa [after_nil, Step.registrationsOf] using lists
  | cons step rest ih =>
    obtain ⟨validator, options, _⟩ := step_engine engine step
    have others := ih (lists.step step)
    rw [validator, options, List.append_assoc, ← List.map_append] at others
    rw [after_cons]
    exact others

/-- Registering leaves the names that are there in their places, and adds at most one. -/
theorem names_prefix_register (engine : Engine) (name : String) (schema : Json) :
    engine.names <+: (engine.register name schema).result.names := by
  rw [names_register]
  split
  · exact List.prefix_rfl
  · exact List.prefix_append _ _

theorem names_prefix_registerAll (engine : Engine) (rules : List (String × Json)) :
    engine.names <+: (engine.registerAll rules).result.names := by
  induction rules generalizing engine with
  | nil => exact List.prefix_rfl
  | cons rule rest ih =>
    have first := names_prefix_register engine rule.1 rule.2
    exact first.trans (ih (engine.register rule.1 rule.2).result)

theorem names_prefix_step (engine : Engine) (step : Step) :
    engine.names <+: (engine.step step).engine.names := by
  cases step with
  | register name schema => exact names_prefix_register engine name schema
  | registerAll rules => exact names_prefix_registerAll engine rules
  | validate name request =>
    cases found : engine.rule? name <;> simp [Engine.step, found]
  | _ => exact List.prefix_rfl

theorem position_register (engine : Engine) {name other : String} (schema : Json)
    (apart : other ≠ name) (i : Nat) :
    (engine.register name schema).result.names[i]? = some other ↔
      engine.names[i]? = some other := by
  rw [names_register]
  split
  · rfl
  · rw [List.getElem?_append]
    split
    · rfl
    · rename_i past
      have outside : engine.names[i]? = none := List.getElem?_eq_none (by omega)
      rw [outside, List.getElem?_singleton]
      split <;> simp [apart.symm]

/-- What an engine holds after some registrations: their names in the order of first mention, and
under each name what its last registration leaves. -/
structure Holds (engine : Engine) (made : List Registration) : Prop where
  names : engine.names = (made.map (·.name)).eraseDups
  size : engine.size = engine.names.length
  registered : ∀ name, engine.isRegistered name = true ↔ name ∈ engine.names
  entries : ∀ name entry, engine.entryOf? name = some entry ↔
    ∃ last, Registration.last? name made = some last ∧ last.Leaves entry

theorem holds_after (engine : Engine) (fresh : engine.entries = []) (steps : List Step) :
    (engine.after steps).Holds
      (Step.registrationsOf engine.validator engine.options.classification steps) := by
  have lists : engine.Lists [] := by
    rw [Lists, Engine.names, fresh]
    rfl
  constructor
  case names => exact lists.after steps
  case size => simp [size, Engine.names]
  case registered => exact isRegistered_iff _
  case entries =>
    intro name entry
    have nothing : engine.entryOf? name = none := by
      rw [entryOf?, fresh]
      rfl
    rw [(after_engine engine steps).2 name, nothing, heldAfter, Option.or_none,
      Option.map_eq_some_iff]
    simp only [Registration.leaves_iff]

theorem holds_withOptions (options : EngineOptions) (steps : List Step) :
    ((withOptions options).after steps).Holds
      (Step.registrationsOf .jsonSchema options.classification steps) :=
  holds_after _ rfl steps

theorem holds_ofRules (rules : List (String × Json)) (steps : List Step) :
    ((ofRules rules).result.after steps).Holds
      (Step.registrationsOf .jsonSchema .substring (.registerAll rules :: steps)) := by
  have all := holds_after new rfl (.registerAll rules :: steps)
  rw [after_cons] at all
  exact all

end Engine

/-- After any run of an engine that starts empty, or with the rules it is built from, the registry
is the ordered map of its registrations: places from the first registration of a name, entries from
the last, compiled with what was in force then. Registering a name leaves every other name with its
entry and its place, and no step takes a name away. -/
theorem registry_follows_registrations (steps : List Step) :
    (∀ options, ((Engine.withOptions options).after steps).Holds
      (Step.registrationsOf .jsonSchema options.classification steps)) ∧
    (∀ rules, ((Engine.ofRules rules).result.after steps).Holds
      (Step.registrationsOf .jsonSchema .substring (.registerAll rules :: steps))) ∧
    (∀ (engine : Engine) (name : String) (schema : Json) (other : String), other ≠ name →
      (engine.register name schema).result.entryOf? other = engine.entryOf? other ∧
      ∀ i : Nat, (engine.register name schema).result.names[i]? = some other ↔
        engine.names[i]? = some other) ∧
    ∀ (engine : Engine) (step : Step), engine.names <+: (engine.step step).engine.names := by
  refine ⟨fun options => Engine.holds_withOptions options steps,
    fun rules => Engine.holds_ofRules rules steps, ?_, Engine.names_prefix_step⟩
  intro engine name schema other apart
  refine ⟨?_, engine.position_register schema apart⟩
  have apart' : ¬ name = other := fun same => apart same.symm
  simp [Engine.entryOf?_register, Engine.heldAfter, Registration.last?_singleton, apart']

theorem registry_follows_registrations_again :
    let engine := (Engine.withOptions .standard).after
      [.register "zeta" (.obj []), .register "alpha" .null, .register "zeta" .null]
    engine.names = ["zeta", "alpha"] ∧ "alpha" ≠ "zeta" ∧
      (engine.register "zeta" (.obj [])).result.entryOf? "alpha" = engine.entryOf? "alpha" := by
  intro engine
  have facts := registry_follows_registrations
    [.register "zeta" (.obj []), .register "alpha" .null, .register "zeta" .null]
  have others := facts.2.2.1 engine "zeta" (.obj []) "alpha" (by decide)
  refine ⟨?_, by decide, others.1⟩
  exact (facts.1 .standard).names.trans (by decide)

end AccessRules
