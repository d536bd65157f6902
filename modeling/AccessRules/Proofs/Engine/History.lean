import AccessRules.Engine.Run

/-!
What a run registers. A registration is kept with the validator and the classification that were in
force when it was made. It is read off the steps alone, and the engine after the run holds under a
name what the last registration of the name compiled to.
-/

namespace AccessRules

structure Registration where
  name : String
  schema : Json
  validator : Validator
  classification : Classification

namespace Registration

def compiled (made : Registration) : Except RuleError Rule :=
  (Rule.compile made.validator made.classification made.schema).result

def entry (made : Registration) : Entry :=
  match made.compiled with
  | .ok rule => .compiled rule
  | .error e => .invalid e

def last? (name : String) (made : List Registration) : Option Registration :=
  (made.filter fun r => r.name == name).getLast?

theorem last?_append (name : String) (earlier later : List Registration) :
    last? name (earlier ++ later) = (last? name later).or (last? name earlier) := by
  simp [last?, List.filter_append, List.getLast?_append]

theorem last?_singleton (name : String) (made : Registration) :
    last? name [made] = if made.name = name then some made else none := by
  by_cases same : made.name = name <;> simp [last?, same]

end Registration

namespace Step

def registrations (validator : Validator) (classification : Classification) :
    Step → List Registration
  | .register name schema => [⟨name, schema, validator, classification⟩]
  | .registerAll rules =>
    rules.map fun (name, schema) => ⟨name, schema, validator, classification⟩
  | _ => []

def validatorAfter (validator : Validator) : Step → Validator
  | .plugIn other => other
  | _ => validator

def registrationsOf (validator : Validator) (classification : Classification) :
    List Step → List Registration
  | [] => []
  | step :: rest =>
    step.registrations validator classification ++
      registrationsOf (step.validatorAfter validator) classification rest

end Step

namespace Entries

theorem get?_put (entries : Entries) (name other : String) (entry : Entry) :
    (entries.put name entry).get? other =
      if name = other then some entry else entries.get? other := by
  induction entries with
  | nil => simp [put, get?]
  | cons first rest ih =>
    obtain ⟨key, old⟩ := first
    by_cases here : key = name
    · subst here
      by_cases same : key = other <;> simp [put, get?, same]
    · by_cases hit : key = other
      · subst hit
        have apart : ¬ name = key := fun same => here same.symm
        simp [put, get?, here, apart]
      · simp [put, get?, here, hit, ih]

end Entries

namespace Engine

def after (engine : Engine) (steps : List Step) : Engine :=
  match (engine.run steps).getLast? with
  | some outcome => outcome.engine
  | none => engine

theorem after_nil (engine : Engine) : engine.after [] = engine := rfl

theorem after_cons (engine : Engine) (step : Step) (rest : List Step) :
    engine.after (step :: rest) = (engine.step step).engine.after rest := by
  cases others : (engine.step step).engine.run rest with
  | nil => simp [after, run, others]
  | cons outcome more => simp [after, run, others, List.getLast?_cons]

/-- The outcome of a step inside a run is that of the step after the steps before it. -/
theorem run_append_cons (engine : Engine) (before : List Step) (step : Step) (rest : List Step) :
    (engine.run (before ++ step :: rest))[before.length]? =
      some ((engine.after before).step step) := by
  induction before generalizing engine with
  | nil => simp [run, after_nil]
  | cons first before ih =>
    rw [after_cons, ← ih]
    simp [run]

/-- What is held under a name once registrations are made, `before` being what was held. -/
def heldAfter (name : String) (before : Option Entry) (made : List Registration) : Option Entry :=
  ((Registration.last? name made).map Registration.entry).or before

theorem heldAfter_append (name : String) (before : Option Entry)
    (earlier later : List Registration) :
    heldAfter name before (earlier ++ later) =
      heldAfter name (heldAfter name before earlier) later := by
  rw [heldAfter, Registration.last?_append]
  cases last : Registration.last? name later <;> simp [heldAfter, last]

theorem entryOf?_register (engine : Engine) (name other : String) (schema : Json) :
    (engine.register name schema).result.entryOf? other =
      heldAfter other (engine.entryOf? other)
        [⟨name, schema, engine.validator, engine.options.classification⟩] := by
  have entry : (entryOf name
      (Rule.compile engine.validator engine.options.classification schema).result).result =
      Registration.entry ⟨name, schema, engine.validator, engine.options.classification⟩ := by
    simp only [Registration.entry, Registration.compiled]
    cases (Rule.compile engine.validator engine.options.classification schema).result <;> rfl
  simp only [register, entryOf?, Entries.get?_put, entry, heldAfter, Registration.last?_singleton]
  by_cases same : name = other <;> simp [same]

theorem register_unchanged (engine : Engine) (name : String) (schema : Json) :
    (engine.register name schema).result.validator = engine.validator ∧
      (engine.register name schema).result.options = engine.options :=
  ⟨rfl, rfl⟩

theorem registerAll_unchanged (engine : Engine) (rules : List (String × Json)) :
    (engine.registerAll rules).result.validator = engine.validator ∧
      (engine.registerAll rules).result.options = engine.options := by
  induction rules generalizing engine with
  | nil => exact ⟨rfl, rfl⟩
  | cons rule rest ih =>
    have first := register_unchanged engine rule.1 rule.2
    have others := ih (engine.register rule.1 rule.2).result
    exact ⟨others.1.trans first.1, others.2.trans first.2⟩

theorem entryOf?_registerAll (engine : Engine) (other : String) (rules : List (String × Json)) :
    (engine.registerAll rules).result.entryOf? other =
      heldAfter other (engine.entryOf? other) ((Step.registerAll rules).registrations
        engine.validator engine.options.classification) := by
  induction rules generalizing engine with
  | nil => simp [registerAll, Step.registrations, heldAfter, Registration.last?]
  | cons rule rest ih =>
    obtain ⟨name, schema⟩ := rule
    have first := register_unchanged engine name schema
    have others := ih (engine.register name schema).result
    rw [entryOf?_register, first.1, first.2, ← heldAfter_append] at others
    exact others

/-- What one step can do to the engine: only plugging in changes the validator, nothing changes the
options, and only registrations change what is held. -/
theorem step_engine (engine : Engine) (step : Step) :
    (engine.step step).engine.validator = step.validatorAfter engine.validator ∧
      (engine.step step).engine.options = engine.options ∧
      ∀ name, (engine.step step).engine.entryOf? name = heldAfter name (engine.entryOf? name)
        (step.registrations engine.validator engine.options.classification) := by
  have asked : ∀ name, engine.entryOf? name = heldAfter name (engine.entryOf? name) [] := by
    intro name
    simp [heldAfter, Registration.last?]
  cases step with
  | register name schema =>
    exact ⟨rfl, rfl, fun other => entryOf?_register engine name other schema⟩
  | registerAll rules =>
    have kept := registerAll_unchanged engine rules
    exact ⟨kept.1, kept.2, fun other => entryOf?_registerAll engine other rules⟩
  | validate name request =>
    cases found : engine.rule? name <;> simpa [Engine.step, found] using ⟨rfl, asked⟩
  | _ => exact ⟨rfl, rfl, asked⟩

/-- The options are those of the start, and what is held under a name is what the last of its
registrations led to. -/
theorem after_engine (engine : Engine) (steps : List Step) :
    (engine.after steps).options = engine.options ∧
      ∀ name, (engine.after steps).entryOf? name = heldAfter name (engine.entryOf? name)
        (Step.registrationsOf engine.validator engine.options.classification steps) := by
  induction steps generalizing engine with
  | nil =>
    refine ⟨rfl, fun name => ?_⟩
    simp [after_nil, Step.registrationsOf, heldAfter, Registration.last?]
  | cons step rest ih =>
    obtain ⟨validator, options, held⟩ := step_engine engine step
    have others := ih (engine.step step).engine
    rw [after_cons]
    refine ⟨others.1.trans options, fun name => ?_⟩
    rw [others.2 name, held name, validator, options, ← heldAfter_append]
    rfl

end Engine

end AccessRules
