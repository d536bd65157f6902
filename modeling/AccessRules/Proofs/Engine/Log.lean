import Mathlib.Data.List.Forall2
import AccessRules.Proofs.Attribute.Distribution
import AccessRules.Proofs.Engine.History

/-!
The log of a run. Events are of three matters: registrations, faults of validators, and access.
Every event belongs to one call, and the events of a matter are told by the calls of the run, in
order: one entry for a decision if decisions are logged, one warning for an evaluation that failed,
and the account of every registration.
-/

namespace AccessRules

inductive Matter where
  | registration
  | fault
  | access
deriving DecidableEq

namespace Event

def matter : Event → Matter
  | .pathDropped _ | .ruleCompiled .. | .ruleRegistered .. | .ruleInvalid .. => .registration
  | .validatorFailed _ | .validatorCrashed _ => .fault
  | .accessGranted _ | .accessDenied .. => .access

def about (matter : Matter) (events : List Event) : List Event :=
  events.filter fun event => event.matter = matter

theorem about_append (matter : Matter) (first second : List Event) :
    about matter (first ++ second) = about matter first ++ about matter second :=
  List.filter_append first second

theorem about_of_forall {matter : Matter} {events : List Event}
    (same : ∀ event ∈ events, event.matter = matter) (other : Matter) :
    about other events = if matter = other then events else [] := by
  split
  · rename_i here
    subst here
    exact List.filter_eq_self.mpr fun event listed => decide_eq_true (same event listed)
  · rename_i apart
    refine List.filter_eq_nil_iff.mpr fun event listed => ?_
    rw [same event listed, decide_eq_true_eq]
    exact apart

def warning? : Event → Option String
  | .validatorFailed message | .validatorCrashed message => some message
  | _ => none

theorem warning?_eq_none {event : Event} (other : event.matter ≠ .fault) :
    event.warning? = none := by
  cases event <;> first | rfl | exact absurd rfl other

theorem warnings_eq_nil {events : List Event} (others : ∀ event ∈ events, event.matter ≠ .fault) :
    events.filterMap warning? = [] :=
  List.filterMap_eq_nil_iff.mpr fun event listed => warning?_eq_none (others event listed)

end Event

open Event (about)

def Decision.entry (name : String) (decision : Decision) : Event :=
  if decision.effect = .allow then .accessGranted name else .accessDenied name decision.reason.text

def Evaluation.failure? : Evaluation → Option String
  | .failed message => some message
  | _ => none

def Registration.events (made : Registration) : List Event :=
  (Rule.compile made.validator made.classification made.schema).events ++
    (Engine.entryOf made.name made.compiled).events

namespace Engine

/-- The decisions that a call asks for, each with the name it is asked for under. -/
def decisionsOf (engine : Engine) : Step → List (String × Decision)
  | .enforce name request | .evaluate name request =>
    [(name, (engine.evaluate name request).result)]
  | _ => []

/-- The outcomes of the evaluations that a call makes. A rule that is asked directly is evaluated
twice. -/
def evaluationsOf (engine : Engine) : Step → List Evaluation
  | .enforce name request | .evaluate name request =>
    (engine.rule? name).toList.map fun rule => (rule.evaluate request).result
  | .validate name request =>
    (engine.rule? name).toList.flatMap fun rule =>
      [(rule.evaluate request).result, (rule.evaluate request).result]
  | _ => []

/-- What the calls of a run have, each found with the engine at its time. -/
def gather {α : Type} (found : Engine → Step → List α) (engine : Engine) : List Step → List α
  | [] => []
  | step :: rest => found engine step ++ gather found (engine.step step).engine rest

def log (engine : Engine) (steps : List Step) : List Event :=
  (engine.run steps).flatMap fun outcome => outcome.events

theorem log_cons (engine : Engine) (step : Step) (rest : List Step) :
    engine.log (step :: rest) =
      (engine.step step).events ++ (engine.step step).engine.log rest := by
  simp [log, run]

theorem warnings_judge (checked : CheckResult) :
    (Rule.judge checked).events.filterMap Event.warning? =
      [(Rule.judge checked).result].filterMap Evaluation.failure? := by
  cases checked with
  | verdict valid errors => cases valid <;> rfl
  | failure message => rfl
  | crash text => rfl

theorem matter_judge (checked : CheckResult) :
    ∀ event ∈ (Rule.judge checked).events, event.matter = .fault := by
  cases checked with
  | verdict valid errors => cases valid <;> simp [Rule.judge]
  | failure message => simp [Rule.judge, Event.matter]
  | crash text => simp [Rule.judge, Event.matter]

theorem matter_compile (validator : Validator) (classification : Classification) (schema : Json) :
    ∀ event ∈ (Rule.compile validator classification schema).events,
      event.matter = .registration := by
  cases schema with
  | obj fields =>
    simp only [Rule.compile, Rule.compileObject]
    cases Extraction.ofShape (Shape.ofJson (.obj fields)) classification with
    | error e => simp
    | ok found =>
      cases validator.compile (Rule.contractOf (.obj fields)) <;>
        simp [Event.matter, or_imp, forall_and]
  | _ => simp [Rule.compile]

theorem matter_events (made : Registration) :
    ∀ event ∈ made.events, event.matter = .registration := by
  intro event listed
  rcases List.mem_append.mp listed with compiling | holding
  · exact matter_compile _ _ _ event compiling
  · cases compiled : made.compiled with
    | error e =>
      rw [compiled] at holding
      cases List.mem_singleton.mp holding
      rfl
    | ok rule =>
      rw [compiled] at holding
      cases List.mem_singleton.mp holding
      rfl

theorem events_registerAll (engine : Engine) (rules : List (String × Json)) :
    (engine.registerAll rules).events = ((Step.registerAll rules).registrations engine.validator
      engine.options.classification).flatMap Registration.events := by
  induction rules generalizing engine with
  | nil => rfl
  | cons rule rest ih =>
    have others := ih (engine.register rule.1 rule.2).result
    have first := register_unchanged engine rule.1 rule.2
    rw [first.1, first.2] at others
    rw [registerAll, others]
    rfl

section Decision

variable (engine : Engine) (name : String) (request : Request)

theorem matter_decide : ∀ event ∈ (engine.decide name request).events, event.matter = .fault := by
  rw [decide]
  split
  · simp
  · simp
  · exact matter_judge _

theorem warnings_decide : (engine.decide name request).events.filterMap Event.warning? =
    ((engine.rule? name).toList.map fun rule => (rule.evaluate request).result).filterMap
      Evaluation.failure? := by
  rw [decide, rule?]
  cases engine.entryOf? name with
  | none => rfl
  | some entry =>
    cases entry with
    | invalid e => rfl
    | compiled rule => exact warnings_judge (rule.checker request.document)

theorem rule_decide : (engine.decide name request).result.rule = name := by
  rw [decide]
  split
  · rfl
  · rfl
  · rename_i rule _
    simp only [Decision.ofEvaluation]
    split <;> rfl

/-- A decision is logged after the warnings of its evaluation. -/
theorem events_evaluate : (engine.evaluate name request).events =
    (engine.decide name request).events ++ if engine.options.audit then
      [(engine.evaluate name request).result.entry name] else [] := by
  have entry : (engine.decide name request).result.auditEvent =
      (engine.decide name request).result.entry name := by
    rw [Decision.auditEvent, Decision.entry, rule_decide]
    cases (engine.decide name request).result.effect <;> rfl
  simp only [evaluate, entry]

end Decision

def faultsOf (engine : Engine) : Step → List Event
  | .enforce name request | .evaluate name request => (engine.decide name request).events
  | .validate name request =>
    (engine.rule? name).toList.flatMap fun rule =>
      (rule.evaluate request).events ++ (rule.validate request).events
  | _ => []

theorem matter_faultsOf (engine : Engine) (step : Step) :
    ∀ event ∈ engine.faultsOf step, event.matter = .fault := by
  cases step with
  | enforce name request | evaluate name request => exact matter_decide engine name request
  | validate name request =>
    intro event listed
    obtain ⟨rule, _, inside⟩ := List.mem_flatMap.mp listed
    rcases List.mem_append.mp inside with once | again
    · exact matter_judge _ event once
    · exact matter_judge _ event again
  | _ => simp [faultsOf]

theorem warnings_faultsOf (engine : Engine) (step : Step) :
    (engine.faultsOf step).filterMap Event.warning? =
      (engine.evaluationsOf step).filterMap Evaluation.failure? := by
  cases step with
  | enforce name request | evaluate name request => exact warnings_decide engine name request
  | validate name request =>
    cases found : engine.rule? name with
    | none => simp [faultsOf, evaluationsOf, found]
    | some rule =>
      have once := warnings_judge (rule.checker request.document)
      simp only [faultsOf, evaluationsOf, found, Option.toList_some, List.flatMap_cons,
        List.flatMap_nil, List.append_nil, List.filterMap_append, Rule.validate, Rule.evaluate]
      rw [once, ← List.filterMap_append]
      rfl
  | _ => rfl

/-- A call logs its registrations, then the faults it meets, then its decision. -/
theorem events_step (engine : Engine) (step : Step) : (engine.step step).events =
    (step.registrations engine.validator engine.options.classification).flatMap
        Registration.events ++
      (engine.faultsOf step ++ if engine.options.audit then
        (engine.decisionsOf step).map fun call => call.2.entry call.1 else []) := by
  cases step with
  | register name schema =>
    simp [Engine.step, Step.registrations, faultsOf, decisionsOf, register, Registration.events,
      Registration.compiled]
  | registerAll rules => simp [Engine.step, faultsOf, decisionsOf, events_registerAll]
  | enforce name request | evaluate name request =>
    simp [Engine.step, enforce, Step.registrations, faultsOf, decisionsOf, events_evaluate]
  | validate name request =>
    cases found : engine.rule? name <;>
      simp [Engine.step, found, Step.registrations, faultsOf, decisionsOf]
  | _ => simp [Engine.step, Step.registrations, faultsOf, decisionsOf]

section Matters

variable (engine : Engine) (step : Step)

theorem matter_registrations (made : List Registration) :
    ∀ event ∈ made.flatMap Registration.events, event.matter = .registration := by
  intro event listed
  obtain ⟨registration, _, inside⟩ := List.mem_flatMap.mp listed
  exact matter_events registration event inside

theorem matter_decisions (audit : Bool) (calls : List (String × Decision)) :
    ∀ event ∈ (if audit then calls.map fun call => call.2.entry call.1 else []),
      event.matter = .access := by
  intro event listed
  cases audit with
  | false => cases listed
  | true =>
    obtain ⟨call, _, rfl⟩ := List.mem_map.mp listed
    rw [Decision.entry]
    split <;> rfl

theorem about_step (matter : Matter) : about matter (engine.step step).events =
    match matter with
    | .registration => (step.registrations engine.validator
        engine.options.classification).flatMap Registration.events
    | .fault => engine.faultsOf step
    | .access => if engine.options.audit then
        (engine.decisionsOf step).map fun call => call.2.entry call.1 else [] := by
  have registrations := Event.about_of_forall (matter_registrations
    (step.registrations engine.validator engine.options.classification)) matter
  have faults := Event.about_of_forall (matter_faultsOf engine step) matter
  have decisions := Event.about_of_forall
    (matter_decisions engine.options.audit (engine.decisionsOf step)) matter
  rw [events_step, Event.about_append, Event.about_append, registrations, faults, decisions]
  cases matter <;> simp

theorem warnings_step : (engine.step step).events.filterMap Event.warning? =
    (engine.evaluationsOf step).filterMap Evaluation.failure? := by
  have registrations := Event.warnings_eq_nil (fun event listed => by
    rw [matter_registrations
      (step.registrations engine.validator engine.options.classification) event listed]
    decide)
  have decisions := Event.warnings_eq_nil (fun event listed => by
    rw [matter_decisions engine.options.audit (engine.decisionsOf step) event listed]
    decide)
  rw [events_step, List.filterMap_append, List.filterMap_append, registrations, decisions,
    warnings_faultsOf, List.nil_append, List.append_nil]

end Matters

section Run

variable (engine : Engine) (steps : List Step)

theorem registrations_log : about .registration (engine.log steps) =
    (Step.registrationsOf engine.validator engine.options.classification steps).flatMap
      Registration.events := by
  induction steps generalizing engine with
  | nil => rfl
  | cons step rest ih =>
    obtain ⟨validator, options, _⟩ := step_engine engine step
    rw [log_cons, Event.about_append, ih, validator, options, about_step, Step.registrationsOf,
      List.flatMap_append]

theorem access_log : about .access (engine.log steps) = if engine.options.audit then
    (engine.gather decisionsOf steps).map fun call => call.2.entry call.1 else [] := by
  induction steps generalizing engine with
  | nil => simp [log, run, gather, about]
  | cons step rest ih =>
    obtain ⟨_, options, _⟩ := step_engine engine step
    rw [log_cons, Event.about_append, ih, options, about_step, gather, List.map_append]
    cases engine.options.audit <;> rfl

theorem warnings_log : (engine.log steps).filterMap Event.warning? =
    (engine.gather evaluationsOf steps).filterMap Evaluation.failure? := by
  induction steps generalizing engine with
  | nil => rfl
  | cons step rest ih =>
    rw [log_cons, List.filterMap_append, ih, warnings_step, gather, List.filterMap_append]

end Run

end Engine

/-- The warnings of a call: one for each of its evaluations that failed. -/
def Outcome.Warns (outcome : Outcome) (step : Step) (warnings : List Event) : Prop :=
  (∀ event ∈ warnings, event.matter = .fault) ∧
    warnings.filterMap Event.warning? =
      (outcome.engine.evaluationsOf step).filterMap Evaluation.failure?

/-- What a call leaves in the log beside its answer, with decisions logged or not. -/
def Step.Accounted (audit : Bool) (step : Step) (outcome : Outcome) : Prop :=
  match step with
  | .register _ _ | .registerAll _ => ∀ event ∈ outcome.events, event.matter = .registration
  | .evaluate name _ => ∃ decision warnings, outcome.answer = .decision decision ∧
    outcome.Warns step warnings ∧
    outcome.events = warnings ++ if audit then [decision.entry name] else []
  | .enforce name request => ∃ decision warnings,
    (outcome.engine.evaluate name request).result = decision ∧
    outcome.answer = .allowed (decide (decision.effect = .allow)) ∧
    outcome.Warns step warnings ∧
    outcome.events = warnings ++ if audit then [decision.entry name] else []
  | .validate _ _ => outcome.Warns step outcome.events
  | _ => outcome.events = []

namespace Engine

theorem isAllowed_iff (decision : Decision) :
    decision.isAllowed = true ↔ decision.effect = .allow := by
  rw [Decision.isAllowed, beq_iff_eq]

theorem accounted_step (engine : Engine) (step : Step) :
    step.Accounted engine.options.audit (engine.step step) := by
  cases step with
  | register name schema => exact matter_events ⟨name, schema, _, _⟩
  | registerAll rules =>
    intro event listed
    have made : event ∈ (engine.registerAll rules).events := listed
    rw [events_registerAll] at made
    exact matter_registrations _ event made
  | evaluate name request =>
    exact ⟨_, _, rfl, ⟨matter_decide engine name request, warnings_decide engine name request⟩,
      events_evaluate engine name request⟩
  | enforce name request =>
    refine ⟨_, _, rfl, ?_, ⟨matter_decide engine name request, warnings_decide engine name request⟩,
      events_evaluate engine name request⟩
    refine congrArg Answer.allowed (Bool.eq_iff_iff.mpr ?_)
    rw [decide_eq_true_eq]
    exact isAllowed_iff _
  | validate name request =>
    have told : (engine.step (.validate name request)).events =
        engine.faultsOf (.validate name request) ∧
        (engine.step (.validate name request)).engine = engine := by
      cases found : engine.rule? name <;> simp [Engine.step, found, faultsOf]
    rw [Step.Accounted, Outcome.Warns, told.1, told.2]
    exact ⟨matter_faultsOf engine _, warnings_faultsOf engine _⟩
  | _ => rfl

theorem accounted_run (engine : Engine) (steps : List Step) :
    List.Forall₂ (Step.Accounted engine.options.audit) steps (engine.run steps) := by
  induction steps generalizing engine with
  | nil => exact .nil
  | cons step rest ih =>
    obtain ⟨_, options, _⟩ := step_engine engine step
    have others := ih (engine.step step).engine
    rw [options] at others
    exact .cons (accounted_step engine step) others

end Engine

/-- The account of a registration by substring: the paths that no namespace gets, in the order of
the walk, and then what has become of the schema. -/
def Registration.Told (made : Registration) : Prop :=
  let paths := (Shape.ofJson made.schema).paths
  let lost := paths.filter fun path => AttributePath.namespaceWithin? path = none
  (∃ rule, made.compiled = .ok rule ∧
    lost.length + rule.attributes.size = paths.length ∧
    made.events = lost.map Event.pathDropped ++
      [.ruleCompiled rule.attributes.size .substring,
        .ruleRegistered made.name rule.attributes.size]) ∨
  ∃ e, made.compiled = .error e ∧
    made.events = lost.map Event.pathDropped ++ [.ruleInvalid made.name e.message]

theorem Registration.told_of_substring {made : Registration} {fields : Fields}
    (bySubstring : made.classification = .substring) (isObject : made.schema = .obj fields) :
    made.Told := by
  obtain ⟨name, schema, validator, classification⟩ := made
  cases bySubstring
  cases isObject
  obtain ⟨found, extracted⟩ := Extraction.ofShape_substring (Shape.ofJson (.obj fields))
  have count := Extraction.size_add_dropped extracted
  have dropped := Extraction.dropped_ofShape extracted
  have lost : (fun path => decide (Classification.substring.owner? path = none)) =
      fun path => decide (AttributePath.namespaceWithin? path = none) := rfl
  rw [lost] at dropped
  rw [dropped] at count
  cases taken : validator.compile (Rule.contractOf (.obj fields)) with
  | error message =>
    refine .inr ⟨.rejected message, ?_, ?_⟩ <;>
      simp [Registration.compiled, Registration.events, Rule.compile, Rule.compileObject, extracted,
        taken, Engine.entryOf, dropped]
  | ok checker =>
    refine .inl
      ⟨⟨.obj fields, Rule.contractOf (.obj fields), found.buckets, checker⟩, ?_, count, ?_⟩ <;>
      simp [Registration.compiled, Registration.events, Rule.compile, Rule.compileObject, extracted,
        taken, Engine.entryOf, dropped]

/-- The log of a run tells its calls, in order. About access there is one entry for every decision
that is asked for, if decisions are logged; the warnings are those of the evaluations that failed,
and stand before the entry of their call; about registrations there is the account of each. -/
theorem log_tells_run (engine : Engine) (steps : List Step) :
    about .access (engine.log steps) = (if engine.options.audit then
      (engine.gather Engine.decisionsOf steps).map fun call => call.2.entry call.1 else []) ∧
    (engine.log steps).filterMap Event.warning? =
      (engine.gather Engine.evaluationsOf steps).filterMap Evaluation.failure? ∧
    about .registration (engine.log steps) = (Step.registrationsOf engine.validator
      engine.options.classification steps).flatMap Registration.events ∧
    List.Forall₂ (Step.Accounted engine.options.audit) steps (engine.run steps) ∧
    ∀ made : Registration, made.classification = .substring →
      (∃ fields, made.schema = .obj fields) → made.Told := by
  refine ⟨engine.access_log steps, engine.warnings_log steps, engine.registrations_log steps,
    engine.accounted_run steps, ?_⟩
  rintro made bySubstring ⟨fields, isObject⟩
  exact Registration.told_of_substring bySubstring isObject

theorem log_tells_run_granted :
    let lenient : Validator := ⟨fun _ => .ok fun _ => .verdict true []⟩
    let engine := Engine.new.withValidator lenient
    let schema := Json.obj [("properties", .obj [("door", .obj [])])]
    let made : Registration := ⟨"visit", schema, lenient, .substring⟩
    about .access (engine.log [.register "visit" schema, .enforce "visit" .empty]) =
        [.accessGranted "visit"] ∧
      made.classification = .substring ∧ (∃ fields, made.schema = .obj fields) ∧ made.Told := by
  intro lenient engine schema made
  have told := log_tells_run engine [.register "visit" schema, .enforce "visit" .empty]
  refine ⟨told.1.trans ?_, rfl, ⟨_, rfl⟩, told.2.2.2.2 made rfl ⟨_, rfl⟩⟩
  rfl

end AccessRules
