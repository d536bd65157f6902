import AccessRules.Proofs.Engine.History
import AccessRules.Proofs.Rule.Checking

/-!
Decisions after a run. Access is granted by the checker that the last registration of the rule's
name made, and by nothing else; every other course of things has its own reason for the denial.
-/

namespace AccessRules

def CheckResult.decision (name : String) : CheckResult → Decision
  | .verdict true _ => ⟨.allow, name, .granted⟩
  | .verdict false errors => ⟨.deny, name, .denied errors⟩
  | .failure message => ⟨.deny, name, .validatorFailure ("validator failure: " ++ message)⟩
  | .crash (some text) => ⟨.deny, name, .validatorFailure text⟩
  | .crash none => ⟨.deny, name, .validatorFailure "validator panicked"⟩

def Registration.decision (name : String) (request : Request) : Option Registration → Decision
  | none => ⟨.deny, name, .unknownRule⟩
  | some made =>
    match made.compiled with
    | .error e => ⟨.deny, name, .invalidRule e.message⟩
    | .ok rule => (rule.checker request.document).decision name

theorem decision_ofEvaluation (name : String) (rule : Rule) (request : Request) :
    Decision.ofEvaluation name (rule.evaluate request).result =
      (rule.checker request.document).decision name := by
  simp only [Rule.evaluate]
  cases rule.checker request.document with
  | verdict valid errors => cases valid <;> rfl
  | failure message => rfl
  | crash text => cases text <;> rfl

theorem decision_allow (name : String) (checked : CheckResult) :
    (checked.decision name).effect = .allow ↔ ∃ errors, checked = .verdict true errors := by
  cases checked with
  | verdict valid errors => cases valid <;> simp [CheckResult.decision]
  | failure message => simp [CheckResult.decision]
  | crash text => cases text <;> simp [CheckResult.decision]

theorem evaluate_held (engine : Engine) (name : String) (request : Request)
    (made : Option Registration) (held : engine.entryOf? name = made.map Registration.entry) :
    (engine.evaluate name request).result = Registration.decision name request made := by
  simp only [Engine.evaluate, Engine.decide, held]
  cases made with
  | none => rfl
  | some made =>
    simp only [Option.map_some, Registration.entry, Registration.decision]
    cases made.compiled with
    | error e => rfl
    | ok rule => exact decision_ofEvaluation name rule request

theorem rule?_held (engine : Engine) (name : String) (rule : Rule) (made : Option Registration)
    (held : engine.entryOf? name = made.map Registration.entry) :
    engine.rule? name = some rule ↔ ∃ last, made = some last ∧ last.compiled = .ok rule := by
  simp only [Engine.rule?, held]
  cases made with
  | none => simp
  | some made =>
    simp only [Option.map_some, Option.bind_some, Registration.entry]
    cases compiled : made.compiled <;> simp [Entry.rule?, compiled]

theorem registration_allow (name : String) (request : Request) (made : Option Registration) :
    (Registration.decision name request made).effect = .allow ↔
      ∃ last rule, made = some last ∧ last.compiled = .ok rule ∧
        rule.checker.Grants request.document := by
  cases made with
  | none => simp [Registration.decision]
  | some made =>
    simp only [Registration.decision]
    cases compiled : made.compiled with
    | error e => simp [compiled]
    | ok rule => simp [compiled, decision_allow, Checker.Grants]

/-- After any run, a request is allowed exactly when the last registration of the name compiled,
with the validator and the classification of that time, and its checker grants the request
document. The decision itself, the answer that a run gives to the question, the short form of the
question and the rule asked directly all follow the same registration. -/
theorem decision_follows_last_registration (options : EngineOptions) (steps : List Step)
    (name : String) (request : Request) :
    let engine := (Engine.withOptions options).after steps
    let last := Registration.last? name
      (Step.registrationsOf .jsonSchema options.classification steps)
    let decision := (engine.evaluate name request).result
    (decision.effect = .allow ↔ ∃ made rule, last = some made ∧ made.compiled = .ok rule ∧
      made.validator.compile rule.contract = .ok rule.checker ∧
      rule.checker.Grants request.document) ∧
    decision = Registration.decision name request last ∧
    (∀ rest, ((Engine.withOptions options).run (steps ++ .evaluate name request :: rest))[
      steps.length]?.map (·.answer) = some (.decision decision)) ∧
    ((engine.enforce name request).result = true ↔ decision.effect = .allow) ∧
    (∀ rule, engine.rule? name = some rule →
      ((rule.validate request).result = true ↔ decision.effect = .allow)) := by
  intro engine last decision
  have held : engine.entryOf? name = last.map Registration.entry := by
    have made := (Engine.after_engine (Engine.withOptions options) steps).2 name
    rw [made]
    exact Option.or_none
  have decided : decision = Registration.decision name request last :=
    evaluate_held engine name request last held
  have allowed := registration_allow name request last
  rw [← decided] at allowed
  refine ⟨?_, decided, ?_, ?_, ?_⟩
  · rw [allowed]
    constructor
    · rintro ⟨made, rule, found, compiled, granted⟩
      exact ⟨made, rule, found, compiled, Rule.compiled_checker compiled, granted⟩
    · rintro ⟨made, rule, found, compiled, _, granted⟩
      exact ⟨made, rule, found, compiled, granted⟩
  · intro rest
    rw [Engine.run_append_cons]
    rfl
  · simp [Engine.enforce, Decision.isAllowed, decision]
  · intro rule found
    obtain ⟨made, isLast, compiled⟩ := (rule?_held engine name rule last held).mp found
    rw [Rule.validate_iff, allowed]
    constructor
    · intro granted
      exact ⟨made, rule, isLast, compiled, granted⟩
    · rintro ⟨other, otherRule, otherLast, otherCompiled, granted⟩
      cases Option.some.inj (isLast.symm.trans otherLast)
      cases Except.ok.inj (compiled.symm.trans otherCompiled)
      exact granted

end AccessRules
