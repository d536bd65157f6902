import AccessRules.Proofs.Config.Layers
import AccessRules.Proofs.Config.RuleFiles
import AccessRules.Proofs.Schema.Compilation

/-!
What a check ends with. A decision is reached when the configuration and the rule file are good and
every text that is given for a namespace is. Status 0 and the word `allow` stand for a decision that
allows, the word `deny` for one that does not, and without a decision there is neither a word nor
status 0.
-/

namespace AccessRules

namespace Invocation

/-- What stands for a namespace for which no text is given: the time for the environment, if asked
for, and nothing otherwise. -/
def standIn (now : Bool) (time : Timestamp) (ns : Namespace) : Option Json :=
  if ns = .environment ∧ now = true then some time.environment else none

/-- The request holds the value of every text that is given, a null like any other, and what stands
for the texts that are not. -/
structure Describes (texts : Namespace → Option String) (now : Bool) (time : Timestamp)
    (request : Request) : Prop where
  given : ∀ ns text, texts ns = some text →
    ∃ value, Json.ofText? text = some value ∧ request.get ns = some value
  omitted : ∀ ns, texts ns = none → request.get ns = standIn now time ns

def textsOf (subject object environment : Option String) : Namespace → Option String
  | .subject => subject
  | .object => object
  | .environment => environment

/-- The invocation is a check that reaches a decision. -/
inductive Reaches (invocation : Invocation) (surroundings : Surroundings) (time : Timestamp) :
    Decision → Prop where
  | intro {rule : String} {subject object environment : Option String} {now : Bool}
      {loaded : Configuration} {content : ByteArray} {text : String}
      {rules : List (String × Json)} {request : Request}
      (command : invocation.command = .check rule subject object environment now)
      (configured : (invocation.loader surroundings).load surroundings = .ok loaded)
      (present : surroundings.look (invocation.rules.getD loaded.rulesFile) = .regular content)
      (decoded : String.fromUTF8? content = some text)
      (parsed : Json.ofText? text = some (.obj rules))
      (described : Describes (textsOf subject object environment) now time request) :
      Reaches invocation surroundings time
        (((Engine.withOptions (invocation.optionsOf loaded)).registerAll rules).result.evaluate
          rule request).result

theorem valueOf_or_iff (ns : Namespace) (given : Option String) (otherwise held : Option Json) :
    (∃ read, valueOf ns given = .ok read ∧ held = read.or otherwise) ↔
      (∀ text, given = some text → ∃ value, Json.ofText? text = some value ∧ held = some value) ∧
        (given = none → held = otherwise) := by
  cases given with
  | none => simp [valueOf]
  | some text => cases parsed : Json.ofText? text <;> simp [valueOf, parsed]

theorem requestOf_eq_ok_iff (subject object environment : Option String) (now : Bool)
    (time : Timestamp) (request : Request) :
    requestOf subject object environment now time = .ok request ↔
      Describes (textsOf subject object environment) now time request := by
  have reads (ns : Namespace) := valueOf_or_iff ns (textsOf subject object environment ns)
    (standIn now time ns) (request.get ns)
  -- The environment is read first, which does not show when all three texts are good.
  constructor
  · intro made
    simp only [requestOf, bind_eq_ok_iff] at made
    obtain ⟨environmentRead, readsEnvironment, subjectRead, readsSubject, objectRead, readsObject,
      made⟩ := made
    cases made
    have found : ∀ ns, _ := fun ns => (reads ns).mp <| by
      cases ns with
      | subject => exact ⟨subjectRead, readsSubject, by simp [Request.get, standIn]⟩
      | object => exact ⟨objectRead, readsObject, by simp [Request.get, standIn]⟩
      | environment => exact ⟨environmentRead, readsEnvironment, by simp [Request.get, standIn]⟩
    exact ⟨fun ns => (found ns).1, fun ns => (found ns).2⟩
  · intro described
    have found (ns : Namespace) := (reads ns).mpr ⟨described.given ns, described.omitted ns⟩
    obtain ⟨environmentRead, readsEnvironment, heldEnvironment⟩ := found .environment
    obtain ⟨subjectRead, readsSubject, heldSubject⟩ := found .subject
    obtain ⟨objectRead, readsObject, heldObject⟩ := found .object
    simp only [requestOf, bind_eq_ok_iff]
    refine ⟨environmentRead, readsEnvironment, subjectRead, readsSubject, objectRead, readsObject,
      ?_⟩
    obtain ⟨subjectValue, objectValue, environmentValue⟩ := request
    simp_all [Request.get, standIn, pure, Except.pure]

theorem engineOf_eq_ok_iff (configuration : Configuration) (surroundings : Surroundings)
    (engine : Logged Engine) :
    engineOf configuration surroundings = .ok engine ↔
      ∃ rules, RuleFile.load surroundings.look configuration.rulesFile = .ok rules ∧
        engine = (Engine.withOptions configuration.options).registerAll rules := by
  rw [engineOf]
  cases RuleFile.load surroundings.look configuration.rulesFile <;> simp [eq_comm]

theorem outcome_check_iff {invocation : Invocation} {rule : String}
    {subject object environment : Option String} {now : Bool}
    (command : invocation.command = .check rule subject object environment now)
    (surroundings : Surroundings) (time : Timestamp) (report : Report) :
    invocation.outcome surroundings time = .ok report ↔
      ∃ configuration, invocation.configuration surroundings = .ok configuration ∧
      ∃ engine, engineOf configuration surroundings = .ok engine ∧
      ∃ request, requestOf subject object environment now time = .ok request ∧
        report = .decision (engine.result.evaluate rule request).result
          (engine.events ++ (engine.result.evaluate rule request).events) := by
  simp only [outcome, command, answer, bind_eq_ok_iff, pure, Except.pure, Except.ok.injEq,
    eq_comm (b := report)]

theorem Reaches.outcome_eq {invocation : Invocation} {surroundings : Surroundings}
    {time : Timestamp} {decision : Decision}
    (reached : Reaches invocation surroundings time decision) :
    ∃ events, invocation.outcome surroundings time = .ok (.decision decision events) := by
  obtain ⟨command, configured, present, decoded, parsed, described⟩ := reached
  have loads := (RuleFile.load_eq_ok_iff _ _ _).mpr ⟨_, _, present, decoded, parsed⟩
  exact ⟨_, (outcome_check_iff command surroundings time _).mpr
    ⟨_, (configuration_eq_ok_iff ..).mpr ⟨_, configured, rfl⟩,
      _, (engineOf_eq_ok_iff ..).mpr ⟨_, loads, rfl⟩,
      _, (requestOf_eq_ok_iff ..).mpr described, rfl⟩⟩

theorem reaches_of_outcome {invocation : Invocation} {rule : String}
    {subject object environment : Option String} {now : Bool}
    (command : invocation.command = .check rule subject object environment now)
    {surroundings : Surroundings} {time : Timestamp} {report : Report}
    (ends : invocation.outcome surroundings time = .ok report) :
    ∃ decision events, Reaches invocation surroundings time decision ∧
      report = .decision decision events := by
  obtain ⟨_, configured, _, built, request, asked, same⟩ :=
    (outcome_check_iff command surroundings time report).mp ends
  obtain ⟨loaded, loadedWell, rfl⟩ := (configuration_eq_ok_iff ..).mp configured
  obtain ⟨rules, loads, rfl⟩ := (engineOf_eq_ok_iff ..).mp built
  obtain ⟨content, text, present, decoded, parsed⟩ := (RuleFile.load_eq_ok_iff _ _ _).mp loads
  have described := (requestOf_eq_ok_iff ..).mp asked
  exact ⟨_, _, .intro command loadedWell present decoded parsed described, same⟩

end Invocation

namespace Report

theorem decision_status (decision : Decision) (events : List Event) :
    (Report.decision decision events).status = match decision.effect with
      | .allow => 0
      | .deny => 1 := by
  cases decided : decision.effect <;> simp [Report.decision, Decision.isAllowed, decided]

theorem decision_output (decision : Decision) (events : List Event) :
    (Report.decision decision events).output = match decision.effect with
      | .allow => "allow\n"
      | .deny => "deny\n" := by
  cases decided : decision.effect <;> simp [Report.decision, Decision.isAllowed, decided]

theorem effect_eq_of_decision_eq {decision other : Decision} {events others : List Event}
    (same : Report.decision decision events = .decision other others) :
    decision.effect = other.effect := by
  have status := congrArg Report.status same
  rw [decision_status, decision_status] at status
  cases decided : decision.effect <;> cases otherwise : other.effect <;>
    simp [decided, otherwise] at status ⊢

end Report

/-- Status 0 stands for a decision that allows and for nothing else, `allow` and `deny` for the two
decisions, and an empty output for no decision, which is never a success. -/
theorem check_succeeds_only_on_allow {arguments : List String} {invocation : Invocation}
    {rule : String} {subject object environment : Option String} {now : Bool}
    (accepted : Invocation.ofArguments arguments = .ok invocation)
    (command : invocation.command = .check rule subject object environment now)
    (surroundings : Surroundings) (time : Timestamp) :
    let report := Report.ofArguments arguments surroundings time
    let Reached (effect : Effect) := ∃ decision,
      invocation.Reaches surroundings time decision ∧ decision.effect = effect
    (report.status = 0 ↔ Reached .allow) ∧
      (report.output = "allow\n" ↔ report.status = 0) ∧
      (report.output = "deny\n" ↔ Reached .deny) ∧
      (report.output = "" ↔ ¬ ∃ effect, Reached effect) ∧
      ((¬ ∃ effect, Reached effect) → report.status = 1) := by
  intro report Reached
  have runs : report = invocation.run surroundings time := by
    simp [report, Report.ofArguments, accepted]
  rw [Invocation.run] at runs
  cases ends : invocation.outcome surroundings time with
  | ok answer =>
    obtain ⟨decision, events, reached, rfl⟩ := Invocation.reaches_of_outcome command ends
    -- Any decision that is reached ends in this report, so it has this effect.
    have only (effect : Effect) : Reached effect ↔ decision.effect = effect := by
      constructor
      · rintro ⟨other, reachedToo, rfl⟩
        obtain ⟨others, endsToo⟩ := reachedToo.outcome_eq
        rw [ends, Except.ok.injEq] at endsToo
        exact Report.effect_eq_of_decision_eq endsToo
      · intro effect
        exact ⟨decision, reached, effect⟩
    have status := Report.decision_status decision events
    have output := Report.decision_output decision events
    rw [ends] at runs
    cases decided : decision.effect <;> simp [runs, only, decided, status, output]
  | error failure =>
    have unreached (effect : Effect) : ¬ Reached effect := by
      rintro ⟨decision, reached, -⟩
      obtain ⟨events, ends'⟩ := reached.outcome_eq
      simp [ends] at ends'
    have status : report.status = 1 := by simp [runs, ends, Report.failure]
    have output : report.output = "" := by simp [runs, ends, Report.failure]
    simp [status, output, unreached]

def openProject : Surroundings where
  workingDirectory := "/"
  environment := []
  accountHome := none
  look path :=
    if path = "./rules.json" then .regular "\x7b\"open\": \x7b\x7d\x7d".toUTF8 else .missing

theorem check_succeeds_only_on_allow_open :
    let arguments := ["check", "open", "--subject", "\x7b\x7d"]
    ∃ invocation, Invocation.ofArguments arguments = .ok invocation ∧
      ∃ decision, invocation.Reaches openProject ⟨0, 0, by decide⟩ decision ∧
        decision.effect = .allow := by
  intro arguments
  let asked : Invocation :=
    ⟨none, ".", false, false, .check "open" (some "\x7b\x7d") none none false⟩
  have accepted : Invocation.ofArguments arguments = .ok asked := rfl
  have status : (Report.ofArguments arguments openProject ⟨0, 0, by decide⟩).status = 0 := by
    decide +kernel
  exact ⟨asked, accepted, (check_succeeds_only_on_allow accepted rfl openProject _).1.mp status⟩

end AccessRules
