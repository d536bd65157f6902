import AccessRules.Engine.Registry

/-!
A run of an engine: steps that change it or ask it something, each with an answer and its events.
-/

namespace AccessRules

inductive Step where
  | register (name : String) (schema : Json)
  | registerAll (rules : List (String × Json))
  | plugIn (validator : Validator)
  | enforce (name : String) (request : Request)
  | evaluate (name : String) (request : Request)
  | validate (name : String) (request : Request)
  | attributesList (name : String) (ns : Option String)
  | attributes (name : String)
  | rule (name : String)
  | entry (name : String)
  | isRegistered (name : String)
  | names
  | options

inductive Answer where
  | entry (entry : Option Entry)
  | names (names : List String)
  | allowed (allowed : Bool)
  | decision (decision : Decision)
  | validation (outcome : Option (Evaluation × Bool))
  | paths (paths : List String)
  | attributes (attributes : Option Buckets)
  | rule (rule : Option Rule)
  | registered (registered : Bool)
  | options (options : EngineOptions)

structure Outcome where
  engine : Engine
  answer : Answer
  events : List Event

namespace Engine

/-- Takes one step. A rule that is asked directly is evaluated and then validated. -/
def step (engine : Engine) : Step → Outcome
  | .register name schema =>
    let done := engine.register name schema
    ⟨done.result, .entry (done.result.entryOf? name), done.events⟩
  | .registerAll rules =>
    let done := engine.registerAll rules
    ⟨done.result, .names done.result.names, done.events⟩
  | .plugIn validator => ⟨engine.withValidator validator, .names engine.names, []⟩
  | .enforce name request =>
    let done := engine.enforce name request
    ⟨engine, .allowed done.result, done.events⟩
  | .evaluate name request =>
    let done := engine.evaluate name request
    ⟨engine, .decision done.result, done.events⟩
  | .validate name request =>
    match engine.rule? name with
    | none => ⟨engine, .validation none, []⟩
    | some rule =>
      let outcome := rule.evaluate request
      let valid := rule.validate request
      ⟨engine, .validation (some (outcome.result, valid.result)), outcome.events ++ valid.events⟩
  | .attributesList name ns => ⟨engine, .paths (engine.attributesList name ns), []⟩
  | .attributes name => ⟨engine, .attributes (engine.attributes? name), []⟩
  | .rule name => ⟨engine, .rule (engine.rule? name), []⟩
  | .entry name => ⟨engine, .entry (engine.entryOf? name), []⟩
  | .isRegistered name => ⟨engine, .registered (engine.isRegistered name), []⟩
  | .names => ⟨engine, .names engine.names, []⟩
  | .options => ⟨engine, .options engine.options, []⟩

/-- Takes steps one after the other; the outcomes in order, each with the engine after it. -/
def run (engine : Engine) : List Step → List Outcome
  | [] => []
  | step :: rest =>
    let outcome := engine.step step
    outcome :: run outcome.engine rest

end Engine

end AccessRules
