import AccessRules.Engine.Decision

/-!
The engine: named rules in the order in which the names were first registered. A name that is
registered again keeps its place and loses its former rule, also when the new schema is no rule.
Every way a request can go wrong ends in a denial.
-/

namespace AccessRules

structure EngineOptions where
  classification : Classification
  audit : Bool
deriving DecidableEq

def EngineOptions.standard : EngineOptions := ⟨.substring, true⟩

inductive Entry where
  | compiled (rule : Rule)
  | invalid (error : RuleError)

def Entry.rule? : Entry → Option Rule
  | .compiled rule => some rule
  | .invalid _ => none

/-- The entries by name, in order of first registration. -/
abbrev Entries := List (String × Entry)

namespace Entries

def get? (entries : Entries) (name : String) : Option Entry :=
  match entries with
  | [] => none
  | (key, entry) :: rest => if key = name then some entry else get? rest name

/-- Puts an entry in the place of the name's former one, or at the end. -/
def put (entries : Entries) (name : String) (entry : Entry) : Entries :=
  match entries with
  | [] => [(name, entry)]
  | (key, old) :: rest =>
    if key = name then (key, entry) :: rest else (key, old) :: put rest name entry

end Entries

structure Engine where
  entries : Entries
  validator : Validator
  options : EngineOptions

namespace Engine

def withOptions (options : EngineOptions) : Engine :=
  ⟨[], .jsonSchema, options⟩

def new : Engine := withOptions .standard

/-- Plugs in a validator for the registrations that follow. -/
def withValidator (engine : Engine) (validator : Validator) : Engine :=
  { engine with validator := validator }

def entryOf (name : String) : Except RuleError Rule → Logged Entry
  | .ok rule => ⟨.compiled rule, [.ruleRegistered name rule.attributes.size]⟩
  | .error e => ⟨.invalid e, [.ruleInvalid name e.message]⟩

def register (engine : Engine) (name : String) (schema : Json) : Logged Engine :=
  let compiled := Rule.compile engine.validator engine.options.classification schema
  let entry := entryOf name compiled.result
  ⟨{ engine with entries := engine.entries.put name entry.result },
    compiled.events ++ entry.events⟩

def registerAll (engine : Engine) : List (String × Json) → Logged Engine
  | [] => ⟨engine, []⟩
  | (name, schema) :: rest =>
    let first := engine.register name schema
    let others := registerAll first.result rest
    ⟨others.result, first.events ++ others.events⟩

def ofRules (rules : List (String × Json)) : Logged Engine :=
  new.registerAll rules

def entryOf? (engine : Engine) (name : String) : Option Entry :=
  engine.entries.get? name

def rule? (engine : Engine) (name : String) : Option Rule :=
  (engine.entryOf? name).bind Entry.rule?

def attributes? (engine : Engine) (name : String) : Option Buckets :=
  (engine.rule? name).map (·.attributes)

def names (engine : Engine) : List String :=
  engine.entries.map (·.1)

def isRegistered (engine : Engine) (name : String) : Bool :=
  (engine.entryOf? name).isSome

def size (engine : Engine) : Nat :=
  engine.entries.length

/-- The decision about a request, before it is logged. -/
def decide (engine : Engine) (name : String) (request : Request) : Logged Decision :=
  match engine.entryOf? name with
  | none => ⟨⟨.deny, name, .unknownRule⟩, []⟩
  | some (.invalid e) => ⟨⟨.deny, name, .invalidRule e.message⟩, []⟩
  | some (.compiled rule) =>
    let outcome := rule.evaluate request
    ⟨.ofEvaluation name outcome.result, outcome.events⟩

/-- Decides a request and, with `audit` on, logs the decision. -/
def evaluate (engine : Engine) (name : String) (request : Request) : Logged Decision :=
  let decided := engine.decide name request
  ⟨decided.result,
    decided.events ++ if engine.options.audit then [decided.result.auditEvent] else []⟩

def enforce (engine : Engine) (name : String) (request : Request) : Logged Bool :=
  let decided := engine.evaluate name request
  ⟨decided.result.isAllowed, decided.events⟩

/-- The paths that a rule needs in one namespace; all of them when the text names none. A name
without a rule needs nothing. -/
def attributesList (engine : Engine) (name : String) (ns : Option String) : List String :=
  match engine.attributes? name with
  | none => []
  | some attributes =>
    match ns.bind Namespace.ofKey? with
    | some ns => attributes.get ns
    | none => attributes.all

end Engine

end AccessRules
