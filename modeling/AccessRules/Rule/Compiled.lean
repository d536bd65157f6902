import AccessRules.Attribute.Extraction
import AccessRules.Request
import AccessRules.Rule.Contract
import AccessRules.Rule.Event
import AccessRules.Rule.Lowering
import AccessRules.Rule.Validator

/-!
A rule: the schema as written, the contract made from it, the attributes it needs and the checker of
its contract. Compiling refuses a schema that is no object, then one with an attribute outside the
namespaces, then one that the validator refuses. Whatever a checker does, a request is satisfied
only by a verdict that says so.
-/

namespace AccessRules

inductive RuleError where
  | notAnObject (kind : String)
  | extraction (error : ExtractionError)
  | rejected (message : String)
deriving DecidableEq

def RuleError.message : RuleError → String
  | .notAnObject kind => "invalid rule: schema must be a JSON object, got " ++ kind
  | .extraction error => "invalid rule: " ++ error.message
  | .rejected message => "invalid rule: " ++ rejectedSchemaMessage message

structure Rule where
  schema : Json
  contract : Json
  attributes : Buckets
  checker : Checker

inductive Evaluation where
  | satisfied
  | violated (errors : List String)
  | failed (message : String)
deriving DecidableEq

def Evaluation.isSatisfied : Evaluation → Bool
  | .satisfied => true
  | _ => false

namespace Rule

/-- The contract of a schema: the base contract under the schema, with lists under `not` lowered. -/
def contractOf (schema : Json) : Json :=
  Lowering.lower (Contract.extend schema)

/-- Compiles a schema that is an object. The attributes are those of the schema itself. -/
def compileObject (validator : Validator) (classification : Classification) (schema : Json) :
    Logged (Except RuleError Rule) :=
  match Extraction.ofShape (Shape.ofJson schema) classification with
  | .error e => ⟨.error (.extraction e), []⟩
  | .ok found =>
    let dropped := found.dropped.map Event.pathDropped
    let contract := contractOf schema
    match validator.compile contract with
    | .error message => ⟨.error (.rejected message), dropped⟩
    | .ok checker =>
      ⟨.ok ⟨schema, contract, found.buckets, checker⟩,
        dropped ++ [.ruleCompiled found.buckets.size classification]⟩

def compile (validator : Validator) (classification : Classification) (schema : Json) :
    Logged (Except RuleError Rule) :=
  match schema with
  | .obj _ => compileObject validator classification schema
  | _ => ⟨.error (.notAnObject schema.kindName), []⟩

def crashMessage (text : Option String) : String :=
  text.getD "validator panicked"

def failureMessage (message : String) : String :=
  "validator failure: " ++ message

def judge : CheckResult → Logged Evaluation
  | .verdict true _ => ⟨.satisfied, []⟩
  | .verdict false errors => ⟨.violated errors, []⟩
  | .failure message =>
    ⟨.failed (failureMessage message), [.validatorFailed (failureMessage message)]⟩
  | .crash text => ⟨.failed (crashMessage text), [.validatorCrashed (crashMessage text)]⟩

def evaluate (rule : Rule) (request : Request) : Logged Evaluation :=
  judge (rule.checker request.document)

def validate (rule : Rule) (request : Request) : Logged Bool :=
  let outcome := rule.evaluate request
  ⟨outcome.result.isSatisfied, outcome.events⟩

end Rule

end AccessRules
