import AccessRules.Rule.Compiled

/-!
A decision about a request: allowed or denied, under which rule, and why.
-/

namespace AccessRules

inductive Effect where
  | allow
  | deny
deriving DecidableEq

namespace Effect

def key : Effect → String
  | .allow => "Allow"
  | .deny => "Deny"

def all : List Effect := [.allow, .deny]

def ofKey? (text : String) : Option Effect :=
  all.find? fun e => e.key == text

end Effect

inductive Reason where
  | granted
  | denied (errors : List String)
  | unknownRule
  | invalidRule (error : String)
  | validatorFailure (message : String)
deriving DecidableEq

def Reason.text : Reason → String
  | .granted => "request satisfies rule"
  | .denied [] => "request violates rule"
  | .denied errors => "request violates rule: " ++ "; ".intercalate errors
  | .unknownRule => "no such rule"
  | .invalidRule error => "rule is invalid: " ++ error
  | .validatorFailure message => "validator failure: " ++ message

structure Decision where
  effect : Effect
  rule : String
  reason : Reason
deriving DecidableEq

namespace Decision

def isAllowed (decision : Decision) : Bool :=
  decision.effect == .allow

def ofEvaluation (rule : String) : Evaluation → Decision
  | .satisfied => ⟨.allow, rule, .granted⟩
  | .violated errors => ⟨.deny, rule, .denied errors⟩
  | .failed message => ⟨.deny, rule, .validatorFailure message⟩

def auditEvent (decision : Decision) : Event :=
  match decision.effect with
  | .allow => .accessGranted decision.rule
  | .deny => .accessDenied decision.rule decision.reason.text

end Decision

end AccessRules
