import AccessRules.Attribute.Path

/-!
The log: what is recorded when rules are compiled and requests decided, and how an event reads.
-/

namespace AccessRules

inductive Event where
  | pathDropped (path : String)
  | ruleCompiled (attributes : Nat) (classification : Classification)
  | ruleRegistered (rule : String) (attributes : Nat)
  | ruleInvalid (rule error : String)
  | validatorFailed (error : String)
  | validatorCrashed (message : String)
  | accessGranted (rule : String)
  | accessDenied (rule reason : String)
deriving DecidableEq

namespace Event

def isDetail : Event → Bool
  | .pathDropped _ | .ruleCompiled .. => true
  | _ => false

def text : Event → String
  | .pathDropped path => "DEBUG attribute path outside every namespace, dropped path=" ++ path
  | .ruleCompiled attributes classification =>
    "DEBUG rule compiled attributes=" ++ toString attributes ++ " classification=" ++
      classification.label
  | .ruleRegistered rule attributes =>
    "INFO rule registered rule=" ++ rule ++ " attributes=" ++ toString attributes
  | .ruleInvalid rule error =>
    "ERROR rule failed to compile, marked invalid rule=" ++ rule ++ " error=" ++ error
  | .validatorFailed error => "WARN validator failed, denying error=" ++ error
  | .validatorCrashed message => "WARN validator panicked, denying message=" ++ message
  | .accessGranted rule => "INFO access granted rule=" ++ rule
  | .accessDenied rule reason => "WARN access denied rule=" ++ rule ++ " reason=" ++ reason

end Event

/-- A result with the events that led to it, oldest first. -/
structure Logged (α : Type) where
  result : α
  events : List Event

end AccessRules
