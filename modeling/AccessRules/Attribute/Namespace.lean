import AccessRules.Text.Basic

/-!
The three namespaces that hold attributes: who asks, what is asked for, and the circumstances. Their
order here is the order of precedence wherever one of them has to be chosen.
-/

namespace AccessRules

inductive Namespace where
  | subject
  | object
  | environment
deriving DecidableEq

namespace Namespace

/-- All namespaces, in order of precedence. -/
def all : List Namespace := [.subject, .object, .environment]

def key : Namespace → String
  | .subject => "subject"
  | .object => "object"
  | .environment => "environment"

def ofKey? (text : String) : Option Namespace :=
  all.find? fun ns => ns.key == text

def unknownMessage (text : String) : String :=
  "unknown attribute namespace: " ++ String.ofList (Quoted.encode text.toList)

theorem mem_all (ns : Namespace) : ns ∈ all := by
  cases ns <;> decide

theorem ofKey?_key (ns : Namespace) : ofKey? ns.key = some ns := by
  cases ns <;> decide

theorem ofKey?_eq_some_iff (text : String) (ns : Namespace) :
    ofKey? text = some ns ↔ ns.key = text := by
  constructor
  · intro found
    have same := List.find?_some found
    exact beq_iff_eq.mp same
  · rintro rfl
    exact ofKey?_key ns

end Namespace

end AccessRules
