import AccessRules.Attribute.Namespace
import AccessRules.Json.Equality

/-!
An access request: a value for each namespace, or nothing. A namespace that is left out is absent
from the request document, which is not the same as an empty object or a null.
-/

namespace AccessRules

structure Request where
  subject : Option Json
  object : Option Json
  environment : Option Json
deriving DecidableEq

namespace Request

def empty : Request := ⟨none, none, none⟩

def get (request : Request) : Namespace → Option Json
  | .subject => request.subject
  | .object => request.object
  | .environment => request.environment

def fieldsFor (request : Request) : List Namespace → Fields
  | [] => []
  | ns :: rest =>
    match request.get ns with
    | some value => (ns.key, value) :: fieldsFor request rest
    | none => fieldsFor request rest

def document (request : Request) : Json :=
  .obj (request.fieldsFor Namespace.all)

end Request

end AccessRules
