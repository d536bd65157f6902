import AccessRules.Attribute.Buckets
import AccessRules.Schema.Shape

/-!
The attributes that a rule needs. A walk over the properties of a shape, depth first, records the
path of every leaf once, where it is first met. A combinator adds no step to the path, and of its
branches only those that are property containers are walked. The paths are then given to the
namespaces.
-/

namespace AccessRules

namespace Shape

def addPath (found : List String) (path : String) : List String :=
  if path ∈ found then found else found ++ [path]

mutual

/-- Walks a property container that stands at `chain`; other shapes add nothing. -/
def walk (chain : List String) (found : List String) : Shape → List String
  | .properties children => walkChildren chain found children
  | _ => found
termination_by structural shape => shape

def walkChildren (chain : List String) (found : List String) :
    List (String × Shape) → List String
  | [] => found
  | (key, child) :: rest =>
    walkChildren chain (walkChild (chain ++ [key]) found child) rest

/-- Walks a child that stands at `chain`. A leaf is an attribute. -/
def walkChild (chain : List String) (found : List String) : Shape → List String
  | .leaf => addPath found (AttributePath.ofChain chain)
  | .properties children => walkChildren chain found children
  | .anyOf branches => walkBranches chain found branches
  | .allOf branches => walkBranches chain found branches
  | .oneOf branches => walkBranches chain found branches
  | .negation branches => walkBranches chain found branches

def walkBranches (chain : List String) (found : List String) : List Shape → List String
  | [] => found
  | branch :: rest => walkBranches chain (walk chain found branch) rest

end

/-- The paths of all leaves below the root, each once, in the order of the walk. -/
def paths (shape : Shape) : List String :=
  walk [] [] shape

end Shape

structure Extraction where
  buckets : Buckets
  dropped : List String
deriving DecidableEq

namespace Extraction

def empty : Extraction := ⟨.empty, []⟩

/-- Gives the paths to their namespaces in order, up to the first that has to have one and has
none. -/
def ofPaths (classification : Classification) (soFar : Extraction) :
    List String → Except ExtractionError Extraction
  | [] => .ok soFar
  | path :: rest =>
    match classification.classify path with
    | .ok (some ns) =>
      ofPaths classification { soFar with buckets := soFar.buckets.add ns path } rest
    | .ok none => ofPaths classification { soFar with dropped := soFar.dropped ++ [path] } rest
    | .error e => .error e

def ofShape (shape : Shape) (classification : Classification) :
    Except ExtractionError Extraction :=
  ofPaths classification .empty shape.paths

end Extraction

end AccessRules
