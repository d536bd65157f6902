import AccessRules.Attribute.Path

/-!
The attribute paths that a rule needs, a list for each namespace.
-/

namespace AccessRules

structure Buckets where
  subject : List String
  object : List String
  environment : List String
deriving DecidableEq

namespace Buckets

def empty : Buckets := ⟨[], [], []⟩

def get (buckets : Buckets) : Namespace → List String
  | .subject => buckets.subject
  | .object => buckets.object
  | .environment => buckets.environment

def add (buckets : Buckets) (ns : Namespace) (path : String) : Buckets :=
  match ns with
  | .subject => { buckets with subject := buckets.subject ++ [path] }
  | .object => { buckets with object := buckets.object ++ [path] }
  | .environment => { buckets with environment := buckets.environment ++ [path] }

def all (buckets : Buckets) : List String :=
  buckets.subject ++ buckets.object ++ buckets.environment

def size (buckets : Buckets) : Nat :=
  buckets.subject.length + buckets.object.length + buckets.environment.length

def isEmpty (buckets : Buckets) : Bool :=
  buckets.size == 0

theorem length_all (buckets : Buckets) : buckets.all.length = buckets.size := by
  simp [all, size]
  omega

theorem get_add (buckets : Buckets) (ns other : Namespace) (path : String) :
    (buckets.add ns path).get other =
      if other = ns then buckets.get other ++ [path] else buckets.get other := by
  cases ns <;> cases other <;> simp [add, get]

end Buckets

end AccessRules
