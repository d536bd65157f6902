import AccessRules.Attribute.Namespace

/-!
Attribute paths as text, and the two ways to tell which namespace a path belongs to.
-/

namespace AccessRules

/-- How a path is given to a namespace: to the first whose key occurs anywhere in the text, or to
the one that the first segment names. -/
inductive Classification where
  | substring
  | firstSegment
deriving DecidableEq

namespace Classification

def key : Classification → String
  | .substring => "substring"
  | .firstSegment => "first-segment"

def label : Classification → String
  | .substring => "Substring"
  | .firstSegment => "FirstSegment"

def all : List Classification := [.substring, .firstSegment]

def ofKey? (text : String) : Option Classification :=
  all.find? fun c => c.key == text

end Classification

namespace AttributePath

def ofChain (chain : List String) : String :=
  "/" ++ "/".intercalate chain

def occursIn (word : List Char) : List Char → Bool
  | [] => word.isEmpty
  | c :: rest => word.isPrefixOf (c :: rest) || occursIn word rest

/-- The text between the slashes in front and the next slash. -/
def firstSegment (path : List Char) : List Char :=
  (path.dropWhile (· == '/')).takeWhile (· != '/')

def namespaceWithin? (path : String) : Option Namespace :=
  Namespace.all.find? fun ns => occursIn ns.key.toList path.toList

def namespaceInFront? (path : String) : Option Namespace :=
  Namespace.ofKey? (String.ofList (firstSegment path.toList))

end AttributePath

inductive ExtractionError where
  | outsideNamespaces (path : String)
deriving DecidableEq

def ExtractionError.message : ExtractionError → String
  | .outsideNamespaces path =>
    "attribute path " ++ path ++ " is not under subject, object or environment"

/-- The namespace of a path. By substring there may be none; by first segment there must be one. -/
def Classification.classify (classification : Classification) (path : String) :
    Except ExtractionError (Option Namespace) :=
  match classification with
  | .substring => .ok (AttributePath.namespaceWithin? path)
  | .firstSegment =>
    match AttributePath.namespaceInFront? path with
    | some ns => .ok (some ns)
    | none => .error (.outsideNamespaces path)

end AccessRules
