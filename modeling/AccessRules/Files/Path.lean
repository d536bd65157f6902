/-!
Paths as text. Nothing is normalised: joining only decides whether a slash is needed.
-/

namespace AccessRules

namespace Path

def isAbsolute (path : String) : Bool :=
  path.toList.head? == some '/'

/-- A path seen from a base. An absolute path stands alone. -/
def join (base path : String) : String :=
  if isAbsolute path || base.isEmpty then path
  else if base.toList.getLast? == some '/' then base ++ path
  else base ++ "/" ++ path

theorem join_of_isAbsolute {path : String} (absolute : isAbsolute path = true) (base : String) :
    join base path = path := by
  simp [join, absolute]

def parts (path : String) : List String :=
  (path.toList.splitOn '/').map String.ofList

end Path

end AccessRules
