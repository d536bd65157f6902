import AccessRules.Config.Setting
import AccessRules.Text.LowerCase

/-!
Environment variables as a configuration source. A variable takes part when its name, read without
regard to case, begins with the program's word and an underscore; the other underscores separate the
names of a path. A value is a truth value, an integer, a floating-point number or a text, whichever
it can be read as first.
-/

namespace AccessRules

/-- Variables in the order in which they are laid over each other. The environment sets no such
order: what holds of the variables holds of every list of them. -/
abbrev Variables := List (String × String)

namespace Variables

def get? (environment : Variables) (name : String) : Option String :=
  (environment.find? fun v => v.1 == name).map (·.2)

def settingOf (value : String) : Setting :=
  let lower := value.toList.map Char.toLower
  if lower = ['t', 'r', 'u', 'e'] then .bool true
  else if lower = ['f', 'a', 'l', 's', 'e'] then .bool false
  else
    match integerOfChars? value.toList with
    | some i => .integer i
    | none =>
      match FloatValue.ofChars? value.toList with
      | some x => .float x
      | none => .text value

def after? : List Char → List Char → Option (List Char)
  | [], s => some s
  | c :: cs, d :: ds => if c = d then after? cs ds else none
  | _ :: _, [] => none

def keyOf? (word name : String) : Option String :=
  (after? (lowerCase (word ++ "_").toList) (lowerCase name.toList)).map fun rest =>
    String.ofList (rest.map fun c => if c = '_' then '.' else c)

def settings (word : String) : Variables → Settings
  | [] => []
  | (name, value) :: rest =>
    match keyOf? word name with
    | some key => (key, settingOf value) :: settings word rest
    | none => settings word rest

end Variables

end AccessRules
