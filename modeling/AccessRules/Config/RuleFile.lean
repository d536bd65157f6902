import AccessRules.Files.Tree
import AccessRules.Json.Reader

/-!
Rule files: a JSON object of rule names and schemas. The rules come in the order of the file; that a
schema is no rule is not found out here.
-/

namespace AccessRules

inductive ReadFault where
  | missing
  | directory
  | blocked
  | notText
  | withheld (reason : String)
deriving DecidableEq

def ReadFault.message : ReadFault → String
  | .missing => "No such file or directory (os error 2)"
  | .directory => "Is a directory (os error 21)"
  | .blocked => "Not a directory (os error 20)"
  | .notText => "stream did not contain valid UTF-8"
  | .withheld reason => reason

inductive RuleFileError where
  | unreadable (path : String) (fault : ReadFault)
  | notJson (path : String)
  | notAnObject (path : String)
deriving DecidableEq

/-- What is said first; of a text that is not JSON more could be said. -/
def RuleFileError.message : RuleFileError → String
  | .unreadable path fault => "Failed to read " ++ path ++ ": " ++ fault.message
  | .notJson path => "Failed to parse rule file at " ++ path
  | .notAnObject path =>
    "Rule file at " ++ path ++ " must be a JSON object of rule name to schema"

namespace RuleFile

def text (state : FileState) : Except ReadFault String :=
  match state with
  | .missing => .error .missing
  | .directory => .error .directory
  | .blocked => .error .blocked
  | .withheld _ reason => .error (.withheld reason)
  | .regular content =>
    match String.fromUTF8? content with
    | some text => .ok text
    | none => .error .notText

def ofText (path text : String) : Except RuleFileError (List (String × Json)) :=
  match Json.ofText? text with
  | none => .error (.notJson path)
  | some (.obj rules) => .ok rules
  | some _ => .error (.notAnObject path)

def load (look : String → FileState) (path : String) :
    Except RuleFileError (List (String × Json)) :=
  match text (look path) with
  | .error fault => .error (.unreadable path fault)
  | .ok text => ofText path text

end RuleFile

end AccessRules
