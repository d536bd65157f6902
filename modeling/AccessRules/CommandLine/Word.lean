/-!
The words of a command line. Two dashes begin a long option, which may carry a value after an equals
sign; one dash begins a group of short options; two dashes alone end the options. Every other word
is plain, a single dash and the empty word among them.
-/

namespace AccessRules

inductive Word where
  /-- No option comes after this one. -/
  | stop
  | long (name : String) (value : Option String)
  | short (letters : List Char)
  | plain (text : String)
deriving DecidableEq

namespace Word

/-- A long option without its dashes, cut at the first equals sign. -/
def ofLong (body : List Char) : Word :=
  let name := String.ofList (body.takeWhile (· != '='))
  match body.dropWhile (· != '=') with
  | [] => .long name none
  | _ :: value => .long name (some (String.ofList value))

def ofText (text : String) : Word :=
  match text.toList with
  | ['-', '-'] => .stop
  | '-' :: '-' :: body => ofLong body
  | ['-'] => .plain text
  | '-' :: letters => .short letters
  | _ => .plain text

def valueOf? (text : String) : Option String :=
  match ofText text with
  | .plain value => some value
  | _ => none

end Word

end AccessRules
