import AccessRules.Attribute.Namespace
import AccessRules.CommandLine.Word

/-!
What a command line asks for. General options may stand before the verb or after it, and then the
later place counts; at one place no option may come twice.
-/

namespace AccessRules

inductive Verb where
  | check
  | attributes
  | rules
  | config
deriving DecidableEq

namespace Verb

def word : Verb → String
  | .check => "check"
  | .attributes => "attributes"
  | .rules => "rules"
  | .config => "config"

def all : List Verb := [.check, .attributes, .rules, .config]

def ofWord? (word : String) : Option Verb :=
  all.find? fun verb => verb.word == word

def needsRule : Verb → Bool
  | .check | .attributes => true
  | .rules | .config => false

end Verb

inductive OptionKey where
  | rules
  | project
  | strict
  | verbose
  | value (ns : Namespace)
  | now
  | selection
deriving DecidableEq

inductive OptionUse where
  /-- The option stands alone. -/
  | switch (key : OptionKey)
  | text (key : OptionKey)
  /-- The option takes a text that is not empty. -/
  | path (key : OptionKey)
  | version
  | help
deriving DecidableEq

structure OptionForm where
  long : String
  short : Option Char
  use : OptionUse
deriving DecidableEq

namespace OptionForm

def general : List OptionForm := [
  ⟨"rules", some 'r', .path .rules⟩,
  ⟨"project", some 'p', .path .project⟩,
  ⟨"strict", none, .switch .strict⟩,
  ⟨"verbose", some 'v', .switch .verbose⟩,
  ⟨"version", some 'V', .version⟩,
  ⟨"help", some 'h', .help⟩]

def ofVerb : Verb → List OptionForm
  | .check => [
      ⟨"subject", none, .text (.value .subject)⟩,
      ⟨"object", none, .text (.value .object)⟩,
      ⟨"environment", none, .text (.value .environment)⟩,
      ⟨"now", none, .switch .now⟩]
  | .attributes => [⟨"namespace", some 'n', .text .selection⟩]
  | .rules | .config => []

def long? (forms : List OptionForm) (name : String) : Option OptionUse :=
  (forms.find? fun form => form.long == name).map (·.use)

def short? (forms : List OptionForm) (letter : Char) : Option OptionUse :=
  (forms.find? fun form => form.short == some letter).map (·.use)

end OptionForm

inductive Ending where
  | misuse
  | version (verb : Option Verb)
  | help (verb : Option Verb)
deriving DecidableEq

/-- What is given on a command line, before the verb or after it: the options with their values, and
the plain words. An option whose value is a word of its own is left unsettled until the next
option. -/
structure Given where
  options : List (OptionKey × String)
  words : List String
  unsettled : Option (OptionUse × String)

namespace Given

def nothing : Given := ⟨[], [], none⟩

def value? (given : Given) (key : OptionKey) : Option String :=
  (given.options.find? fun option => option.1 == key).map (·.2)

def has (given : Given) (key : OptionKey) : Bool :=
  (given.value? key).isSome

def withOption (given : Given) (key : OptionKey) (value : String) : Except Ending Given :=
  if given.has key then .error .misuse
  else .ok { given with options := given.options ++ [(key, value)] }

def withValue (given : Given) (value : String) : OptionUse → Except Ending Given
  | .text key => given.withOption key value
  | .path key => if value.isEmpty then .error .misuse else given.withOption key value
  | .switch _ | .version | .help => .error .misuse

def settled (given : Given) : Except Ending Given :=
  match given.unsettled with
  | some (use, value) => { given with unsettled := none }.withValue value use
  | none => .ok given

end Given

/-- One place of a command line: the verb it comes after, if any, and how many words it holds. -/
structure Place where
  verb : Option Verb
  capacity : Nat

inductive Progress where
  | done (given : Given)
  | awaiting (given : Given) (use : OptionUse)

namespace Place

def front : Place := ⟨none, 0⟩

def after (verb : Verb) : Place := ⟨some verb, if verb.needsRule then 1 else 0⟩

def forms (place : Place) : List OptionForm :=
  OptionForm.general ++ (place.verb.map OptionForm.ofVerb).getD []

def giveAlone (place : Place) (given : Given) : OptionUse → Except Ending Progress
  | .switch key => (given.withOption key "").map .done
  | .version => .error (.version place.verb)
  | .help => .error (.help place.verb)
  | use => .ok (.awaiting given use)

/-- Gives what a group of short options says. An option that takes a value takes the letters after
it, if there are any, without an equals sign in front. -/
def giveGroup (place : Place) (given : Given) : List Char → Except Ending Progress
  | [] => .ok (.done given)
  | letter :: rest =>
    match OptionForm.short? place.forms letter with
    | none => .error .misuse
    | some use =>
      match place.giveAlone given use with
      | .error e => .error e
      | .ok (.done given) => giveGroup place given rest
      | .ok (.awaiting given use) =>
        match rest with
        | [] => .ok (.awaiting given use)
        | '=' :: value => (given.withValue (String.ofList value) use).map .done
        | value => (given.withValue (String.ofList value) use).map .done

def give (place : Place) (given : Given) : Word → Except Ending Progress
  | .long name value =>
    match OptionForm.long? place.forms name, value with
    | none, _ => .error .misuse
    | some use, none => place.giveAlone given use
    | some use, some value => (given.withValue value use).map .done
  | .short letters => place.giveGroup given letters
  | .stop | .plain _ => .ok (.done given)

def withWords (place : Place) (given : Given) (words : List String) : Except Ending Given :=
  if given.words.length + words.length ≤ place.capacity then
    .ok { given with words := given.words ++ words }
  else .error .misuse

/-- Reads the words of a place. Before the verb a plain word ends the place, and what is left begins
with it; after the verb nothing is left. -/
def read (place : Place) (given : Given) : List String → Except Ending (Given × List String)
  | [] => .ok (given, [])
  | text :: rest =>
    match Word.ofText text, place.verb with
    | .stop, _ => (place.withWords given rest).map (·, [])
    | .plain _, none => .ok (given, text :: rest)
    | .plain word, some _ =>
      match place.withWords given [word] with
      | .ok given => read place given rest
      | .error e => .error e
    | word, _ =>
      match given.settled.bind fun given => place.give given word with
      | .error e => .error e
      | .ok (.done given) => read place given rest
      | .ok (.awaiting given use) =>
        match rest with
        | [] => .error .misuse
        | value :: rest =>
          match Word.valueOf? value with
          | none => .error .misuse
          | some value => read place { given with unsettled := some (use, value) } rest

end Place

inductive Command where
  /-- Decide a request, whose values are JSON texts; `now` lets the time stand in for an environment
  that is not given. -/
  | check (rule : String) (subject object environment : Option String) (now : Bool)
  | attributes (rule : String) (ns : Option String)
  | rules
  | config
deriving DecidableEq

structure Invocation where
  rules : Option String
  project : String
  strict : Bool
  verbose : Bool
  command : Command
deriving DecidableEq

namespace Invocation

def standardProject : String := "."

def commandOf (verb : Verb) (given : Given) : Except Ending Command :=
  match verb, given.words with
  | .check, [rule] => .ok (.check rule (given.value? (.value .subject))
      (given.value? (.value .object)) (given.value? (.value .environment)) (given.has .now))
  | .attributes, [rule] => .ok (.attributes rule (given.value? .selection))
  | .rules, _ => .ok .rules
  | .config, _ => .ok .config
  | _, _ => .error .misuse

def ofGiven (before : Given) (verb : Verb) (given : Given) : Except Ending Invocation :=
  let value? (key : OptionKey) := (given.value? key).or (before.value? key)
  (commandOf verb given).map fun command =>
    { rules := value? .rules
      project := (value? .project).getD standardProject
      strict := (value? .strict).isSome
      verbose := (value? .verbose).isSome
      command := command }

def helpWord : String := "help"

def ofHelp : List String → Ending
  | [] => .help none
  | [word] => match Verb.ofWord? word with
    | some verb => .help (some verb)
    | none => if word = helpWord then .help none else .misuse
  | _ => .misuse

/-- The invocation that a list of arguments spells. An option before the verb that is not settled
there is settled after everything behind the verb is read, so that a question for the version comes
first. -/
def ofArguments (arguments : List String) : Except Ending Invocation :=
  match Place.front.read .nothing arguments with
  | .error e => .error e
  | .ok (_, []) => .error .misuse
  | .ok (before, word :: rest) =>
    match Verb.ofWord? word with
    | some verb =>
      match (Place.after verb).read .nothing rest with
      | .error e => .error e
      | .ok (given, _) => do ofGiven (← before.settled) verb (← given.settled)
    | none => .error (if word = helpWord then ofHelp rest else .misuse)

end Invocation

end AccessRules
