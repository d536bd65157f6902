import AccessRules.Config.Setting
import AccessRules.Engine.Registry
import AccessRules.Exchange.Access
import AccessRules.Files.Path
import AccessRules.Toml.Text

/-!
The configuration: how an engine runs and where its rules are. It is read from settings, which are
taken generously (a truth value may be a word or a number, a path may be a number), and written as
TOML.
-/

namespace AccessRules

structure Configuration where
  options : EngineOptions
  rulesFile : String
deriving DecidableEq

namespace Configuration

def standardRulesFile : String := "rules.json"

def standard : Configuration := ⟨.standard, standardRulesFile⟩

def resolve (configuration : Configuration) (base : String) : Configuration :=
  { configuration with rulesFile := Path.join base configuration.rulesFile }

def standardSettings : Settings := [
  ("engine", .table [
    ("classification", .text EngineOptions.standard.classification.key),
    ("audit", .bool EngineOptions.standard.audit)]),
  ("rules", .table [("file", .text standardRulesFile)])]

/-- A truth value: also a number, which is true unless it is zero, and some words in any case. -/
def bool? : Setting → Option Bool
  | .bool b => some b
  | .integer i => some (i != 0)
  | .float x => some (!x.isZero)
  | .text s =>
    let word := String.ofList (s.toList.map Char.toLower)
    if word ∈ ["true", "yes", "on", "1"] then some true
    else if word ∈ ["false", "no", "off", "0"] then some false
    else none
  | .nothing | .list _ | .table _ => none

/-- A text: also a truth value or a number, as it is written. -/
def text? : Setting → Option String
  | .text s => some s
  | .bool b => some (if b then "true" else "false")
  | .integer i => some (toString i)
  | .float x => some x.text
  | .nothing | .list _ | .table _ => none

/-- A classification: its name, or a table with that one name. -/
def classification? : Setting → Option Classification
  | .text s => Classification.ofKey? s
  | .table [(name, _)] => Classification.ofKey? name
  | _ => none

/-- The settings of a record's fields: by name in a table, in order in a list. -/
def fields? (names : List String) : Setting → Option (List (Option Setting))
  | .table entries => some (names.map (Settings.get? entries))
  | .list items => some ((List.range names.length).map fun i => items[i]?)
  | _ => none

def fieldOr {α : Type} (absent : α) (read : Setting → Option α) : Option Setting → Option α
  | some setting => read setting
  | none => some absent

def options? (setting : Setting) : Option EngineOptions := do
  match ← fields? ["classification", "audit"] setting with
  | [classification, audit] =>
    return ⟨← fieldOr EngineOptions.standard.classification classification? classification,
      ← fieldOr EngineOptions.standard.audit bool? audit⟩
  | _ => none

def rulesFile? (setting : Setting) : Option String := do
  match ← fields? ["file"] setting with
  | [file] => fieldOr standardRulesFile text? file
  | _ => none

/-- The configuration that settings describe. Unknown names are passed over. -/
def ofSettings? (settings : Settings) : Option Configuration := do
  let options ← fieldOr EngineOptions.standard options? (Settings.get? settings "engine")
  let rulesFile ← fieldOr standardRulesFile rulesFile? (Settings.get? settings "rules")
  return ⟨options, rulesFile⟩

def toml (configuration : Configuration) : String :=
  "[engine]\nclassification = " ++ quote configuration.options.classification.key ++
    "\naudit = " ++ (if configuration.options.audit then "true" else "false") ++
    "\n\n[rules]\nfile = " ++ quote configuration.rulesFile ++ "\n"
where
  quote (s : String) : String := String.ofList (Toml.Text.encode s.toList)

def toJson (configuration : Configuration) : Json :=
  .obj [("engine", configuration.options.toJson),
    ("rules", .obj [("file", .str configuration.rulesFile)])]

def rulesOfSource? (source : Source) : Option String := do
  match ← source.record? ["file"] with
  | [file] => Source.fieldOr (some standardRulesFile) Source.string? file
  | _ => none

def ofSource? (source : Source) : Option Configuration := do
  match ← source.record? ["engine", "rules"] with
  | [engine, rules] =>
    return ⟨← Source.fieldOr (some EngineOptions.standard) EngineOptions.ofSource? engine,
      ← Source.fieldOr (some standardRulesFile) rulesOfSource? rules⟩
  | _ => none

end Configuration

end AccessRules
