import AccessRules.CommandLine.Invocation
import AccessRules.Config.Loader
import AccessRules.Config.RuleFile

/-!
Running a command: what is written and with which status the program ends. Status 0 of a check
means that the request is allowed; a denial and every failure end with status 1, and a command line
that asks for nothing known with status 2.
-/

namespace AccessRules

inductive Failure where
  | configuration (project : String)
  | ruleFile (error : RuleFileError)
  | notJson (ns : Namespace)
deriving DecidableEq

def Failure.message : Failure → String
  | .configuration project => "Failed to load configuration from " ++ project
  | .ruleFile error => error.message
  | .notJson ns => "--" ++ ns.key ++ " is not valid JSON"

structure Report where
  status : Nat
  output : String
  /-- What is written beside the output, without the log. -/
  notes : String
  events : List Event
deriving DecidableEq

namespace Report

def lines (texts : List String) (events : List Event) : Report :=
  ⟨0, String.join (texts.map (· ++ "\n")), "", events⟩

def failure (failure : Failure) : Report :=
  ⟨1, "", "Error: " ++ failure.message ++ "\n", []⟩

def decision (decision : Decision) (events : List Event) : Report :=
  if decision.isAllowed then ⟨0, "allow\n", "", events⟩
  else ⟨1, "deny\n", decision.reason.text ++ "\n", events⟩

end Report

namespace Invocation

def loader (invocation : Invocation) (surroundings : Surroundings) : Loader :=
  (Loader.new surroundings).withProject invocation.project

/-- The configuration of the project, with what the command line says above it. A rule file that the
command line names is not seen from the project. -/
def configuration (invocation : Invocation) (surroundings : Surroundings) :
    Except Failure Configuration :=
  match (invocation.loader surroundings).load surroundings with
  | .error _ => .error (.configuration invocation.project)
  | .ok loaded =>
    .ok { options := if invocation.strict
            then { loaded.options with classification := .firstSegment } else loaded.options
          rulesFile := invocation.rules.getD loaded.rulesFile }

def engineOf (configuration : Configuration) (surroundings : Surroundings) :
    Except Failure (Logged Engine) :=
  match RuleFile.load surroundings.look configuration.rulesFile with
  | .error e => .error (.ruleFile e)
  | .ok rules => .ok ((Engine.withOptions configuration.options).registerAll rules)

def valueOf (ns : Namespace) : Option String → Except Failure (Option Json)
  | none => .ok none
  | some text =>
    match Json.ofText? text with
    | some value => .ok (some value)
    | none => .error (.notJson ns)

/-- The request that a check describes. The environment is read first. -/
def requestOf (subject object environment : Option String) (now : Bool) (time : Timestamp) :
    Except Failure Request := do
  let environment ← valueOf .environment environment
  let subject ← valueOf .subject subject
  let object ← valueOf .object object
  return ⟨subject, object, environment.or (if now then some time.environment else none)⟩

def listing (name : String) : Entry → String
  | .compiled rule => name ++ "\tcompiled\t" ++ toString rule.attributes.size ++ " attributes"
  | .invalid e => name ++ "\tinvalid\t" ++ e.message

def answer (engine : Logged Engine) (time : Timestamp) : Command → Except Failure Report
  | .check rule subject object environment now => do
    let request ← requestOf subject object environment now time
    let decided := engine.result.evaluate rule request
    return .decision decided.result (engine.events ++ decided.events)
  | .attributes rule ns => .ok (.lines (engine.result.attributesList rule ns) engine.events)
  | .rules => .ok (.lines (engine.result.entries.map fun (name, entry) => listing name entry)
      engine.events)
  | .config => .ok (.lines [] engine.events)

/-- Runs a command; showing the configuration needs no rules. -/
def outcome (invocation : Invocation) (surroundings : Surroundings) (time : Timestamp) :
    Except Failure Report := do
  let configuration ← invocation.configuration surroundings
  match invocation.command with
  | .config => return ⟨0, configuration.toml, "", []⟩
  | command => answer (← engineOf configuration surroundings) time command

def run (invocation : Invocation) (surroundings : Surroundings) (time : Timestamp) : Report :=
  match invocation.outcome surroundings time with
  | .ok report =>
    { report with
      events := report.events.filter fun event => invocation.verbose || !event.isDetail }
  | .error failure => .failure failure

end Invocation

namespace Ending

def programName : Option Verb → String
  | none => "warden"
  | some verb => "warden-" ++ verb.word

def versionNumber : String := "0.1.0"

def usage : Option Verb → String
  | none => "Usage: warden [OPTIONS] <COMMAND>"
  | some .check => "Usage: warden check [OPTIONS] <RULE>"
  | some .attributes => "Usage: warden attributes [OPTIONS] <RULE>"
  | some .rules => "Usage: warden rules [OPTIONS]"
  | some .config => "Usage: warden config [OPTIONS]"

def report : Ending → Report
  | .misuse => ⟨2, "", usage none ++ "\n", []⟩
  | .version verb => .lines [programName verb ++ " " ++ versionNumber] []
  | .help verb => .lines [usage verb] []

end Ending

def Report.ofArguments (arguments : List String) (surroundings : Surroundings)
    (time : Timestamp) : Report :=
  match Invocation.ofArguments arguments with
  | .ok invocation => invocation.run surroundings time
  | .error ending => ending.report

end AccessRules
