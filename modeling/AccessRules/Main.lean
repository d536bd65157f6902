import AccessRules.CommandLine.Report
import Std.Time.DateTime.Timestamp

/-!
The program. It gathers the variables, the clock and the files that the command line leads to, and
writes the report.
-/

namespace AccessRules

namespace Program

def text? (octets : List UInt8) : Option String :=
  String.fromUTF8? ⟨octets.toArray⟩

/-- A variable whose name is a text, with its value if that is one too. -/
def assignment? (octets : List UInt8) : Option (String × Option String) :=
  match octets.splitOn 0x3d with
  | name :: value :: more =>
    (text? name).map fun name => (name, text? (List.intercalate [0x3d] (value :: more)))
  | _ => none

/-- The surroundings without files. Each assignment in the environment is ended by a zero byte. -/
def bare : IO Surroundings := do
  let listed ← IO.FS.readBinFile "/proc/self/environ"
  let assigned := (listed.toList.splitOn 0).filterMap assignment?
  return {
    workingDirectory := "."
    environment := assigned.filterMap fun (name, value) => value.map fun text => (name, text)
    illegible := (assigned.filter fun v => v.2.isNone).map (·.1)
    accountHome := none
    look := fun _ => .missing }

def find (path : String) : IO FileState := do
  try
    return .regular (← IO.FS.readBinFile path)
  catch
    | .noFileOrDirectory .. => return .missing
    | .inappropriateType _ code _ => return if code = 21 then .directory else .blocked
    | .permissionDenied _ code details =>
      return .withheld true (details ++ " (os error " ++ toString code ++ ")")
    | e => throw e

def withFiles (bare : Surroundings) (paths : List String) : IO Surroundings := do
  let found ← paths.mapM fun path => return (path, ← find path)
  return { bare with
    look := fun path => ((found.find? fun file => file.1 == path).map (·.2)).getD .missing }

/-- The surroundings with the files of the layers, and then with the rule file that they name. -/
def gather (arguments : List String) : IO Surroundings := do
  let bare ← bare
  match Invocation.ofArguments arguments with
  | .error _ => return bare
  | .ok invocation =>
    let layers := (invocation.loader bare).files.map (·.2)
    let withLayers ← withFiles bare layers
    match invocation.configuration withLayers with
    | .error _ => return withLayers
    | .ok configuration => withFiles bare (layers ++ [configuration.rulesFile])

def time : IO Timestamp := do
  let now ← Std.Time.Timestamp.now
  return (Timestamp.ofUnix? now.val.second.val now.val.nano.val.toNat).getD
    ⟨0, 0, by decide⟩

def run (arguments : List String) : IO UInt32 := do
  let report := Report.ofArguments arguments (← gather arguments) (← time)
  for event in report.events do
    IO.eprintln event.text
  IO.print report.output
  IO.eprint report.notes
  return report.status.toUInt32

end Program

end AccessRules

def main (arguments : List String) : IO UInt32 :=
  AccessRules.Program.run arguments
