import AccessRules.Config.Configuration
import AccessRules.Config.Variables
import AccessRules.Files.Tree
import AccessRules.Text.Utf8
import AccessRules.Toml.Reader

/-!
Loading the configuration from its layers. The standard settings lie at the bottom, then the user's
file, the project's file, the project's local file and the environment variables. A file that is not
there is left out; one that is there must be readable, and so must be every variable under the word
of the program. Paths are texts here, and the variables that name directories are taken to hold
texts.
-/

namespace AccessRules

structure Surroundings where
  workingDirectory : String
  environment : Variables
  /-- The names of the variables that hold no text. -/
  illegible : List String := []
  accountHome : Option String
  look : String → FileState

inductive Layer where
  | user
  | project
  | checkout
deriving DecidableEq

def Layer.label : Layer → String
  | .user => "User"
  | .project => "Project"
  | .checkout => "Local"

inductive ConfigError where
  | build
  | fit
deriving DecidableEq

def ConfigError.message : ConfigError → String
  | .build => "Failed to build configuration"
  | .fit => "Failed to deserialize configuration"

namespace ConfigFiles

def projectFile (directory : String) : String := Path.join directory "warden.toml"

def localFile (directory : String) : String := Path.join directory "warden.local.toml"

/-- The user's home directory: a variable that is set and not empty, or that of the account. -/
def home? (surroundings : Surroundings) : Option String :=
  match surroundings.environment.get? "HOME" with
  | some home => if home.isEmpty then surroundings.accountHome else some home
  | none => surroundings.accountHome

def userDirectory? (surroundings : Surroundings) : Option String :=
  (home? surroundings).map fun home =>
    let base := match surroundings.environment.get? "XDG_CONFIG_HOME" with
      | some directory =>
        if Path.isAbsolute directory then directory else Path.join home ".config"
      | none => Path.join home ".config"
    Path.join base "warden"

def userFile (directory : String) : String := Path.join directory "config.toml"

end ConfigFiles

/-- Where to load from: the project, the word that begins the names of its variables, and the
directory of the user's file, if there is one. -/
structure Loader where
  projectDirectory : String
  variableWord : String
  userDirectory : Option String

namespace Loader

def new (surroundings : Surroundings) : Loader :=
  ⟨surroundings.workingDirectory, "WARDEN", ConfigFiles.userDirectory? surroundings⟩

def withProject (loader : Loader) (directory : String) : Loader :=
  { loader with projectDirectory := directory }

def withWord (loader : Loader) (word : String) : Loader :=
  { loader with variableWord := word }

def withUser (loader : Loader) (directory : String) : Loader :=
  { loader with userDirectory := some directory }

def withoutUser (loader : Loader) : Loader :=
  { loader with userDirectory := none }

def files (loader : Loader) : List (Layer × String) :=
  let user := match loader.userDirectory with
    | some directory => [(Layer.user, ConfigFiles.userFile directory)]
    | none => []
  user ++ [(.project, ConfigFiles.projectFile loader.projectDirectory),
    (.checkout, ConfigFiles.localFile loader.projectDirectory)]

/-- The settings of a file's content. Octets that are no text are replaced, and a mark of byte order
in front is not part of the document, which may begin with another one. -/
def settingsOf? (content : ByteArray) : Option Settings :=
  Toml.ofText? (String.ofList (Toml.skipMark (Utf8.text content.toList)))

def fileSettings (look : String → FileState) :
    List (Layer × String) → Except ConfigError (List Settings)
  | [] => .ok []
  | (_, path) :: rest =>
    if (look path).isFile then
      match (look path).content?.bind settingsOf? with
      | some settings => (fileSettings look rest).map (settings :: ·)
      | none => .error .build
    else fileSettings look rest

def variableSettings (loader : Loader) (surroundings : Surroundings) :
    Except ConfigError Settings :=
  if surroundings.illegible.any fun name =>
      (Variables.keyOf? loader.variableWord name).isSome then
    .error .build
  else .ok (Variables.settings loader.variableWord surroundings.environment)

def sources (loader : Loader) (surroundings : Surroundings) :
    Except ConfigError (List Settings) := do
  let filed ← fileSettings surroundings.look loader.files
  let named ← loader.variableSettings surroundings
  return filed ++ [named]

def load (loader : Loader) (surroundings : Surroundings) : Except ConfigError Configuration :=
  match loader.sources surroundings with
  | .error e => .error e
  | .ok sources =>
    match Configuration.ofSettings? (Configuration.standardSettings.overlayAll sources) with
    | some configuration => .ok (configuration.resolve loader.projectDirectory)
    | none => .error .fit

def loadOrStandard (loader : Loader) (surroundings : Surroundings) : Configuration :=
  match loader.load surroundings with
  | .ok configuration => configuration
  | .error _ => .standard

end Loader

end AccessRules
