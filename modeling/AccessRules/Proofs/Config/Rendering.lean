import AccessRules.Proofs.Config.Variables
import AccessRules.Proofs.Text.Utf8
import AccessRules.Proofs.Toml.Documents

/-!
The configuration as it is shown. Its text is a document of lines, which is read as the settings
that the configuration consists of; laid over any others they describe the configuration again. So a
project whose file is that text loads what was shown, whatever characters the path has.
-/

namespace AccessRules

namespace Setting

theorem get?_ontoEntries_last {entries : Settings} {name : String} {below : List Setting}
    {value : Setting} (plain : ∀ entries, value ≠ .table entries)
    (given : entries.valuesOf name = below ++ [value]) (under : Settings) :
    Settings.get? (ontoEntries under entries) name = some value := by
  rw [get?_ontoEntries, given, ontoAll, List.foldl_append, List.foldl_cons, List.foldl_nil,
    onto_of_plain plain]

end Setting

namespace Configuration

open Toml (BareName Line)

def engineEntries (options : EngineOptions) : Settings :=
  [("classification", .text options.classification.key), ("audit", .bool options.audit)]

def rulesEntries (rulesFile : String) : Settings := [("file", .text rulesFile)]

def settings (configuration : Configuration) : Settings :=
  [("engine", .table (engineEntries configuration.options)),
    ("rules", .table (rulesEntries configuration.rulesFile))]

section Reading

def engineName : BareName := ⟨"engine", by decide, by decide⟩

def classificationName : BareName := ⟨"classification", by decide, by decide⟩

def auditName : BareName := ⟨"audit", by decide, by decide⟩

def rulesName : BareName := ⟨"rules", by decide, by decide⟩

def fileName : BareName := ⟨"file", by decide, by decide⟩

def textLine (name : BareName) (s : String) : Line :=
  .pair name (Toml.Text.encode s.toList) (.text s) (by simpa using Toml.readsAs_encode s.toList)

def lines (configuration : Configuration) : List Line := [
  .header engineName,
  textLine classificationName configuration.options.classification.key,
  .pair auditName _ _ (Toml.readsAs_bool configuration.options.audit),
  .blank,
  .header rulesName,
  textLine fileName configuration.rulesFile]

theorem toml_eq_lines (configuration : Configuration) :
    configuration.toml = String.ofList (configuration.lines.flatMap Line.text) := by
  have upToClassification : "[engine]\nclassification = ".toList =
      (Line.header engineName).text ++ (classificationName.chars ++ [' ', '=', ' ']) := by
    decide +kernel
  have upToAudit : "\naudit = ".toList = '\n' :: (auditName.chars ++ [' ', '=', ' ']) := by
    decide +kernel
  have upToFile : "\n\n[rules]\nfile = ".toList =
      '\n' :: (Line.blank.text ++ ((Line.header rulesName).text ++
        (fileName.chars ++ [' ', '=', ' ']))) := by
    decide +kernel
  have lineEnd : "\n".toList = ['\n'] := by decide
  apply String.toList_injective
  unfold toml toml.quote
  rw [String.toList_append, String.toList_append, String.toList_append, String.toList_append,
    String.toList_append, String.toList_append, upToClassification, upToAudit, upToFile, lineEnd,
    String.toList_ofList, String.toList_ofList, String.toList_ofList]
  simp [lines, textLine, Line.text]

theorem ofText?_toml (configuration : Configuration) :
    Toml.ofText? configuration.toml = some configuration.settings := by
  rw [toml_eq_lines, Toml.ofText?_lines]
  rfl

theorem settingsOf?_toml (configuration : Configuration) :
    Loader.settingsOf? configuration.toml.toByteArray = some configuration.settings := by
  have unmarked : Toml.skipMark configuration.toml.toList = configuration.toml.toList := by
    rw [toml_eq_lines, String.toList_ofList, Toml.skipMark_lines]
  rw [settingsOf?_toByteArray, settingsIn?, Utf8.text_toByteArray, unmarked, String.ofList_toList,
    ofText?_toml]

end Reading

section Laying

theorem get?_engine_overlay_settings (configuration : Configuration) (under : Settings) :
    Settings.get? (under.overlay configuration.settings) "engine" =
      some (.table (Setting.ontoEntries (Setting.entriesOf (under.get? "engine"))
        (engineEntries configuration.options))) := by
  rw [Settings.get?_overlay]
  rfl

theorem get?_rules_overlay_settings (configuration : Configuration) (under : Settings) :
    Settings.get? (under.overlay configuration.settings) "rules" =
      some (.table (Setting.ontoEntries (Setting.entriesOf (under.get? "rules"))
        (rulesEntries configuration.rulesFile))) := by
  rw [Settings.get?_overlay]
  rfl

theorem classification?_key (classification : Classification) :
    classification? (.text classification.key) = some classification := by
  cases classification <;> rfl

theorem ofSettings?_overlay_settings (configuration : Configuration) (under : Settings) :
    ofSettings? (under.overlay configuration.settings) = some configuration := by
  obtain ⟨options, rulesFile⟩ := configuration
  have classification : (engineEntries options).valuesOf "classification" =
      [] ++ [.text options.classification.key] := rfl
  have audit : (engineEntries options).valuesOf "audit" = [] ++ [.bool options.audit] := rfl
  have file : (rulesEntries rulesFile).valuesOf "file" = [] ++ [.text rulesFile] := rfl
  rw [ofSettings?_tables (get?_engine_overlay_settings _ under)
      (get?_rules_overlay_settings _ under),
    options?_table (Setting.get?_ontoEntries_last (by simp) classification _)
      (Setting.get?_ontoEntries_last (by simp) audit _),
    rulesFile?_table (Setting.get?_ontoEntries_last (by simp) file _)]
  exact ⟨⟨classification?_key _, rfl⟩, rfl⟩

end Laying

/-- Showing a configuration loses nothing. -/
theorem toml_injective {configuration other : Configuration}
    (same : configuration.toml = other.toml) : configuration = other := by
  have settings : configuration.settings = other.settings := by
    have read := configuration.ofText?_toml
    rw [same, ofText?_toml] at read
    exact (Option.some.inj read).symm
  have described := configuration.ofSettings?_overlay_settings []
  rw [settings, ofSettings?_overlay_settings] at described
  exact (Option.some.inj described).symm

end Configuration

namespace Variables

theorem after?_eq_some_iff (front s rest : List Char) :
    after? front s = some rest ↔ s = front ++ rest := by
  induction front generalizing s with
  | nil => simp [after?]
  | cons c front ih =>
    cases s with
    | nil => simp [after?]
    | cons d s => by_cases same : c = d <;> simp [after?, same, ih, eq_comm]

theorem keyOf?_eq_none_iff (word name : String) :
    keyOf? word name = none ↔ ¬ lowerCase (word ++ "_").toList <+: lowerCase name.toList := by
  rw [keyOf?, Option.map_eq_none_iff, Option.eq_none_iff_forall_ne_some, List.IsPrefix, not_exists]
  refine forall_congr' fun rest => not_congr ?_
  rw [after?_eq_some_iff]
  exact eq_comm

theorem settings_eq_nil {word : String} {environment : Variables}
    (foreign : ∀ entry ∈ environment, keyOf? word entry.1 = none) :
    settings word environment = [] := by
  induction environment with
  | nil => rfl
  | cons entry rest ih =>
    rw [settings, foreign entry List.mem_cons_self]
    exact ih fun entry later => foreign entry (List.mem_cons_of_mem _ later)

end Variables

namespace FileState

theorem readable_of_absent {state : FileState} (absent : state.isFile = false) :
    ¬ state.Unreadable := by
  rintro ⟨present, -⟩
  cases absent.symm.trans present

theorem readable_of_read {state : FileState} {settings : Settings}
    (read : state.settings? = some settings) :
    ¬ state.Unreadable ∧ state.settings = settings := by
  constructor
  · rintro ⟨-, unread⟩
    cases read.symm.trans unread
  · rw [FileState.settings, read, Option.getD_some]

end FileState

def Surroundings.variableNames (surroundings : Surroundings) : List String :=
  surroundings.environment.map (·.1) ++ surroundings.illegible

namespace Loader

theorem forall_files_iff (loader : Loader) (holds : String → Prop) :
    (∀ file ∈ loader.files, holds file.2) ↔
      (∀ directory, loader.userDirectory = some directory →
        holds (ConfigFiles.userFile directory)) ∧
      holds (ConfigFiles.projectFile loader.projectDirectory) ∧
      holds (ConfigFiles.localFile loader.projectDirectory) := by
  rw [files]
  cases loader.userDirectory <;> simp

variable {loader : Loader} {surroundings : Surroundings} {configuration : Configuration}

theorem load_toml
    (written : surroundings.look (ConfigFiles.projectFile loader.projectDirectory) =
      .regular configuration.toml.toByteArray)
    (above : (surroundings.look (ConfigFiles.localFile loader.projectDirectory)).isFile = false)
    (below : ∀ directory, loader.userDirectory = some directory →
      ¬ (surroundings.look (ConfigFiles.userFile directory)).Unreadable)
    (foreign : ∀ name ∈ surroundings.variableNames,
      Variables.keyOf? loader.variableWord name = none) :
    loader.load surroundings = .ok (configuration.resolve loader.projectDirectory) := by
  have read : (FileState.regular configuration.toml.toByteArray).settings? =
      some configuration.settings := configuration.settingsOf?_toml
  obtain ⟨projectReadable, project⟩ := FileState.readable_of_read read
  have files : ∀ file ∈ loader.files, ¬ (surroundings.look file.2).Unreadable := by
    rw [loader.forall_files_iff fun path => ¬ (surroundings.look path).Unreadable, written]
    exact ⟨below, projectReadable, FileState.readable_of_absent above⟩
  have legible : ¬ surroundings.Illegible loader.variableWord := by
    rintro ⟨name, listed, key, under⟩
    cases (foreign name (List.mem_append_right _ listed)).symm.trans under
  have silent : Variables.settings loader.variableWord surroundings.environment = [] :=
    Variables.settings_eq_nil fun entry listed =>
      foreign entry.1 (List.mem_append_left _ (List.mem_map_of_mem listed))
  rw [load_of_readable ⟨files, legible⟩, layers, written, project,
    FileState.settings_of_absent above, silent]
  simp only [Settings.overlayAll, List.foldl_cons, List.foldl_nil, Settings.overlay,
    Configuration.ofSettings?_overlay_settings]

end Loader

theorem Invocation.run_config {invocation : Invocation} {surroundings : Surroundings}
    {configuration : Configuration} (command : invocation.command = .config)
    (loaded : invocation.configuration surroundings = .ok configuration) (time : Timestamp) :
    invocation.run surroundings time = ⟨0, configuration.toml, "", []⟩ := by
  have shown : invocation.outcome surroundings time = .ok ⟨0, configuration.toml, "", []⟩ := by
    rw [outcome, loaded, command]
    rfl
  rw [run, shown]
  rfl

/-- The rendering of a configuration whose path is absolute, as the file of any project, loads as
that configuration, whatever characters the path has: no local file and no variable lies above it,
and what the user has set below it counts for nothing. Showing what is loaded writes the same text
again. -/
theorem rendered_configuration_loads_back (loader : Loader) (surroundings : Surroundings)
    (configuration : Configuration) (absolute : Path.isAbsolute configuration.rulesFile = true)
    (written : surroundings.look (ConfigFiles.projectFile loader.projectDirectory) =
      .regular configuration.toml.toByteArray)
    (above : (surroundings.look (ConfigFiles.localFile loader.projectDirectory)).isFile = false)
    (below : ∀ directory, loader.userDirectory = some directory →
      ¬ (surroundings.look (ConfigFiles.userFile directory)).Unreadable)
    (foreign : ∀ name ∈ surroundings.variableNames,
      ¬ lowerCase (loader.variableWord ++ "_").toList <+: lowerCase name.toList) :
    loader.load surroundings = .ok configuration ∧
      ∀ (invocation : Invocation) (time : Timestamp), invocation.loader surroundings = loader →
        invocation.command = .config → invocation.rules = none → invocation.strict = false →
        invocation.run surroundings time = ⟨0, configuration.toml, "", []⟩ := by
  have seen : configuration.resolve loader.projectDirectory = configuration := by
    rw [Configuration.resolve, Path.join_of_isAbsolute absolute]
  have loaded : loader.load surroundings = .ok configuration := by
    have silent := fun name listed =>
      (Variables.keyOf?_eq_none_iff loader.variableWord _).mpr (foreign name listed)
    rw [Loader.load_toml written above below silent, seen]
  refine ⟨loaded, fun invocation time same command rules strict => ?_⟩
  apply Invocation.run_config command
  rw [Invocation.configuration, same, loaded]
  simp [rules, strict]

/-- A configuration whose path only a basic string on several lines can spell plainly. -/
def oddlyNamed : Configuration := ⟨⟨.firstSegment, true⟩, "/it's \"\\\n\r\x01é/rules.json"⟩

def oddlyNamedProject : Surroundings where
  workingDirectory := "/"
  environment := [("HOME", "/root"), ("PATH", "/bin")]
  illegible := ["OLDPWD"]
  accountHome := none
  look := FileTree.look ⟨[(["srv", "warden.toml"], oddlyNamed.toml.toByteArray),
    (["root", ".config", "warden", "config.toml"], "[engine]\naudit = false\n".toByteArray)],
    []⟩ "/"

theorem rendered_configuration_loads_back_oddly_named :
    let invocation : Invocation := ⟨none, "/srv", false, false, .config⟩
    (invocation.loader oddlyNamedProject).load oddlyNamedProject = .ok oddlyNamed ∧
      ∀ time, invocation.run oddlyNamedProject time = ⟨0, oddlyNamed.toml, "", []⟩ := by
  intro invocation
  have userDirectory : ConfigFiles.userDirectory? oddlyNamedProject =
      some "/root/.config/warden" := by
    decide +kernel
  have loader : invocation.loader oddlyNamedProject =
      ⟨"/srv", "WARDEN", some "/root/.config/warden"⟩ := by
    rw [Invocation.loader, Loader.new, userDirectory, Loader.withProject]
  have written : oddlyNamedProject.look (ConfigFiles.projectFile "/srv") =
      .regular oddlyNamed.toml.toByteArray := by
    rfl
  have absent : oddlyNamedProject.look (ConfigFiles.localFile "/srv") = .missing := by
    rfl
  have user : oddlyNamedProject.look (ConfigFiles.userFile "/root/.config/warden") =
      .regular "[engine]\naudit = false\n".toByteArray := by
    rfl
  have userRead : (settingsIn? "[engine]\naudit = false\n").isSome := by decide +kernel
  have below : ∀ directory, some "/root/.config/warden" = some directory →
      ¬ (oddlyNamedProject.look (ConfigFiles.userFile directory)).Unreadable := by
    rintro directory ⟨⟩ ⟨-, unread⟩
    rw [user, FileState.settings?_regular, settingsOf?_toByteArray] at unread
    rw [unread] at userRead
    cases userRead
  have facts := rendered_configuration_loads_back ⟨"/srv", "WARDEN", some "/root/.config/warden"⟩
    oddlyNamedProject oddlyNamed (by decide +kernel) written (by rw [absent]; rfl) below
    (by decide +kernel)
  rw [loader]
  exact ⟨facts.1, fun time => facts.2 invocation time loader rfl rfl rfl⟩

end AccessRules
