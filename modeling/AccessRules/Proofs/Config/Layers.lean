import Mathlib.Data.List.Induction
import AccessRules.CommandLine.Report
import AccessRules.Proofs.Config.Overlay
import AccessRules.Proofs.Text.Utf8

/-!
Which layer a setting comes from. Each of the three settings is decided by itself: by the highest
value that is given for it, unless that is a table, which is joined with what lies below; values
further below do not count, good or bad. The rule file is then seen from the project, and the
command line stands above all layers.
-/

namespace AccessRules

inductive Field where
  | classification
  | audit
  | file
deriving DecidableEq

namespace Field

def part : Field → String
  | .classification | .audit => "engine"
  | .file => "rules"

def name : Field → String
  | .classification => "classification"
  | .audit => "audit"
  | .file => "file"

def standard : Field → Setting
  | .classification => .text EngineOptions.standard.classification.key
  | .audit => .bool EngineOptions.standard.audit
  | .file => .text Configuration.standardRulesFile

end Field

namespace Settings

/-- A source reaches into the parts by names alone and puts nothing in the place of a part. -/
def FieldWise (source : Settings) : Prop :=
  ∀ field : Field, source.Tabular field.part

instance (source : Settings) : Decidable source.FieldWise :=
  decidable_of_iff (source.Tabular "engine" ∧ source.Tabular "rules")
    ⟨fun tabular field => by cases field <;> simp [Field.part, tabular],
      fun fieldWise => ⟨fieldWise .audit, fieldWise .file⟩⟩

def given (source : Settings) (field : Field) : List Setting :=
  (source.entriesIn field.part).valuesOf field.name

theorem valuesOf_flatMap (sources : List Settings) (field : Field) :
    valuesOf (sources.flatMap (·.entriesIn field.part)) field.name =
      sources.flatMap (·.given field) := by
  induction sources with
  | nil => rfl
  | cons source rest ih => simp [ih, given]

end Settings

namespace Setting

/-- What values, given one above the other, settle. A table is joined with what the values below it
settle; any other value counts by itself. -/
inductive Settles (standard : Setting) : List Setting → Setting → Prop where
  | standard : Settles standard [] standard
  | plain {below : List Setting} {value : Setting} (plain : ∀ entries, value ≠ .table entries) :
      Settles standard (below ++ [value]) value
  | joined {below : List Setting} {under : Setting} {entries : Settings}
      (settled : Settles standard below under) :
      Settles standard (below ++ [.table entries]) (onto (some under) (.table entries))

theorem onto_of_plain {value : Setting} (plain : ∀ entries, value ≠ .table entries)
    (under : Option Setting) : onto under value = value := by
  cases value with
  | table entries => exact absurd rfl (plain entries)
  | nothing | bool | integer | float | text | list => rfl

theorem Settles.laid {standard settled : Setting} {values : List Setting}
    (settles : Settles standard values settled) :
    ontoAll (some standard) values = some settled := by
  have onTop (below : List Setting) (value : Setting) :
      ontoAll (some standard) (below ++ [value]) =
        some (onto (ontoAll (some standard) below) value) := by
    rw [ontoAll, List.foldl_append, List.foldl_cons, List.foldl_nil, ontoAll]
  induction settles with
  | standard => rfl
  | plain plain => rw [onTop, onto_of_plain plain]
  | joined settled ih => rw [onTop, ih]

theorem exists_settles (standard : Setting) (values : List Setting) :
    ∃ settled, Settles standard values settled := by
  induction values using List.reverseRecOn with
  | nil => exact ⟨standard, .standard⟩
  | append_singleton below value ih =>
    obtain ⟨under, settles⟩ := ih
    cases value with
    | table entries => exact ⟨_, .joined settles⟩
    | nothing | bool | integer | float | text | list => exact ⟨_, .plain (by simp)⟩

end Setting

namespace Configuration

theorem options?_table {entries : Settings} {classification audit : Setting}
    (classificationHeld : entries.get? "classification" = some classification)
    (auditHeld : entries.get? "audit" = some audit) (options : EngineOptions) :
    options? (.table entries) = some options ↔
      classification? classification = some options.classification ∧
        bool? audit = some options.audit := by
  obtain ⟨wantedClassification, wantedAudit⟩ := options
  cases readClassification : classification? classification <;>
    cases readAudit : bool? audit <;>
      simp [options?, fields?, fieldOr, classificationHeld, auditHeld, readClassification,
        readAudit]

theorem rulesFile?_table {entries : Settings} {file : Setting}
    (held : entries.get? "file" = some file) : rulesFile? (.table entries) = text? file := by
  simp [rulesFile?, fields?, fieldOr, held]

theorem ofSettings?_tables {settings engine rules : Settings}
    (engineHeld : settings.get? "engine" = some (.table engine))
    (rulesHeld : settings.get? "rules" = some (.table rules)) (configuration : Configuration) :
    ofSettings? settings = some configuration ↔
      options? (.table engine) = some configuration.options ∧
        rulesFile? (.table rules) = some configuration.rulesFile := by
  obtain ⟨options, rulesFile⟩ := configuration
  simp [ofSettings?, fieldOr, engineHeld, rulesHeld, Option.bind_eq_some_iff]

structure Reads (winner : Field → Setting) (configuration : Configuration) : Prop where
  classification :
    classification? (winner .classification) = some configuration.options.classification
  audit : bool? (winner .audit) = some configuration.options.audit
  file : text? (winner .file) = some configuration.rulesFile

theorem ofSettings?_overlayAll {sources : List Settings}
    (fieldWise : ∀ source ∈ sources, source.FieldWise) : ∃ winner : Field → Setting,
      (∀ field, Setting.Settles field.standard (sources.flatMap (·.given field)) (winner field)) ∧
      ∀ configuration, ofSettings? (standardSettings.overlayAll sources) = some configuration ↔
        Reads winner configuration := by
  choose winner settled using fun field : Field =>
    Setting.exists_settles field.standard (sources.flatMap (·.given field))
  refine ⟨winner, settled, fun configuration => ?_⟩
  have tabular (field : Field) : ∀ source ∈ sources, source.Tabular field.part :=
    fun source listed => fieldWise source listed field
  have engineStandard : standardSettings.get? "engine" = some (.table _) := rfl
  have rulesStandard : standardSettings.get? "rules" = some (.table _) := rfl
  have engineHeld := Settings.get?_overlayAll_tabular (tabular .classification) engineStandard
  have rulesHeld := Settings.get?_overlayAll_tabular (tabular .file) rulesStandard
  have held (field : Field) (under : Settings)
      (bottom : under.get? field.name = some field.standard) :
      Settings.get? (Setting.ontoEntries under (sources.flatMap (·.entriesIn field.part)))
        field.name = some (winner field) := by
    rw [Setting.get?_ontoEntries, bottom, Settings.valuesOf_flatMap, (settled field).laid]
  rw [ofSettings?_tables engineHeld rulesHeld,
    options?_table (held .classification _ rfl) (held .audit _ rfl),
    rulesFile?_table (held .file _ rfl)]
  constructor
  · rintro ⟨⟨classification, audit⟩, file⟩
    exact ⟨classification, audit, file⟩
  · rintro ⟨classification, audit, file⟩
    exact ⟨⟨classification, audit⟩, file⟩

end Configuration

namespace FileState

/-- The settings that the content of a file holds. -/
def settings? (state : FileState) : Option Settings :=
  state.content?.bind Loader.settingsOf?

/-- A file is there that gives no settings: it cannot be read, or what it holds is none. -/
def Unreadable (state : FileState) : Prop :=
  state.isFile = true ∧ state.settings? = none

def settings (state : FileState) : Settings :=
  state.settings?.getD []

theorem settings_of_absent {state : FileState} (absent : state.isFile = false) :
    state.settings = [] := by
  cases state with
  | regular content => cases absent
  | missing | directory | blocked | withheld => rfl

@[simp] theorem settings?_regular (content : ByteArray) :
    (regular content).settings? = Loader.settingsOf? content := rfl

end FileState

/-- A variable under the word holds no text. -/
def Surroundings.Illegible (surroundings : Surroundings) (word : String) : Prop :=
  ∃ name ∈ surroundings.illegible, ∃ key, Variables.keyOf? word name = some key

namespace Loader

theorem fileSettings_eq_error_iff (look : String → FileState) (files : List (Layer × String))
    (error : ConfigError) : fileSettings look files = .error error ↔
      error = .build ∧ ∃ file ∈ files, (look file.2).Unreadable := by
  induction files with
  | nil => simp [fileSettings]
  | cons file rest ih =>
    obtain ⟨layer, path⟩ := file
    cases isFile : (look path).isFile with
    | false =>
      have passed : ¬ (look path).Unreadable := by simp [FileState.Unreadable, isFile]
      simp [fileSettings, isFile, ih, passed]
    | true =>
      cases read : (look path).content?.bind settingsOf? with
      | none =>
        have here : (look path).Unreadable := ⟨isFile, read⟩
        rw [fileSettings, if_pos isFile, read]
        simp [here, eq_comm]
      | some settings =>
        have passed : ¬ (look path).Unreadable := by
          simp [FileState.Unreadable, FileState.settings?, read]
        have passedOn : (fileSettings look rest).map (settings :: ·) = .error error ↔
            fileSettings look rest = .error error := by
          cases fileSettings look rest <;> simp [Except.map]
        rw [fileSettings, if_pos isFile, read]
        simp [passedOn, ih, passed]

theorem fileSettings_overlayAll {look : String → FileState} {files : List (Layer × String)}
    (readable : ∀ file ∈ files, ¬ (look file.2).Unreadable) :
    ∃ sources, fileSettings look files = .ok sources ∧ ∀ settings : Settings,
      settings.overlayAll sources =
        settings.overlayAll (files.map fun file => (look file.2).settings) := by
  induction files with
  | nil => exact ⟨[], rfl, fun _ => rfl⟩
  | cons file rest ih =>
    obtain ⟨layer, path⟩ := file
    obtain ⟨sources, found, same⟩ :=
      ih fun file later => readable file (List.mem_cons_of_mem _ later)
    have here := readable (layer, path) List.mem_cons_self
    cases isFile : (look path).isFile with
    | false =>
      have none := FileState.settings_of_absent isFile
      refine ⟨sources, by simp [fileSettings, isFile, found], fun under => ?_⟩
      simpa [none, Settings.overlayAll, Settings.overlay] using same under
    | true =>
      cases read : (look path).content?.bind settingsOf? with
      | none => exact absurd ⟨isFile, read⟩ here
      | some settings =>
        have held : (look path).settings = settings := by
          rw [FileState.settings, FileState.settings?, read, Option.getD_some]
        refine ⟨settings :: sources, by simp [fileSettings, isFile, read, found, Except.map],
          fun under => ?_⟩
        simpa [held, Settings.overlayAll] using same (under.overlay settings)

theorem any_illegible_iff (surroundings : Surroundings) (word : String) :
    (surroundings.illegible.any fun name => (Variables.keyOf? word name).isSome) = true ↔
      surroundings.Illegible word := by
  simp [Surroundings.Illegible, Option.isSome_iff_exists]

structure Readable (loader : Loader) (surroundings : Surroundings) : Prop where
  files : ∀ file ∈ loader.files, ¬ (surroundings.look file.2).Unreadable
  legible : ¬ surroundings.Illegible loader.variableWord

/-- What the layers give, the lowest first: the user's file, the project's file, the project's local
file and the environment. -/
def layers (loader : Loader) (surroundings : Surroundings) : List Settings :=
  [match loader.userDirectory with
    | some directory => (surroundings.look (ConfigFiles.userFile directory)).settings
    | none => [],
    (surroundings.look (ConfigFiles.projectFile loader.projectDirectory)).settings,
    (surroundings.look (ConfigFiles.localFile loader.projectDirectory)).settings,
    Variables.settings loader.variableWord surroundings.environment]

theorem sources_overlayAll {loader : Loader} {surroundings : Surroundings}
    (readable : loader.Readable surroundings) :
    ∃ sources, loader.sources surroundings = .ok sources ∧ ∀ settings : Settings,
      settings.overlayAll sources = settings.overlayAll (loader.layers surroundings) := by
  obtain ⟨fromFiles, found, same⟩ := fileSettings_overlayAll readable.files
  have noneIllegible := mt (any_illegible_iff surroundings loader.variableWord).mp readable.legible
  have given : loader.variableSettings surroundings =
      .ok (Variables.settings loader.variableWord surroundings.environment) := by
    rw [variableSettings, if_neg noneIllegible]
  refine ⟨_, by rw [sources, found, given]; rfl, fun settings => ?_⟩
  have onFiles := same settings
  rw [Settings.overlayAll] at onFiles ⊢
  rw [List.foldl_append, onFiles, files, layers]
  cases loader.userDirectory <;> rfl

theorem load_of_readable {loader : Loader} {surroundings : Surroundings}
    (readable : loader.Readable surroundings) :
    loader.load surroundings =
      match Configuration.ofSettings?
          (Configuration.standardSettings.overlayAll (loader.layers surroundings)) with
      | some found => .ok (found.resolve loader.projectDirectory)
      | none => .error .fit := by
  obtain ⟨sources, found, same⟩ := sources_overlayAll readable
  rw [← same, load]
  cases fits : Configuration.ofSettings? (Configuration.standardSettings.overlayAll sources) <;>
    simp [found, fits]

theorem sources_of_unreadable {loader : Loader} {surroundings : Surroundings}
    (unreadable : (∃ file ∈ loader.files, (surroundings.look file.2).Unreadable) ∨
      surroundings.Illegible loader.variableWord) :
    loader.sources surroundings = .error .build := by
  rw [sources]
  cases fromFiles : fileSettings surroundings.look loader.files with
  | error e =>
    obtain ⟨rfl, -⟩ := (fileSettings_eq_error_iff _ _ _).mp fromFiles
    rfl
  | ok files =>
    have allRead : ¬ ∃ file ∈ loader.files, (surroundings.look file.2).Unreadable := by
      intro unread
      rw [(fileSettings_eq_error_iff _ _ .build).mpr ⟨rfl, unread⟩] at fromFiles
      cases fromFiles
    have illegible := (any_illegible_iff _ _).mpr (unreadable.resolve_left allRead)
    rw [variableSettings, if_pos illegible]
    rfl

theorem load_eq_build_iff (loader : Loader) (surroundings : Surroundings) :
    loader.load surroundings = .error .build ↔
      (∃ file ∈ loader.files, (surroundings.look file.2).Unreadable) ∨
        surroundings.Illegible loader.variableWord := by
  constructor
  · intro failed
    by_contra readable
    rw [not_or] at readable
    have files : ∀ file ∈ loader.files, ¬ (surroundings.look file.2).Unreadable :=
      fun file listed unread => readable.1 ⟨file, listed, unread⟩
    rw [load_of_readable ⟨files, readable.2⟩] at failed
    split at failed <;> cases failed
  · intro unreadable
    rw [load, sources_of_unreadable unreadable]

end Loader

namespace Invocation

def optionsOf (invocation : Invocation) (loaded : Configuration) : EngineOptions where
  classification := if invocation.strict then .firstSegment else loaded.options.classification
  audit := loaded.options.audit

theorem configuration_eq_ok_iff (invocation : Invocation) (surroundings : Surroundings)
    (configuration : Configuration) :
    invocation.configuration surroundings = .ok configuration ↔
      ∃ loaded, (invocation.loader surroundings).load surroundings = .ok loaded ∧
        configuration = ⟨invocation.optionsOf loaded, invocation.rules.getD loaded.rulesFile⟩ := by
  rw [Invocation.configuration]
  cases (invocation.loader surroundings).load surroundings with
  | error e => simp
  | ok loaded => cases strict : invocation.strict <;> simp [optionsOf, strict, eq_comm]

end Invocation

/-- A load fails to build exactly if a file that is there cannot be read or holds no settings, or a
variable under the word holds no text. Otherwise each field is settled by itself, by the values that
the layers give it, and the load succeeds exactly if what is settled can be read; a relative rule
file is then seen from the project. The command line replaces the rule file, as it names it, and
turns to first segments, and nothing else. -/
theorem fields_settle_apart (loader : Loader) (surroundings : Surroundings) :
    (loader.load surroundings = .error .build ↔
      (∃ file ∈ loader.files, (surroundings.look file.2).Unreadable) ∨
        surroundings.Illegible loader.variableWord) ∧
    (loader.Readable surroundings →
      (∀ source ∈ loader.layers surroundings, source.FieldWise) →
      ∃ winner : Field → Setting,
        (∀ field, Setting.Settles field.standard
          ((loader.layers surroundings).flatMap (·.given field)) (winner field)) ∧
        ∀ configuration, loader.load surroundings = .ok configuration ↔ ∃ file,
          Configuration.Reads winner ⟨configuration.options, file⟩ ∧
          configuration.rulesFile =
            if Path.isAbsolute file then file else Path.join loader.projectDirectory file) ∧
    ∀ (invocation : Invocation) (configuration : Configuration),
      invocation.configuration surroundings = .ok configuration ↔
        ∃ loaded, (invocation.loader surroundings).load surroundings = .ok loaded ∧
          configuration =
            ⟨invocation.optionsOf loaded, invocation.rules.getD loaded.rulesFile⟩ := by
  refine ⟨loader.load_eq_build_iff surroundings, fun readable fieldWise => ?_,
    fun invocation => invocation.configuration_eq_ok_iff surroundings⟩
  obtain ⟨winner, settled, reads⟩ := Configuration.ofSettings?_overlayAll fieldWise
  refine ⟨winner, settled, fun configuration => ?_⟩
  have seen (file : String) : Path.join loader.projectDirectory file =
      if Path.isAbsolute file then file else Path.join loader.projectDirectory file := by
    split
    · rename_i absolute
      exact Path.join_of_isAbsolute absolute _
    · rfl
  have described : loader.load surroundings = .ok configuration ↔ ∃ found,
      Configuration.Reads winner found ∧
        configuration = found.resolve loader.projectDirectory := by
    rw [Loader.load_of_readable readable]
    simp only [← reads]
    cases Configuration.ofSettings?
        (Configuration.standardSettings.overlayAll (loader.layers surroundings)) <;>
      simp [eq_comm]
  rw [described]
  constructor
  · rintro ⟨found, held, rfl⟩
    exact ⟨found.rulesFile, held, seen _⟩
  · rintro ⟨file, held, joined⟩
    refine ⟨⟨configuration.options, file⟩, held, ?_⟩
    rw [← seen] at joined
    rw [Configuration.resolve, ← joined]

def layeredProject (project checkout : String) : Surroundings where
  workingDirectory := "/"
  environment := []
  accountHome := none
  look path :=
    if path = ConfigFiles.projectFile "proj" then .regular project.toByteArray
    else if path = ConfigFiles.localFile "proj" then .regular checkout.toByteArray
    else .missing

def projectLoader : Loader := ⟨"proj", "WARDEN", none⟩

theorem localFile_ne_projectFile :
    ConfigFiles.localFile "proj" ≠ ConfigFiles.projectFile "proj" := by
  decide +kernel

def settingsIn? (text : String) : Option Settings :=
  Toml.ofText? (String.ofList (Toml.skipMark (Utf8.text text.toByteArray.data.toList)))

theorem settingsOf?_toByteArray (text : String) :
    Loader.settingsOf? text.toByteArray = settingsIn? text := by
  rw [Loader.settingsOf?, Utf8.toList_eq_data, settingsIn?]

theorem layeredProject_layers (project checkout : String) :
    projectLoader.layers (layeredProject project checkout) =
      [[], (settingsIn? project).getD [], (settingsIn? checkout).getD [], []] := by
  simp [projectLoader, Loader.layers, layeredProject, FileState.settings, Variables.settings,
    localFile_ne_projectFile, settingsOf?_toByteArray]

theorem layeredProject_readable (project checkout : String)
    (projectRead : (settingsIn? project).isSome) (checkoutRead : (settingsIn? checkout).isSome) :
    projectLoader.Readable (layeredProject project checkout) := by
  constructor
  · simp [projectLoader, Loader.files, layeredProject, FileState.Unreadable,
      localFile_ne_projectFile, settingsOf?_toByteArray, ← Option.isNone_iff_eq_none, projectRead,
      checkoutRead]
  · simp [layeredProject, Surroundings.Illegible]

/-- A bad value of a file does harm under a good one if both are tables: they are joined. -/
theorem overridden_table_counts :
    let surroundings := layeredProject "[engine.classification]\nbogus = 1\n"
      "[engine.classification]\nfirst-segment = 1\n"
    projectLoader.Readable surroundings ∧
      (∀ source ∈ projectLoader.layers surroundings, source.FieldWise) ∧
      (projectLoader.layers surroundings).map (fun source =>
        (source.given .classification).map Configuration.classification?) =
          [[], [none], [some .firstSegment], []] ∧
      projectLoader.load surroundings = .error .fit := by
  intro surroundings
  have readable := layeredProject_readable
    "[engine.classification]\nbogus = 1\n" "[engine.classification]\nfirst-segment = 1\n"
    (by decide +kernel) (by decide +kernel)
  refine ⟨readable, ?_, ?_, ?_⟩
  · rw [layeredProject_layers]
    decide +kernel
  · rw [layeredProject_layers]
    decide +kernel
  · rw [Loader.load_of_readable readable, layeredProject_layers]
    have unfit : Configuration.ofSettings? (Configuration.standardSettings.overlayAll
        [[], (settingsIn? "[engine.classification]\nbogus = 1\n").getD [],
          (settingsIn? "[engine.classification]\nfirst-segment = 1\n").getD [], []]) = none := by
      decide +kernel
    rw [unfit]

theorem fields_settle_apart_two_files :
    projectLoader.load
        (layeredProject "[engine]\naudit = false\n" "[rules]\nfile = \"own.json\"\n") =
      .ok ⟨⟨.substring, false⟩, "proj/own.json"⟩ := by
  have readable := layeredProject_readable "[engine]\naudit = false\n"
    "[rules]\nfile = \"own.json\"\n" (by decide +kernel) (by decide +kernel)
  have layers := layeredProject_layers "[engine]\naudit = false\n"
    "[rules]\nfile = \"own.json\"\n"
  obtain ⟨winner, settled, loads⟩ :=
    (fields_settle_apart projectLoader _).2.1 readable (by rw [layers]; decide +kernel)
  have read {α : Type} (as : Setting → Option α) (field : Field) :=
    congrArg (·.bind as) (settled field).laid
  simp only [layers, Option.bind_some] at read
  refine (loads _).mpr ⟨"own.json", ⟨?_, ?_, ?_⟩, by decide +kernel⟩
  · exact (read Configuration.classification? .classification).symm.trans (by decide +kernel)
  · exact (read Configuration.bool? .audit).symm.trans (by decide +kernel)
  · exact (read Configuration.text? .file).symm.trans (by decide +kernel)

end AccessRules
