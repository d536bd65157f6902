import AccessRules.Proofs.Config.Layers
import AccessRules.Proofs.Config.Resolution
import AccessRules.Proofs.Config.Spelling

/-!
The rule file that is named in the environment. It is the highest value of all layers, and nothing
else changes; but it is the value that is read in the variable and written again, where a file's
value is the text itself.
-/

namespace AccessRules

namespace Settings

theorem overlay_append (settings source others : Settings) :
    settings.overlay (source ++ others) = (settings.overlay source).overlay others := by
  induction source generalizing settings with
  | nil => rfl
  | cons entry rest ih => simp only [List.cons_append, overlay, ih]

theorem overlayAll_append (settings : Settings) (sources others : List Settings) :
    settings.overlayAll (sources ++ others) = (settings.overlayAll sources).overlayAll others :=
  List.foldl_append

theorem about_singleton {key name : String} {steps : List KeyStep}
    (path : KeyPath.ofKey key = .name name :: steps) (value : Setting) (part : String) :
    about [(key, value)] part = if name = part then [(steps, value)] else [] := by
  by_cases same : name = part <;> simp [about, path, same]

theorem get?_overlay_silent {source : Settings} {part : String} (silent : source.about part = [])
    (settings : Settings) : get? (settings.overlay source) part = get? settings part := by
  rw [get?_overlay, silent, List.foldl_nil]

def Leaves (source : Settings) (field : Field) : Prop :=
  source.Tabular field.part ∧ source.given field = []

def GivenLast (sources : List Settings) (field : Field) (value : Setting) : Prop :=
  ∃ lower source upper below, sources = lower ++ source :: upper ∧ source.Tabular field.part ∧
    source.given field = below ++ [value] ∧ ∀ higher ∈ upper, higher.Leaves field

theorem GivenLast.get?_overlayAll {sources : List Settings} {field : Field} {value : Setting}
    (last : GivenLast sources field value) (plain : ∀ entries, value ≠ .table entries)
    (settings : Settings) : ∃ entries, get? (settings.overlayAll sources) field.part =
      some (.table entries) ∧ get? entries field.name = some value := by
  obtain ⟨lower, source, upper, below, rfl, tabular, given, leave⟩ := last
  have spoken : source.about field.part ≠ [] := by
    intro silent
    rw [Settings.given, entriesIn, silent] at given
    exact List.append_ne_nil_of_right_ne_nil below (List.cons_ne_nil value []) given.symm
  have laid : get? ((settings.overlayAll lower).overlay source) field.part = some (.table _) :=
    get?_overlay_spoken tabular spoken
  have kept := get?_overlayAll_tabular (fun higher listed => (leave higher listed).1) laid
  refine ⟨_, by rw [overlayAll_append]; exact kept, ?_⟩
  have nothing : upper.flatMap (·.given field) = [] :=
    List.flatMap_eq_nil_iff.mpr fun higher listed => (leave higher listed).2
  rw [Setting.get?_ontoEntries, valuesOf_flatMap, nothing, Setting.get?_ontoEntries]
  rw [Settings.given] at given
  rw [given, Setting.ontoAll, Setting.ontoAll, List.foldl_nil, List.foldl_append, List.foldl_cons,
    List.foldl_nil, Setting.onto_of_plain plain]

end Settings

namespace Configuration

theorem ofSettings?_eq_some_iff (settings : Settings) (configuration : Configuration) :
    ofSettings? settings = some configuration ↔
      fieldOr EngineOptions.standard options? (settings.get? "engine") =
          some configuration.options ∧
        fieldOr standardRulesFile rulesFile? (settings.get? "rules") =
          some configuration.rulesFile := by
  obtain ⟨options, rulesFile⟩ := configuration
  simp [ofSettings?, Option.bind_eq_some_iff]

theorem rulesFile_of_givenLast {settings : Settings} {sources : List Settings} {value : Setting}
    {path : String} (last : Settings.GivenLast sources .file value)
    (read : text? value = some path) :
    fieldOr standardRulesFile rulesFile? ((settings.overlayAll sources).get? "rules") =
      some path := by
  have plain : ∀ entries, value ≠ .table entries := by
    rintro entries rfl
    cases read
  obtain ⟨entries, held, file⟩ := last.get?_overlayAll plain settings
  rw [Field.part] at held
  rw [held, fieldOr, rulesFile?_table file, read]

end Configuration

namespace Loader

theorem readable_of_load {loader : Loader} {surroundings : Surroundings}
    {configuration : Configuration} (loaded : loader.load surroundings = .ok configuration) :
    loader.Readable surroundings := by
  have built : loader.load surroundings ≠ .error .build := by simp [loaded]
  rw [Ne, load_eq_build_iff, not_or] at built
  exact ⟨fun file listed unread => built.1 ⟨file, listed, unread⟩, built.2⟩

theorem described?_of_readable {loader : Loader} {surroundings : Surroundings}
    (readable : loader.Readable surroundings) :
    loader.described? surroundings = Configuration.ofSettings?
      (Configuration.standardSettings.overlayAll (loader.layers surroundings)) := by
  obtain ⟨sources, found, same⟩ := sources_overlayAll readable
  rw [← same, described?, found]

/-- The sources can be read, and what they say of the engine are options. -/
def ReadsOptions (loader : Loader) (surroundings : Surroundings) (options : EngineOptions) : Prop :=
  loader.Readable surroundings ∧
    Configuration.fieldOr EngineOptions.standard Configuration.options?
      (Settings.get? (Configuration.standardSettings.overlayAll (loader.layers surroundings))
        "engine") = some options

theorem load_eq_ok_iff_parts (loader : Loader) (surroundings : Surroundings)
    (configuration : Configuration) : loader.load surroundings = .ok configuration ↔
      loader.ReadsOptions surroundings configuration.options ∧ ∃ file,
        Configuration.fieldOr Configuration.standardRulesFile Configuration.rulesFile?
          (Settings.get? (Configuration.standardSettings.overlayAll (loader.layers surroundings))
            "rules") = some file ∧
        configuration.rulesFile = Path.join loader.projectDirectory file := by
  rw [ReadsOptions, load_eq_ok_iff]
  constructor
  · rintro ⟨found, described, rfl⟩
    have loaded := (loader.load_eq_ok_iff surroundings _).mpr ⟨found, described, rfl⟩
    have readable := readable_of_load loaded
    rw [described?_of_readable readable, Configuration.ofSettings?_eq_some_iff] at described
    exact ⟨⟨readable, described.1⟩, _, described.2, rfl⟩
  · rintro ⟨⟨readable, engine⟩, file, rules, joined⟩
    refine ⟨⟨configuration.options, file⟩, ?_, ?_⟩
    · rw [described?_of_readable readable, Configuration.ofSettings?_eq_some_iff]
      exact ⟨engine, rules⟩
    · rw [Configuration.resolve, ← joined]

/-- Where the layers, or sources that come to the same, give a text for the rule file last, nothing
but the files and the engine's part can make the load fail. -/
theorem load_eq_ok_iff_of_givenLast {loader : Loader} {surroundings : Surroundings}
    {sources : List Settings} {value : Setting} {path : String}
    (same : ∀ settings : Settings,
      settings.overlayAll (loader.layers surroundings) = settings.overlayAll sources)
    (last : Settings.GivenLast sources .file value)
    (read : Configuration.text? value = some path) (configuration : Configuration) :
    loader.load surroundings = .ok configuration ↔
      loader.ReadsOptions surroundings configuration.options ∧
        configuration.rulesFile = Path.join loader.projectDirectory path := by
  rw [load_eq_ok_iff_parts, same, Configuration.rulesFile_of_givenLast last read]
  simp

end Loader

namespace Variables

theorem settings_append (word : String) (before after : Variables) :
    settings word (before ++ after) = settings word before ++ settings word after := by
  induction before with
  | nil => rfl
  | cons entry rest ih =>
    obtain ⟨name, value⟩ := entry
    rw [List.cons_append, settings, settings, ih]
    cases keyOf? word name <;> rfl

theorem settings_rulesFile (text : String) (after : Variables) :
    settings "WARDEN" (("WARDEN_RULES_FILE", text) :: after) =
      ("rules.file", settingOf text) :: settings "WARDEN" after := by
  have key : keyOf? "WARDEN" "WARDEN_RULES_FILE" = some "rules.file" := by decide +kernel
  rw [settings, key]

theorem about_rulesFile (value : Setting) (part : String) :
    Settings.about [("rules.file", value)] part =
      if "rules" = part then [([.name "file"], value)] else [] :=
  Settings.about_singleton rfl value part

theorem givenLast_rulesFile (lower : List Settings) (value : Setting) {later : Settings}
    (leaves : later.Leaves .file) :
    Settings.GivenLast (lower ++ [[("rules.file", value)], later]) .file value := by
  have about : Settings.about [("rules.file", value)] (Field.part .file) =
      [([.name "file"], value)] := about_rulesFile value _
  refine ⟨lower, _, [later], [], rfl, ?_, ?_, by simpa using leaves⟩
  · rw [Settings.Tabular, about]
    simp [Setting.nested?]
  · rw [Settings.given, Settings.entriesIn, about]
    simp [Setting.nested?, Setting.entriesOf, Settings.valuesOf, Field.name]

theorem get?_engine_overlayAll (under : Settings) (lower : List Settings) (value : Setting)
    (later : Settings) :
    Settings.get? (under.overlayAll (lower ++ [[("rules.file", value)], later])) "engine" =
      Settings.get? (under.overlayAll (lower ++ [later])) "engine" := by
  have silent : Settings.about [("rules.file", value)] "engine" = [] := about_rulesFile _ _
  simp only [Settings.overlayAll, List.foldl_append, List.foldl_cons, List.foldl_nil]
  rw [Settings.get?_overlay, Settings.get?_overlay_silent silent, Settings.get?_overlay]

/-- The layers of surroundings that hold the variable, from the variable on, and those of the same
surroundings without it. -/
theorem exists_layers (loader : Loader) (surroundings : Surroundings) {before after : Variables}
    {text : String} (word : loader.variableWord = "WARDEN")
    (held : surroundings.environment = before ++ ("WARDEN_RULES_FILE", text) :: after) :
    ∃ lower : List Settings, (∀ under : Settings,
        under.overlayAll (loader.layers surroundings) = under.overlayAll
          (lower ++ [[("rules.file", settingOf text)], settings "WARDEN" after])) ∧
      ∀ under : Settings,
        under.overlayAll (loader.layers { surroundings with environment := before ++ after }) =
          under.overlayAll (lower ++ [settings "WARDEN" after]) := by
  refine ⟨(loader.layers surroundings).take 3 ++ [settings "WARDEN" before], fun under => ?_,
    fun under => ?_⟩
  · rw [Loader.layers, word, held, settings_append, settings_rulesFile]
    simp only [Settings.overlayAll, List.take, List.foldl_cons, List.foldl_nil,
      Settings.overlay_append, List.cons_append, List.nil_append, Settings.overlay]
  · rw [Loader.layers, word, settings_append]
    simp only [Settings.overlayAll, List.take, List.foldl_cons, List.foldl_nil,
      Settings.overlay_append, List.cons_append, List.nil_append, Loader.layers]

end Variables

/-- A variable that no later one speaks over names the rule file and changes nothing else, and it
names what is written for what its text spells: the path that the text itself is exactly if the text
is kept. A layer that gives the text as a text names that path, whatever the text is. -/
theorem variable_names_written_path (loader : Loader) (surroundings : Surroundings)
    (before after : Variables) (text : String) (word : loader.variableWord = "WARDEN")
    (held : surroundings.environment = before ++ ("WARDEN_RULES_FILE", text) :: after)
    (leaves : (Variables.settings "WARDEN" after).Leaves .file) :
    (∃ path, Configuration.text? (Variables.settingOf text) = some path ∧
      (Path.join loader.projectDirectory path = Path.join loader.projectDirectory text ↔
        Variables.Kept text) ∧
      (∀ configuration, loader.load surroundings = .ok configuration ↔
        loader.ReadsOptions surroundings configuration.options ∧
          configuration.rulesFile = Path.join loader.projectDirectory path) ∧
      ∀ loaded,
        loader.load { surroundings with environment := before ++ after } = .ok loaded →
        loader.load surroundings =
          .ok { loaded with rulesFile := Path.join loader.projectDirectory path }) ∧
    ∀ (others : Surroundings) (configuration : Configuration),
      Settings.GivenLast (loader.layers others) .file (.text text) →
      (loader.load others = .ok configuration ↔
        loader.ReadsOptions others configuration.options ∧
          configuration.rulesFile = Path.join loader.projectDirectory text) := by
  refine ⟨?_, fun others configuration last =>
    Loader.load_eq_ok_iff_of_givenLast (fun _ => rfl) last rfl configuration⟩
  obtain ⟨lower, layers, layersWithout⟩ := Variables.exists_layers loader surroundings word held
  obtain ⟨path, read, kept⟩ := Variables.exists_named_path text
  have last := Variables.givenLast_rulesFile lower (Variables.settingOf text) leaves
  have loads := Loader.load_eq_ok_iff_of_givenLast layers last read
  refine ⟨path, read, kept _, loads, fun loaded without => (loads _).mpr ⟨?_, rfl⟩⟩
  obtain ⟨readable, engine⟩ := ((loader.load_eq_ok_iff_parts _ _).mp without).1
  rw [layersWithout, ← Variables.get?_engine_overlayAll, ← layers] at engine
  exact ⟨⟨readable.files, readable.legible⟩, engine⟩

/-- Digits with zeros in front lose them in a variable, and keep them in a file. -/
theorem variable_drops_zeros :
    projectLoader.load (bareSurroundings "/" [("WARDEN_RULES_FILE", "007")]) =
        .ok ⟨.standard, "proj/7"⟩ ∧
      projectLoader.load (layeredProject "[rules]\nfile = \"007\"\n" "") =
        .ok ⟨.standard, "proj/007"⟩ ∧
      Path.join projectLoader.projectDirectory "007" = "proj/007" := by
  refine ⟨?_, ?_, by decide +kernel⟩
  · have described : Configuration.ofSettings? (Configuration.standardSettings.overlayAll
        [Variables.settings "WARDEN" [("WARDEN_RULES_FILE", "007")]]) = some ⟨.standard, "7"⟩ := by
      decide +kernel
    have joined : Configuration.resolve ⟨.standard, "7"⟩ "proj" = ⟨.standard, "proj/7"⟩ := by
      decide +kernel
    rw [load_bareSurroundings, projectLoader, described]
    exact congrArg Except.ok joined
  · have readable := layeredProject_readable "[rules]\nfile = \"007\"\n" ""
      (by decide +kernel) (by decide +kernel)
    have described : Configuration.ofSettings? (Configuration.standardSettings.overlayAll
        [[], (settingsIn? "[rules]\nfile = \"007\"\n").getD [], (settingsIn? "").getD [], []]) =
          some ⟨.standard, "007"⟩ := by
      decide +kernel
    have joined : Configuration.resolve ⟨.standard, "007"⟩ "proj" = ⟨.standard, "proj/007"⟩ := by
      decide +kernel
    rw [Loader.load_of_readable readable, layeredProject_layers, described]
    exact congrArg Except.ok joined

theorem variable_names_written_path_among_others :
    let environment : Variables :=
      [("HOME", "/root"), ("WARDEN_RULES_FILE", "own.json"), ("WARDEN_ENGINE_AUDIT", "off")]
    projectLoader.load (bareSurroundings "/" environment) =
        .ok ⟨⟨.substring, false⟩, "proj/own.json"⟩ ∧
      Variables.Kept "own.json" := by
  intro environment
  have leaves : (Variables.settings "WARDEN" [("WARDEN_ENGINE_AUDIT", "off")]).Leaves .file :=
    ⟨by decide +kernel, by rfl⟩
  obtain ⟨⟨path, read, kept, -, loads⟩, -⟩ := variable_names_written_path projectLoader
    (bareSurroundings "/" environment) [("HOME", "/root")] [("WARDEN_ENGINE_AUDIT", "off")]
    "own.json" rfl rfl leaves
  obtain rfl : path = "own.json" := Option.some.inj (read.symm.trans (by decide +kernel))
  have described : Configuration.ofSettings? (Configuration.standardSettings.overlayAll
      [Variables.settings "WARDEN" [("HOME", "/root"), ("WARDEN_ENGINE_AUDIT", "off")]]) =
        some ⟨⟨.substring, false⟩, "rules.json"⟩ := by
    decide +kernel
  have without : projectLoader.load
      (bareSurroundings "/" [("HOME", "/root"), ("WARDEN_ENGINE_AUDIT", "off")]) =
        .ok (Configuration.resolve ⟨⟨.substring, false⟩, "rules.json"⟩ "proj") := by
    rw [load_bareSurroundings, projectLoader, described]
  have loaded := loads _ without
  have joined : Configuration.resolve ⟨⟨.substring, false⟩, "own.json"⟩ "proj" =
      ⟨⟨.substring, false⟩, "proj/own.json"⟩ := by
    decide +kernel
  exact ⟨loaded.trans (congrArg Except.ok joined), kept.mp rfl⟩

end AccessRules
