import AccessRules.Config.Loader

/-!
Where the rule file is looked for. A configuration that is loaded names it from the root, the
project's directory being named so: a relative path, that of the standard configuration included, is
joined to it. Where nothing can be loaded, the standard configuration is taken as it is, and its
rule file is whatever has that name in the working directory.
-/

namespace AccessRules

namespace Path

theorem isAbsolute_append {base : String} (absolute : isAbsolute base = true) (rest : String) :
    isAbsolute (base ++ rest) = true := by
  rw [isAbsolute, beq_iff_eq] at absolute ⊢
  rw [String.toList_append, List.head?_append, absolute]
  rfl

theorem isAbsolute_join {base : String} (absolute : isAbsolute base = true) (path : String) :
    isAbsolute (join base path) = true := by
  have named : base.isEmpty = false := by
    refine Bool.eq_false_iff.mpr fun empty => ?_
    obtain rfl := String.isEmpty_iff.mp empty
    cases absolute
  rw [join, named, Bool.or_false]
  split
  · assumption
  · split
    · exact isAbsolute_append absolute path
    · rw [String.append_assoc]
      exact isAbsolute_append absolute _

theorem join_eq_ite (base path : String) :
    join base path = if isAbsolute path then path else join base path := by
  split
  · rename_i absolute
    exact join_of_isAbsolute absolute base
  · rfl

end Path

namespace Loader

def described? (loader : Loader) (surroundings : Surroundings) : Option Configuration :=
  match loader.sources surroundings with
  | .ok sources =>
    Configuration.ofSettings? (Configuration.standardSettings.overlayAll sources)
  | .error _ => none

theorem load_eq_ok_iff (loader : Loader) (surroundings : Surroundings)
    (configuration : Configuration) : loader.load surroundings = .ok configuration ↔
      ∃ found, loader.described? surroundings = some found ∧
        configuration = found.resolve loader.projectDirectory := by
  rw [load, described?]
  cases loader.sources surroundings with
  | error e => simp
  | ok sources =>
    dsimp only
    cases Configuration.ofSettings? (Configuration.standardSettings.overlayAll sources) with
    | none => simp
    | some found => simp [eq_comm]

theorem loadOrStandard_of_ok {loader : Loader} {surroundings : Surroundings}
    {configuration : Configuration} (loaded : loader.load surroundings = .ok configuration) :
    loader.loadOrStandard surroundings = configuration := by
  rw [loadOrStandard, loaded]

theorem loadOrStandard_of_error {loader : Loader} {surroundings : Surroundings} {e : ConfigError}
    (failed : loader.load surroundings = .error e) :
    loader.loadOrStandard surroundings = .standard := by
  rw [loadOrStandard, failed]

end Loader

/-- In a project that is named from the root, what is loaded names its rule file from the root: as
it is configured, or joined to the project. What is taken where loading fails does not. -/
theorem rules_file_absolute_iff_loaded (loader : Loader) (surroundings : Surroundings)
    (absolute : Path.isAbsolute loader.projectDirectory = true) :
    (∀ configuration, loader.load surroundings = .ok configuration →
      Path.isAbsolute configuration.rulesFile = true ∧
      loader.loadOrStandard surroundings = configuration ∧
      ∃ found, loader.described? surroundings = some found ∧
        configuration.options = found.options ∧
        configuration.rulesFile = if Path.isAbsolute found.rulesFile then found.rulesFile
          else Path.join loader.projectDirectory found.rulesFile) ∧
    (∀ e, loader.load surroundings = .error e →
      loader.loadOrStandard surroundings = .standard) ∧
    (Path.isAbsolute (loader.loadOrStandard surroundings).rulesFile = true ↔
      ∃ configuration, loader.load surroundings = .ok configuration) := by
  have resolved (configuration : Configuration)
      (loaded : loader.load surroundings = .ok configuration) :
      Path.isAbsolute configuration.rulesFile = true := by
    obtain ⟨found, -, rfl⟩ := (loader.load_eq_ok_iff surroundings _).mp loaded
    exact Path.isAbsolute_join absolute _
  refine ⟨fun configuration loaded => ⟨resolved configuration loaded,
    Loader.loadOrStandard_of_ok loaded, ?_⟩, fun e => Loader.loadOrStandard_of_error, ?_, ?_⟩
  · obtain ⟨found, described, rfl⟩ := (loader.load_eq_ok_iff surroundings _).mp loaded
    exact ⟨found, described, rfl, Path.join_eq_ite _ _⟩
  · intro named
    cases outcome : loader.load surroundings with
    | ok configuration => exact ⟨configuration, rfl⟩
    | error e =>
      rw [Loader.loadOrStandard_of_error outcome] at named
      cases named
  · rintro ⟨configuration, loaded⟩
    rw [Loader.loadOrStandard_of_ok loaded]
    exact resolved configuration loaded

def bareSurroundings (directory : String) (environment : Variables) : Surroundings where
  workingDirectory := directory
  environment := environment
  accountHome := none
  look _ := .missing

theorem load_bareSurroundings (loader : Loader) (directory : String) (environment : Variables) :
    loader.load (bareSurroundings directory environment) =
      match Configuration.ofSettings? (Configuration.standardSettings.overlayAll
          [Variables.settings loader.variableWord environment]) with
      | some found => .ok (found.resolve loader.projectDirectory)
      | none => .error .fit := by
  have noFiles : loader.sources (bareSurroundings directory environment) =
      .ok [Variables.settings loader.variableWord environment] := by
    cases user : loader.userDirectory <;>
      simp [Loader.sources, Loader.files, user, Loader.fileSettings, FileState.isFile,
        Loader.variableSettings, bareSurroundings] <;> rfl
  cases described : Configuration.ofSettings? (Configuration.standardSettings.overlayAll
      [Variables.settings loader.variableWord environment]) <;>
    simp only [Loader.load, noFiles, described]

/-- A variable with no truth value in it leaves the rule file to the working directory. -/
theorem fallback_forgets_project :
    let loader : Loader := ⟨"/srv", "WARDEN", none⟩
    let surroundings := bareSurroundings "/" [("WARDEN_ENGINE_AUDIT", "maybe")]
    Path.isAbsolute loader.projectDirectory = true ∧
      loader.load surroundings = .error .fit ∧
      (loader.loadOrStandard surroundings).rulesFile = "rules.json" ∧
      Path.isAbsolute (loader.loadOrStandard surroundings).rulesFile = false := by
  intro loader surroundings
  have unfit : Configuration.ofSettings? (Configuration.standardSettings.overlayAll
      [Variables.settings "WARDEN" [("WARDEN_ENGINE_AUDIT", "maybe")]]) = none := by
    decide +kernel
  have failed : loader.load surroundings = .error .fit := by
    rw [load_bareSurroundings, unfit]
  rw [Loader.loadOrStandard_of_error failed]
  exact ⟨by decide, failed, rfl, by decide⟩

theorem rules_file_absolute_iff_loaded_bare :
    let loader : Loader := ⟨"/srv", "WARDEN", none⟩
    let surroundings := bareSurroundings "/" [("WARDEN_RULES_FILE", "own.json")]
    Path.isAbsolute loader.projectDirectory = true ∧
      loader.load surroundings = .ok ⟨.standard, "/srv/own.json"⟩ ∧
      Path.isAbsolute (loader.loadOrStandard surroundings).rulesFile = true := by
  intro loader surroundings
  have fits : Configuration.ofSettings? (Configuration.standardSettings.overlayAll
      [Variables.settings "WARDEN" [("WARDEN_RULES_FILE", "own.json")]]) =
        some ⟨.standard, "own.json"⟩ := by
    decide +kernel
  have joined : Configuration.resolve ⟨.standard, "own.json"⟩ "/srv" =
      ⟨.standard, "/srv/own.json"⟩ := by
    decide +kernel
  have loaded : loader.load surroundings = .ok ⟨.standard, "/srv/own.json"⟩ := by
    rw [load_bareSurroundings, fits]
    exact congrArg Except.ok joined
  have absolute : Path.isAbsolute loader.projectDirectory = true := by decide
  have facts := rules_file_absolute_iff_loaded loader surroundings absolute
  exact ⟨absolute, loaded, facts.2.2.mpr ⟨_, loaded⟩⟩

end AccessRules
