import AccessRules.Config.Setting

/-!
What is found by name after sources are laid over settings. Where a source speaks of a part of the
settings by tables, or by paths of names into it, all its entries there lie over the part one after
the other; and what is found under a name of the part is what its own entries make of it.
-/

namespace AccessRules

namespace Settings

theorem get?_put (settings : Settings) (name other : String) (value : Setting) :
    get? (put settings name value) other =
      if name = other then some value else get? settings other := by
  induction settings with
  | nil => simp [put, get?]
  | cons entry rest ih =>
    obtain ⟨key, old⟩ := entry
    by_cases same : key = name
    · subst same
      by_cases asked : key = other <;> simp [put, get?, asked]
    · by_cases asked : key = other
      · subst asked
        simp [put, get?, same, Ne.symm same]
      · simp [put, get?, same, asked, ih]

def valuesOf (entries : Settings) (name : String) : List Setting :=
  entries.filterMap fun (key, value) => if key = name then some value else none

@[simp] theorem valuesOf_append (entries others : Settings) (name : String) :
    valuesOf (entries ++ others) name = valuesOf entries name ++ valuesOf others name :=
  List.filterMap_append

end Settings

namespace Setting

def ontoAll (under : Option Setting) (values : List Setting) : Option Setting :=
  values.foldl (fun under value => some (onto under value)) under

theorem get?_ontoEntries (entries under : Settings) (name : String) :
    Settings.get? (ontoEntries under entries) name =
      ontoAll (Settings.get? under name) (Settings.valuesOf entries name) := by
  induction entries generalizing under with
  | nil => simp [ontoEntries, Settings.valuesOf, ontoAll]
  | cons entry rest ih =>
    obtain ⟨key, value⟩ := entry
    rw [ontoEntries, ih, Settings.get?_put]
    by_cases same : key = name <;> simp [same, Settings.valuesOf, ontoAll]

theorem ontoEntries_append (entries others under : Settings) :
    ontoEntries under (entries ++ others) = ontoEntries (ontoEntries under entries) others := by
  induction entries generalizing under with
  | nil => simp [ontoEntries]
  | cons entry rest ih => simp [ontoEntries, ih]

def nested? (value : Setting) : List KeyStep → Option Setting
  | [] => some value
  | .name name :: rest => (nested? value rest).map fun inner => .table [(name, inner)]
  | .place _ :: _ => none

theorem ontoAt_eq_onto {path : List KeyStep} {value setting : Setting}
    (named : nested? value path = some setting) (under : Option Setting) :
    ontoAt under value path = onto under setting := by
  induction path generalizing under setting with
  | nil =>
    cases named
    rfl
  | cons step rest ih =>
    cases step with
    | place index => cases named
    | name name =>
      obtain ⟨inner, innerNamed, rfl⟩ := Option.map_eq_some_iff.mp named
      simp [ontoAt, onto, ontoEntries, ih innerNamed]

end Setting

theorem KeyPath.ofKey_starts_with_name (key : String) :
    ∃ name rest, ofKey key = .name name :: rest := by
  rw [ofKey]
  cases read : steps? (key.length + 2) ('.' :: key.toList) with
  | none => exact ⟨key, [], rfl⟩
  | some steps =>
    rw [steps?] at read
    split at read
    · cases read
    · obtain ⟨rest, -, rfl⟩ := Option.map_eq_some_iff.mp read
      exact ⟨_, rest, rfl⟩

namespace Settings

/-- What a source says of a part: values, each with the path to it from the part on. -/
def about (source : Settings) (part : String) : List (List KeyStep × Setting) :=
  source.filterMap fun (key, value) =>
    match KeyPath.ofKey key with
    | .name name :: rest => if name = part then some (rest, value) else none
    | _ => none

theorem get?_overlay (source settings : Settings) (part : String) :
    get? (settings.overlay source) part = (source.about part).foldl
      (fun under item => some (Setting.ontoAt under item.2 item.1)) (get? settings part) := by
  induction source generalizing settings with
  | nil => rfl
  | cons entry rest ih =>
    obtain ⟨key, value⟩ := entry
    obtain ⟨name, steps, path⟩ := KeyPath.ofKey_starts_with_name key
    rw [overlay, ih, path, Setting.ontoAt, Setting.entriesOf, Setting.entriesOf, get?_put]
    by_cases same : name = part <;> simp [about, path, same]

/-- A source speaks of a part by tables, or by paths of names into it. -/
def Tabular (source : Settings) (part : String) : Prop :=
  ∀ item ∈ source.about part, ∃ entries, Setting.nested? item.2 item.1 = some (.table entries)

instance (found : Option Setting) : Decidable (∃ entries, found = some (.table entries)) :=
  match found with
  | some (.table entries) => isTrue ⟨entries, rfl⟩
  | none | some .nothing | some (.bool _) | some (.integer _) | some (.float _) | some (.text _)
  | some (.list _) => isFalse (by simp)

instance (source : Settings) (part : String) : Decidable (source.Tabular part) :=
  inferInstanceAs (Decidable (∀ item ∈ source.about part, _))

def entriesIn (source : Settings) (part : String) : Settings :=
  (source.about part).flatMap fun item => Setting.entriesOf (Setting.nested? item.2 item.1)

variable {settings under : Settings} {part : String}

theorem foldl_ontoAt_tabular {items : List (List KeyStep × Setting)}
    (tabular : ∀ item ∈ items, ∃ entries, Setting.nested? item.2 item.1 = some (.table entries)) :
    items.foldl (fun under item => some (Setting.ontoAt under item.2 item.1))
        (some (.table under)) =
      some (.table (Setting.ontoEntries under
        (items.flatMap fun item => Setting.entriesOf (Setting.nested? item.2 item.1)))) := by
  induction items generalizing under with
  | nil => simp [Setting.ontoEntries]
  | cons item rest ih =>
    obtain ⟨entries, named⟩ := tabular item List.mem_cons_self
    have laid : Setting.ontoAt (some (.table under)) item.2 item.1 =
        .table (Setting.ontoEntries under entries) := by
      rw [Setting.ontoAt_eq_onto named, Setting.onto, Setting.entriesOf]
    rw [List.foldl_cons, List.flatMap_cons, laid, named, Setting.entriesOf,
      Setting.ontoEntries_append]
    exact ih fun item later => tabular item (List.mem_cons_of_mem _ later)

theorem get?_overlay_tabular {source : Settings} (tabular : source.Tabular part)
    (held : get? settings part = some (.table under)) :
    get? (settings.overlay source) part =
      some (.table (Setting.ontoEntries under (source.entriesIn part))) := by
  rw [get?_overlay, held, foldl_ontoAt_tabular tabular, entriesIn]

theorem get?_overlay_spoken {source : Settings} (tabular : source.Tabular part)
    (spoken : source.about part ≠ []) : get? (settings.overlay source) part =
      some (.table (Setting.ontoEntries (Setting.entriesOf (get? settings part))
        (source.entriesIn part))) := by
  rw [get?_overlay, entriesIn]
  rw [Tabular] at tabular
  cases items : source.about part with
  | nil => exact absurd items spoken
  | cons item rest =>
    rw [items] at tabular
    obtain ⟨entries, named⟩ := tabular item List.mem_cons_self
    rw [List.foldl_cons, List.flatMap_cons, Setting.ontoAt_eq_onto named, Setting.onto, named,
      Setting.entriesOf, Setting.ontoEntries_append]
    exact foldl_ontoAt_tabular fun item later => tabular item (List.mem_cons_of_mem _ later)

theorem get?_overlayAll_tabular {sources : List Settings}
    (tabular : ∀ source ∈ sources, source.Tabular part)
    (held : get? settings part = some (.table under)) :
    get? (settings.overlayAll sources) part =
      some (.table (Setting.ontoEntries under (sources.flatMap (·.entriesIn part)))) := by
  rw [overlayAll]
  induction sources generalizing settings under with
  | nil => simpa [Setting.ontoEntries] using held
  | cons source rest ih =>
    have first := get?_overlay_tabular (tabular source List.mem_cons_self) held
    rw [List.foldl_cons, List.flatMap_cons, Setting.ontoEntries_append]
    exact ih (fun source later => tabular source (List.mem_cons_of_mem _ later)) first

end Settings

end AccessRules
