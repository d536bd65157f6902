import AccessRules.Config.Configuration
import AccessRules.Config.Variables
import AccessRules.Proofs.Decimal.Numerals

/-!
The path that a variable's value names. A value that spells a truth value or a number names what is
written for it, so a value is kept as it is spelled only if it spells nothing of that kind, or
spells it as it is written. What is written for another spelling is a relative path, and so is the
spelling: they name different files in every directory.
-/

namespace AccessRules

namespace Path

theorem isAbsolute_eq_false {path : String} (slashless : '/' ∉ path.toList) :
    isAbsolute path = false := by
  rw [isAbsolute, beq_eq_false_iff_ne]
  exact fun first => slashless (List.mem_of_head? first)

theorem join_inj {path other : String} (relative : isAbsolute path = false)
    (otherRelative : isAbsolute other = false) (base : String) :
    join base path = join base other ↔ path = other := by
  rw [join, join, relative, otherRelative]
  split
  · rfl
  · split <;> simp [← String.toList_inj, String.toList_append]

end Path

theorem slash_notMem_toDigits (n : Nat) : '/' ∉ Nat.toDigits 10 n := fun listed => by
  cases Nat.isDigit_of_mem_toDigits (by decide) (by decide) listed

theorem slash_notMem_toString (i : Int) : '/' ∉ (toString i).toList := by
  rw [toList_toString]
  split <;> simp [slash_notMem_toDigits]

theorem Decimal.slash_notMem_positional (d : Decimal) : '/' ∉ d.positional := by
  have digits : '/' ∉ digitChars d.digits := slash_notMem_toDigits d.digits
  have parts : '/' ∉ d.positionalParts.1 ∧ '/' ∉ d.positionalParts.2 := by
    rw [positionalParts]
    split
    · simp [digits]
    · constructor
      · simp only [List.mem_append, not_or]
        exact ⟨fun listed => digits (List.mem_of_mem_take listed), by simp⟩
      · exact fun listed => digits (List.mem_of_mem_drop listed)
  rw [positional]
  split
  · rename_i whole same
    rw [same] at parts
    exact parts.1
  · rename_i whole fraction fractional same
    rw [same] at parts
    simp [parts]

theorem FloatValue.slash_notMem_text (x : FloatValue) : '/' ∉ x.text.toList := by
  cases x with
  | notANumber => decide
  | infinity negative => cases negative <;> decide
  | finite x =>
    have sign : '/' ∉ x.signChars := by
      rw [Binary64.signChars]
      split <;> simp
    simp [text, Binary64.positionalText, sign, x.shortest.slash_notMem_positional]

theorem FloatValue.ofChars?_slash (rest : List Char) : ofChars? ('/' :: rest) = none := by
  have lower : Char.toLower '/' = '/' := by decide
  have unnamed : unsigned? false ('/' :: rest) = none := rfl
  simp [ofChars?, named?, ← String.toList_inj, lower, unnamed]

namespace Variables

def IsWord (text : String) : Prop :=
  ∃ value : Bool, text.toList.map Char.toLower = (if value then "true" else "false").toList

/-- A text that a variable keeps as it is spelled. -/
inductive Kept : String → Prop where
  | word (value : Bool) : Kept (if value then "true" else "false")
  | integer {text : String} {i : Int} (noWord : ¬ IsWord text)
      (read : integerOfChars? text.toList = some i) (plain : PlainNumeral text.toList) : Kept text
  | float {text : String} {x : FloatValue} (noWord : ¬ IsWord text)
      (noInteger : integerOfChars? text.toList = none)
      (read : FloatValue.ofChars? text.toList = some x) (written : x.text = text) : Kept text
  | other {text : String} (noWord : ¬ IsWord text) (noInteger : integerOfChars? text.toList = none)
      (noFloat : FloatValue.ofChars? text.toList = none) : Kept text

/-- What a text spells, as it is read in a variable. -/
inductive Spells (text : String) : Setting → Prop where
  | word {value : Bool}
      (word : text.toList.map Char.toLower = (if value then "true" else "false").toList) :
      Spells text (.bool value)
  | integer {i : Int} (noWord : ¬ IsWord text) (read : integerOfChars? text.toList = some i) :
      Spells text (.integer i)
  | float {x : FloatValue} (noWord : ¬ IsWord text) (noInteger : integerOfChars? text.toList = none)
      (read : FloatValue.ofChars? text.toList = some x) : Spells text (.float x)
  | other (noWord : ¬ IsWord text) (noInteger : integerOfChars? text.toList = none)
      (noFloat : FloatValue.ofChars? text.toList = none) : Spells text (.text text)

theorem spells_settingOf (text : String) : Spells text (settingOf text) := by
  rw [settingOf]
  split
  · rename_i word
    exact .word word
  · split
    · rename_i word
      exact .word word
    · rename_i notTrue notFalse
      have noWord : ¬ IsWord text := by
        rintro ⟨value, word⟩
        cases value
        · exact notFalse word
        · exact notTrue word
      split
      · rename_i i read
        exact .integer noWord read
      · rename_i noInteger
        split
        · rename_i x read
          exact .float noWord noInteger read
        · rename_i noFloat
          exact .other noWord noInteger noFloat

theorem text?_settingOf (text : String) :
    ∃ path, Configuration.text? (settingOf text) = some path ∧ (path = text ↔ Kept text) := by
  have spells := spells_settingOf text
  generalize settingOf text = setting at spells
  cases spells with
  | @word value word =>
    refine ⟨_, rfl, fun same => same ▸ .word value, fun kept => ?_⟩
    cases kept with
    | word other => cases value <;> cases other <;> first | rfl | cases word
    | integer noWord | float noWord | other noWord => exact absurd ⟨value, word⟩ noWord
  | @integer i noWord read =>
    refine ⟨toString i, rfl, ?_⟩
    rw [(signedDigits_of_read read).eq_toString_iff]
    refine ⟨.integer noWord read, fun kept => ?_⟩
    cases kept with
    | word value => exact absurd ⟨value, by cases value <;> rfl⟩ noWord
    | integer _ _ plain => exact plain
    | float _ noInteger | other _ noInteger => cases read.symm.trans noInteger
  | @float x noWord noInteger read =>
    refine ⟨x.text, rfl, .float noWord noInteger read, fun kept => ?_⟩
    cases kept with
    | word value => exact absurd ⟨value, by cases value <;> rfl⟩ noWord
    | integer _ other => cases noInteger.symm.trans other
    | float _ _ other written =>
      cases read.symm.trans other
      exact written
    | other _ _ noFloat => cases read.symm.trans noFloat
  | other noWord noInteger noFloat =>
    exact ⟨text, rfl, iff_of_true rfl (.other noWord noInteger noFloat)⟩

theorem settingOf_of_absolute {text : String} (absolute : Path.isAbsolute text = true) :
    settingOf text = .text text := by
  obtain ⟨rest, named⟩ : ∃ rest, text.toList = '/' :: rest := by
    rw [Path.isAbsolute, beq_iff_eq] at absolute
    exact List.head?_eq_some_iff.mp absolute
  have spells := spells_settingOf text
  generalize settingOf text = setting at spells
  cases spells with
  | @word value word =>
    rw [named] at word
    cases value <;> cases word
  | integer _ read =>
    rw [named] at read
    cases read
  | float _ _ read =>
    rw [named, FloatValue.ofChars?_slash] at read
    cases read
  | other => rfl

/-- An absolute path stays as it is spelled, and what is written for another text is relative. -/
theorem isAbsolute_text?_settingOf {text path : String}
    (read : Configuration.text? (settingOf text) = some path) :
    Path.isAbsolute path = Path.isAbsolute text := by
  cases absolute : Path.isAbsolute text with
  | true =>
    rw [settingOf_of_absolute absolute] at read
    cases read
    exact absolute
  | false =>
    have spells := spells_settingOf text
    generalize settingOf text = setting at spells read
    cases spells with
    | @word value =>
      cases read
      cases value <;> decide
    | @integer i =>
      cases read
      exact Path.isAbsolute_eq_false (slash_notMem_toString i)
    | @float x =>
      cases read
      exact Path.isAbsolute_eq_false x.slash_notMem_text
    | other =>
      cases read
      exact absolute

theorem exists_named_path (text : String) :
    ∃ path, Configuration.text? (settingOf text) = some path ∧
      ∀ base, Path.join base path = Path.join base text ↔ Kept text := by
  obtain ⟨path, read, kept⟩ := text?_settingOf text
  refine ⟨path, read, fun base => ?_⟩
  rw [← kept]
  have alike := isAbsolute_text?_settingOf read
  cases absolute : Path.isAbsolute text with
  | true =>
    rw [Path.join_of_isAbsolute absolute, Path.join_of_isAbsolute (alike.trans absolute)]
  | false => exact Path.join_inj (alike.trans absolute) absolute base

end Variables

end AccessRules
