import AccessRules.Proofs.Toml.Strings
import AccessRules.Toml.Reader

/-!
Documents that are read line by line. A line that is blank, opens a table or gives a value to a bare
name is read in one step, whatever lines come behind it, so a document of such lines is read as the
run of their steps.
-/

namespace AccessRules

namespace Toml

open Text (isInlineBlank)

theorem ne_of_bare {c d : Char} (bare : isBareKeyChar c = true) (other : isBareKeyChar d = false) :
    c ≠ d := by
  rintro rfl
  cases bare.symm.trans other

structure BareName where
  key : String
  named : key.toList ≠ []
  bare : key.toList.all isBareKeyChar = true

namespace BareName

def chars (name : BareName) : List Char := name.key.toList

theorem isBareKeyChar_of_mem (name : BareName) : ∀ c ∈ name.chars, isBareKeyChar c = true :=
  List.all_eq_true.mp name.bare

theorem exists_cons (name : BareName) :
    ∃ c tail, name.chars = c :: tail ∧ isBareKeyChar c = true := by
  obtain ⟨c, tail, spelled⟩ := List.exists_cons_of_ne_nil name.named
  refine ⟨c, tail, spelled, name.isBareKeyChar_of_mem c ?_⟩
  rw [chars, spelled]
  exact List.mem_cons_self

theorem append_ne (name : BareName) {d : Char} (other : isBareKeyChar d = false)
    (rest after : List Char) : name.chars ++ rest ≠ d :: after := by
  obtain ⟨c, tail, spelled, bare⟩ := name.exists_cons
  rw [spelled]
  exact fun same => ne_of_bare bare other (List.cons.inj same).1

end BareName

theorem skipInline_cons {c : Char} (visible : isInlineBlank c = false) (rest : List Char) :
    skipInline (c :: rest) = c :: rest := by
  simp [skipInline, visible]

theorem isInlineBlank_of_bare {c : Char} (bare : isBareKeyChar c = true) :
    isInlineBlank c = false := by
  have noSpace : c ≠ ' ' := ne_of_bare bare (by decide)
  have noTab : c ≠ '\t' := ne_of_bare bare (by decide)
  simp [isInlineBlank, noSpace, noTab]

theorem keyName?_bare (name : BareName) {d : Char} (ends : isBareKeyChar d = false)
    (rest : List Char) : keyName? (name.chars ++ d :: rest) = some (name.key, d :: rest) := by
  have stop : ¬ isBareKeyChar d = true := by simp [ends]
  have taken : (name.chars ++ d :: rest).takeWhile isBareKeyChar = name.chars := by
    rw [List.takeWhile_append_of_pos name.isBareKeyChar_of_mem, List.takeWhile_cons_of_neg stop,
      List.append_nil]
  have left : (name.chars ++ d :: rest).dropWhile isBareKeyChar = d :: rest := by
    rw [List.dropWhile_append_of_pos name.isBareKeyChar_of_mem, List.dropWhile_cons_of_neg stop]
  rw [keyName?.eq_3, taken, left]
  · obtain ⟨c, tail, spelled, -⟩ := name.exists_cons
    simp only [spelled]
    rw [← spelled, BareName.chars, String.ofList_toList]
  · exact fun after => name.append_ne (by decide) _ after
  · exact fun after => name.append_ne (by decide) _ after

theorem skipInline_bare (name : BareName) (rest : List Char) :
    skipInline (name.chars ++ rest) = name.chars ++ rest := by
  obtain ⟨c, tail, spelled, bare⟩ := name.exists_cons
  rw [spelled, List.cons_append, skipInline_cons (isInlineBlank_of_bare bare)]

theorem key?_bare (name : BareName) {d e : Char} {rest after : List Char}
    (ends : isBareKeyChar d = false) (skipped : skipInline (d :: rest) = e :: after)
    (noDot : e ≠ '.') : key? (name.chars ++ d :: rest) = some ([name.key], e :: after) := by
  change names? (79 + 1) _ = _
  rw [names?, skipInline_bare, keyName?_bare name ends, Option.bind_eq_bind, Option.bind_some]
  simp only [skipped]
  split
  · rename_i dotted
    exact absurd (List.cons.inj dotted).1 noDot
  · rfl

/-- A text that is read as a value in front of the end of a line. -/
structure ReadsAs (text : List Char) (value : Setting) : Prop where
  visible : ∃ c tail, text = c :: tail ∧ isInlineBlank c = false
  read (fuel depth : Nat) (rest : List Char) :
    value? (fuel + 1) depth (text ++ '\n' :: rest) = some (value, '\n' :: rest)

theorem readsAs_bool (value : Bool) :
    ReadsAs (if value then "true" else "false").toList (.bool value) := by
  cases value
  · exact ⟨⟨'f', ['a', 'l', 's', 'e'], by decide, by decide⟩, fun fuel depth rest => rfl⟩
  · exact ⟨⟨'t', ['r', 'u', 'e'], by decide, by decide⟩, fun fuel depth rest => rfl⟩

theorem readsAs_encode (s : List Char) : ReadsAs (Text.encode s) (.text (String.ofList s)) := by
  obtain ⟨style, tail, spelled⟩ := (Text.spelling_encode s).exists_cons
  constructor
  · refine ⟨style.quote, tail, spelled, ?_⟩
    obtain ⟨_ | _, _⟩ := style <;> rfl
  · intro fuel depth rest
    have read := Text.read_encode s ('\n' :: rest) (by
      rintro ⟨_ | _, _⟩ <;> simp [Text.Style.quote])
    rw [spelled] at read ⊢
    obtain ⟨_ | _, _⟩ := style
    · exact (value?.eq_3 ..).trans (congrArg (Option.map _) read)
    · exact (value?.eq_2 ..).trans (congrArg (Option.map _) read)

inductive Line where
  | blank
  | header (name : BareName)
  | pair (name : BareName) (text : List Char) (value : Setting) (spelled : ReadsAs text value)

namespace Line

def text : Line → List Char
  | blank => ['\n']
  | header name => '[' :: (name.chars ++ [']', '\n'])
  | pair name text _ _ => name.chars ++ ([' ', '=', ' '] ++ (text ++ ['\n']))

def take (reading : Reading) : Line → Option Reading
  | blank => some reading
  | header name =>
    (reading.entries.changeHeader Entries.openTable [name.key]).map fun entries =>
      ⟨entries, [name.key]⟩
  | pair name _ value _ =>
    (reading.entries.changeAt (fun table => table.setNew value [name.key]) reading.table).map
      fun entries => ⟨entries, reading.table⟩

end Line

theorem lines?_visible {c : Char} {s : List Char} (visible : isInlineBlank c = false)
    (noLine : c ∉ ['\n', '\r', '#']) (fuel : Nat) (reading : Reading) :
    lines? (fuel + 1) reading (c :: s) =
      (line? reading (c :: s)).bind fun (reading, rest) => lines? fuel reading rest := by
  rw [lines?, skipInline_cons visible]
  split <;> simp_all

theorem line?_header (name : BareName) (reading : Reading) (rest : List Char) :
    line? reading ('[' :: (name.chars ++ ']' :: '\n' :: rest)) =
      ((Line.header name).take reading).map fun reading => (reading, rest) := by
  have path : headerPath? (name.chars ++ ']' :: '\n' :: rest) =
      some ([name.key], '\n' :: rest) := by
    rw [headerPath?, key?_bare name (by decide) (skipInline_cons (by decide) _) (by decide)]
    rfl
  have ended : endOfLine? ('\n' :: rest) = some rest := rfl
  rw [line?.eq_2, path]
  · simp only [Option.bind_eq_bind, Option.bind_some, ended, Line.take]
    cases Entries.changeHeader Entries.openTable reading.entries [name.key] <;> rfl
  · exact fun after => name.append_ne (by decide) _ after

theorem line?_pair (name : BareName) {text : List Char} {value : Setting}
    (spelled : ReadsAs text value) (reading : Reading) (rest : List Char) :
    line? reading (name.chars ++ ' ' :: '=' :: ' ' :: (text ++ '\n' :: rest)) =
      ((Line.pair name text value spelled).take reading).map fun reading => (reading, rest) := by
  have ended : endOfLine? ('\n' :: rest) = some rest := rfl
  have gap : skipInline (' ' :: (text ++ '\n' :: rest)) = text ++ '\n' :: rest := by
    obtain ⟨c, tail, rfl, visible⟩ := spelled.visible
    exact skipInline_cons visible _
  rw [line?.eq_3, key?_bare name (e := '=') (by decide) rfl (by decide)]
  · simp only [Option.bind_eq_bind, Option.bind_some, gap, spelled.read, ended, Line.take]
    cases Entries.changeAt (fun table => table.setNew value [name.key]) reading.entries
      reading.table <;> rfl
  · exact fun after => name.append_ne (by decide) _ _
  · exact fun after => name.append_ne (by decide) _ _

theorem lines?_line (line : Line) (fuel : Nat) (reading : Reading) (rest : List Char) :
    lines? (fuel + 1) reading (line.text ++ rest) =
      (line.take reading).bind fun reading => lines? fuel reading rest := by
  cases line with
  | blank => rfl
  | header name =>
    rw [Line.text, List.cons_append, lines?_visible (by decide) (by decide), List.append_assoc,
      List.cons_append, List.singleton_append, line?_header]
    cases (Line.header name).take reading <;> rfl
  | pair name text value spelled =>
    obtain ⟨c, tail, begins, bare⟩ := name.exists_cons
    have read := line?_pair name spelled reading rest
    have noNewline : c ≠ '\n' := ne_of_bare bare (by decide)
    have noReturn : c ≠ '\r' := ne_of_bare bare (by decide)
    have noComment : c ≠ '#' := ne_of_bare bare (by decide)
    rw [begins, List.cons_append] at read
    rw [Line.text, begins, List.cons_append, List.cons_append,
      lines?_visible (isInlineBlank_of_bare bare) (by simp [noNewline, noReturn, noComment])]
    simp only [List.append_assoc, List.cons_append, List.nil_append]
    rw [read]
    cases (Line.pair name text value spelled).take reading <;> rfl

theorem lines?_lines (lines : List Line) (fuel : Nat) (reading : Reading) :
    lines? (fuel + (lines.length + 1)) reading (lines.flatMap Line.text) =
      (lines.foldlM Line.take reading).map Reading.entries := by
  induction lines generalizing reading with
  | nil => rfl
  | cons line lines ih =>
    rw [List.length_cons, ← Nat.add_assoc, List.flatMap_cons, lines?_line, List.foldlM_cons,
      Option.bind_eq_bind]
    cases line.take reading with
    | none => rfl
    | some reading => exact ih reading

theorem Line.exists_cons (line : Line) :
    ∃ c tail, line.text = c :: tail ∧ c ≠ '\ufeff' := by
  cases line with
  | blank => exact ⟨'\n', [], rfl, by decide⟩
  | header name => exact ⟨'[', _, rfl, by decide⟩
  | pair name =>
    obtain ⟨c, tail, begins, bare⟩ := name.exists_cons
    exact ⟨c, _, by rw [Line.text, begins, List.cons_append], ne_of_bare bare (by decide)⟩

theorem length_le_length_text (lines : List Line) :
    lines.length ≤ (lines.flatMap Line.text).length := by
  induction lines with
  | nil => exact Nat.le_refl 0
  | cons line lines ih =>
    obtain ⟨c, tail, begins, -⟩ := line.exists_cons
    simp only [List.flatMap_cons, List.length_append, List.length_cons, begins]
    omega

theorem skipMark_lines (lines : List Line) :
    skipMark (lines.flatMap Line.text) = lines.flatMap Line.text := by
  rw [skipMark.eq_2]
  rintro rest same
  cases lines with
  | nil => cases same
  | cons line lines =>
    obtain ⟨c, tail, begins, noMark⟩ := line.exists_cons
    rw [List.flatMap_cons, begins] at same
    exact noMark (List.cons.inj same).1

theorem ofText?_lines (lines : List Line) :
    ofText? (String.ofList (lines.flatMap Line.text)) =
      (lines.foldlM Line.take ⟨[], []⟩).map fun reading => settingsOf reading.entries := by
  obtain ⟨fuel, enough⟩ : ∃ fuel,
      (lines.flatMap Line.text).length + 2 = fuel + (lines.length + 1) := by
    have bound := length_le_length_text lines
    exact ⟨(lines.flatMap Line.text).length + 1 - lines.length, by omega⟩
  rw [ofText?, String.toList_ofList, skipMark_lines, enough, lines?_lines, Option.map_map]
  rfl

end Toml

end AccessRules
