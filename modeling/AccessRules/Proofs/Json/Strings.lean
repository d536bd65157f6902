import AccessRules.Json.Reader
import AccessRules.Json.Writer

/-!
Strings as they are written and read. Whatever characters a string has, its text in quotes is read
to the end, and the units that are read come to the string; so does the text of an object with one
text in it.
-/

namespace AccessRules

namespace Source

theorem number?_control {n : Nat} (control : n < 32) :
    Hex.number? ['0', '0', Hex.lower (n / 16), Hex.lower (n % 16)] = some n := by
  revert control
  decide +revert

theorem decode_codeUnit {n : Nat} (control : n < 32) (units : List StringUnit) :
    StringUnit.decode (.codeUnit n :: units) =
      (StringUnit.decode units).map (Char.ofNat n :: ·) := by
  have high : StringUnit.isHighSurrogate n = false := by
    simp only [StringUnit.isHighSurrogate, Bool.and_eq_false_iff, decide_eq_false_iff_not]
    omega
  have low : StringUnit.isLowSurrogate n = false := by
    simp only [StringUnit.isLowSurrogate, Bool.and_eq_false_iff, decide_eq_false_iff_not]
    omega
  rw [StringUnit.decode.eq_def]
  simp only [high, low, Bool.false_eq_true, if_false]

def shortlyEscaped : List Char := ['"', '\\', '\n', '\r', '\t', '\x08', '\x0c']

theorem escapeChar_of_not_short {c : Char} (other : c ∉ shortlyEscaped) : Json.escapeChar c =
    if c.toNat < 32 then ['\\', 'u', '0', '0', Hex.lower (c.toNat / 16), Hex.lower (c.toNat % 16)]
    else [c] := by
  rw [Json.escapeChar.eq_8] <;> rintro rfl <;> exact other (by decide)

/-- What stands for a character is read as one unit, which means the character. -/
theorem stringUnits?_escapeChar (c : Char) : ∃ unit : StringUnit,
    (∀ rest, stringUnits? (Json.escapeChar c ++ rest) = consUnit unit (stringUnits? rest)) ∧
      ∀ units, StringUnit.decode (unit :: units) = (StringUnit.decode units).map (c :: ·) := by
  by_cases short : c ∈ shortlyEscaped
  · simp only [shortlyEscaped, List.mem_cons, List.not_mem_nil, or_false] at short
    rcases short with rfl | rfl | rfl | rfl | rfl | rfl | rfl <;>
      exact ⟨.char _, fun rest => rfl, fun units => rfl⟩
  · rw [escapeChar_of_not_short short]
    split
    · rename_i control
      refine ⟨.codeUnit c.toNat, fun rest => ?_, fun units => ?_⟩
      · simp only [List.cons_append, List.nil_append, stringUnits?, number?_control control]
      · rw [decode_codeUnit control, Char.ofNat_toNat]
    · rename_i visible
      have quote : c ≠ '"' := fun same => short (by rw [same]; decide)
      have backslash : c ≠ '\\' := fun same => short (by rw [same]; decide)
      refine ⟨.char c, fun rest => ?_, fun units => rfl⟩
      rw [List.singleton_append, stringUnits?.eq_5, if_neg (by simp [visible, backslash])]
      · exact quote
      · exact fun _ _ _ _ _ same => absurd same backslash
      · exact fun _ _ same => absurd same backslash

/-- A string in quotes is read back, whatever follows. -/
theorem stringUnits?_quoted (s rest : List Char) : ∃ units,
    stringUnits? (s.flatMap Json.escapeChar ++ '"' :: rest) = some (units, rest) ∧
      StringUnit.decode units = some s := by
  induction s with
  | nil => exact ⟨[], rfl, rfl⟩
  | cons c s ih =>
    obtain ⟨units, read, decoded⟩ := ih
    obtain ⟨unit, first, means⟩ := stringUnits?_escapeChar c
    refine ⟨unit :: units, ?_, ?_⟩
    · rw [List.flatMap_cons, List.append_assoc, first, read]
      rfl
    · rw [means, decoded]
      rfl

theorem ofText?_single (name value : String) : ∃ nameUnits units,
    ofText? (Json.text (.obj [(name, .str value)])) = some (.obj [(nameUnits, .str units)]) ∧
      StringUnit.decodeString nameUnits = some name ∧
      StringUnit.decodeString units = some value := by
  obtain ⟨units, readValue, means⟩ := stringUnits?_quoted value.toList ['\x7d']
  obtain ⟨nameUnits, readName, named⟩ := stringUnits?_quoted name.toList
    (':' :: '"' :: (value.toList.flatMap Json.escapeChar ++ ['"', '\x7d']))
  refine ⟨nameUnits, units, ?_, by simp [StringUnit.decodeString, named],
    by simp [StringUnit.decodeString, means]⟩
  have written : (Json.text (.obj [(name, .str value)])).toList = '\x7b' :: '"' ::
      (name.toList.flatMap Json.escapeChar ++ '"' :: ':' :: '"' ::
        (value.toList.flatMap Json.escapeChar ++ ['"', '\x7d'])) := by
    simp [Json.text, Json.fieldTexts, Json.quoted]
  obtain ⟨fuel, enough⟩ : ∃ fuel, 2 * (Json.text (.obj [(name, .str value)])).toList.length + 2 =
      fuel + 3 := by
    rw [written, List.length_cons]
    exact ⟨_, by rw [Nat.mul_succ, Nat.add_assoc]⟩
  rw [ofText?, enough, written]
  simp [valueAt?, fieldsAt?, fieldName?, skipBlanks, isBlank, readName, readValue]

end Source

end AccessRules
