import Mathlib
import AccessRules.Calendar.Reader
import AccessRules.Proofs.Decimal.Numerals

/-!
Numbers in the text of an instant. What is written for a number, zeros in front included, spells it;
and digits that spell a number are read as that number, if the reader's limit or the next character
ends them. So it is with years, which may have a sign, and with fields of two digits.
-/

namespace AccessRules

namespace Timestamp

structure Spells (digits : List Char) (n : Nat) : Prop where
  nonempty : digits ≠ []
  digit : ∀ c ∈ digits, c.isDigit = true
  value : Nat.ofDigitChars 10 digits 0 = n

theorem numberOf_eq (digits : List Char) : numberOf digits = Nat.ofDigitChars 10 digits 0 := by
  rw [numberOf, Nat.ofDigitChars]
  simp only [Nat.mul_comm 10]

theorem spells_padded (width n : Nat) : Spells (padded width n) n where
  nonempty := by
    have := Nat.length_toDigits_pos (b := 10) (n := n)
    simp [padded, ← List.length_eq_zero_iff]
    omega
  digit c listed := by
    rw [padded, List.mem_append] at listed
    rcases listed with zero | digit
    · rw [List.eq_of_mem_replicate zero]
      rfl
    · exact Nat.isDigit_of_mem_toDigits (by decide) (by decide) digit
  value := by
    rw [padded, Nat.ofDigitChars_append, Nat.ofDigitChars_replicate_zero, Nat.mul_zero,
      Nat.ofDigitChars_toDigits (by decide) (by decide)]

theorem width_le_length_padded (width n : Nat) : width ≤ (padded width n).length := by
  simp only [padded, List.length_append, List.length_replicate]
  omega

theorem length_padded {width n : Nat} (positive : 0 < width) (fits : n < 10 ^ width) :
    (padded width n).length = width := by
  have := (Nat.length_toDigits_le_iff (b := 10) (by decide) positive).mpr fits
  simp only [padded, List.length_append, List.length_replicate]
  omega

def NoDigit (rest : List Char) : Prop :=
  ∀ c ∈ rest.head?, c.isDigit = false

theorem takeWhile_digits {digits rest : List Char} (digit : ∀ c ∈ digits, c.isDigit = true)
    (ends : NoDigit rest) : (digits ++ rest).takeWhile Char.isDigit = digits := by
  rw [List.takeWhile_append_of_pos digit]
  cases rest with
  | nil => simp
  | cons c rest => simp [ends c rfl]

theorem digitsUpTo_append {most : Nat} {digits rest : List Char}
    (digit : ∀ c ∈ digits, c.isDigit = true) (fits : digits.length ≤ most)
    (ends : digits.length = most ∨ NoDigit rest) :
    digitsUpTo most (digits ++ rest) = (digits, rest) := by
  have taken : ((digits ++ rest).take most).takeWhile Char.isDigit = digits := by
    rw [List.take_append, List.take_of_length_le fits]
    rcases ends with full | ends
    · rw [full, Nat.sub_self, List.take_zero]
      exact takeWhile_digits digit (by simp [NoDigit])
    · refine takeWhile_digits digit fun c first => ends c ?_
      cases rest with
      | nil => simp at first
      | cons d rest =>
        cases room : most - digits.length with
        | zero => simp [room] at first
        | succ k => simpa [room] using first
  rw [digitsUpTo, taken, List.drop_left]

theorem Spells.number? {most n : Nat} {digits rest : List Char} (spelled : Spells digits n)
    (fits : digits.length ≤ most) (ends : digits.length = most ∨ NoDigit rest) :
    number? most (digits ++ rest) = some (n, rest) := by
  rw [Timestamp.number?, digitsUpTo_append spelled.digit fits ends]
  split
  · rename_i none
    exact absurd (Prod.mk.inj none).1 spelled.nonempty
  · rename_i found
    obtain ⟨rfl, rfl⟩ := Prod.mk.inj found
    rw [numberOf_eq, spelled.value]

def TwoDigits (digits : List Char) (n : Nat) : Prop :=
  digits.length = 2 ∧ Spells digits n

theorem twoDigits_padded {n : Nat} (small : n < 100) : TwoDigits (padded 2 n) n :=
  ⟨length_padded (by decide) small, spells_padded 2 n⟩

/-- A year in four digits, or with its sign in four digits or more. -/
inductive WritesYear : List Char → Int → Prop where
  | plain {digits : List Char} {n : Nat} (four : digits.length = 4) (spelled : Spells digits n) :
      WritesYear digits n
  | later {digits : List Char} {n : Nat} (large : 9999 < n) (spelled : Spells digits n) :
      WritesYear ('+' :: digits) n
  | earlier {digits : List Char} {n : Nat} (four : 4 ≤ digits.length) (positive : 0 < n)
      (spelled : Spells digits n) : WritesYear ('-' :: digits) (-n)

theorem writesYear_yearChars (year : Int) : WritesYear (yearChars year) year := by
  have spelled := spells_padded 4 year.natAbs
  rw [yearChars]
  split
  · obtain ⟨n, rfl⟩ : ∃ n : Nat, year = n := ⟨year.natAbs, by omega⟩
    exact .plain (length_padded (by decide) (by omega)) spelled
  · split
    · obtain ⟨n, rfl⟩ : ∃ n : Nat, year = -n := ⟨year.natAbs, by omega⟩
      rw [Int.natAbs_neg, Int.natAbs_natCast] at spelled ⊢
      exact .earlier (width_le_length_padded 4 n) (by omega) spelled
    · obtain ⟨n, rfl⟩ : ∃ n : Nat, year = n := ⟨year.natAbs, by omega⟩
      exact .later (by omega) spelled

theorem isUnicodeBlank_of_isDigit {c : Char} (digit : c.isDigit = true) :
    isUnicodeBlank c = false := by
  obtain ⟨low, high⟩ := Numeral.range_of_isDigit digit
  simp [isUnicodeBlank]
  omega

theorem trimStart_cons {c : Char} (visible : isUnicodeBlank c = false) (rest : List Char) :
    trimStart (c :: rest) = c :: rest := by
  simp [trimStart, visible]

theorem trimStart_digits {digits : List Char} {n : Nat} (spelled : Spells digits n)
    (rest : List Char) : trimStart (digits ++ rest) = digits ++ rest := by
  cases digits with
  | nil => exact absurd rfl spelled.nonempty
  | cons c digits =>
    exact trimStart_cons (isUnicodeBlank_of_isDigit (spelled.digit c List.mem_cons_self)) _

theorem TwoDigits.field? {digits : List Char} {n : Nat} (written : TwoDigits digits n)
    (rest : List Char) : field? (digits ++ rest) = some (n, rest) := by
  obtain ⟨two, spelled⟩ := written
  rw [Timestamp.field?, trimStart_digits spelled]
  exact spelled.number? two.le (.inl two)

theorem separator?_cons {c : Char} (visible : isUnicodeBlank c = false) (rest : List Char) :
    separator? c (c :: rest) = some rest := by
  simp [separator?, trimStart_cons visible]

theorem WritesYear.year? {chars : List Char} {year : Int} (written : WritesYear chars year)
    {rest : List Char} (ends : NoDigit rest) : year? (chars ++ rest) = some (year, rest) := by
  cases written with
  | @plain _ n four spelled =>
    have read : number? 4 (chars ++ rest) = some (n, rest) := spelled.number? four.le (.inl four)
    rw [Timestamp.year?, trimStart_digits spelled]
    cases chars with
    | nil => cases four
    | cons c digits =>
      have digit := spelled.digit c List.mem_cons_self
      rw [List.cons_append] at read ⊢
      split
      · rename_i same
        cases same
        cases digit
      · rename_i same
        cases same
        cases digit
      · rw [read]
        rfl
  | @later digits n large spelled =>
    have read : number? (digits ++ rest).length (digits ++ rest) = some (n, rest) :=
      spelled.number? (by simp) (.inr ends)
    rw [Timestamp.year?, List.cons_append, trimStart_cons (by decide)]
    exact congrArg (Option.map fun found : Nat × List Char => ((found.1 : Int), found.2)) read
  | @earlier digits n four positive spelled =>
    have read : number? (digits ++ rest).length (digits ++ rest) = some (n, rest) :=
      spelled.number? (by simp) (.inr ends)
    rw [Timestamp.year?, List.cons_append, trimStart_cons (by decide)]
    exact congrArg (Option.map fun found : Nat × List Char => (-(found.1 : Int), found.2)) read

theorem bind_found {α β : Type} {read : Option α} {found : α} (reads : read = some found)
    (next : α → Option β) : (read >>= next) = next found := by
  rw [reads]
  rfl

end Timestamp

end AccessRules
