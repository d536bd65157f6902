import Mathlib
import AccessRules.Decimal.Reading

/-!
Numerals and what is written for the numbers that they spell. A numeral of an integer is what is
written for it exactly if it is plain: without a plus sign, without a zero in front of other digits,
and no negative zero.
-/

namespace AccessRules

theorem FloatValue.ofDigits_digitValues (digits : List Char) :
    FloatValue.ofDigits (FloatValue.digitValues digits) = Nat.ofDigitChars 10 digits 0 := by
  rw [FloatValue.ofDigits, FloatValue.digitValues, List.foldl_map, Nat.ofDigitChars_eq_foldl]
  simp only [Nat.mul_comm 10]

namespace Numeral

theorem range_of_isDigit {c : Char} (digit : c.isDigit = true) : 48 ≤ c.toNat ∧ c.toNat ≤ 57 := by
  simp only [Char.isDigit, Bool.and_eq_true, decide_eq_true_eq, ge_iff_le, UInt32.le_iff_toNat_le]
    at digit
  exact digit

theorem digitChar_digit {c : Char} (digit : c.isDigit = true) :
    c.toNat - '0'.toNat < 10 ∧ Nat.digitChar (c.toNat - '0'.toNat) = c := by
  obtain ⟨low, high⟩ := range_of_isDigit digit
  have zero : '0'.toNat = 48 := rfl
  obtain ⟨k, small, spelled⟩ : ∃ k, k < 10 ∧ c.toNat = 48 + k := ⟨c.toNat - 48, by omega, by omega⟩
  have same : c = Char.ofNat (48 + k) := by rw [← spelled, Char.ofNat_toNat]
  rw [zero, spelled, Nat.add_sub_cancel_left, same]
  refine ⟨small, ?_⟩
  clear * - small
  decide +revert

theorem ofDigitChars_lt {digits : List Char} (digit : ∀ c ∈ digits, c.isDigit = true)
    (start : Nat) : Nat.ofDigitChars 10 digits start < (start + 1) * 10 ^ digits.length := by
  induction digits generalizing start with
  | nil => simp
  | cons c digits ih =>
    have value := (digitChar_digit (digit c List.mem_cons_self)).1
    have rest := ih (fun d listed => digit d (List.mem_cons_of_mem _ listed))
      (10 * start + (c.toNat - '0'.toNat))
    rw [Nat.ofDigitChars_cons, List.length_cons, Nat.pow_succ]
    refine Nat.lt_of_lt_of_le rest ?_
    rw [Nat.mul_comm (10 ^ digits.length), ← Nat.mul_assoc]
    exact Nat.mul_le_mul_right _ (by omega)

/-- Digits after a positive number are the last digits of the number that all spell together. -/
theorem toDigits_append {digits : List Char} (digit : ∀ c ∈ digits, c.isDigit = true)
    {start : Nat} (positive : 0 < start) :
    Nat.toDigits 10 start ++ digits = Nat.toDigits 10 (Nat.ofDigitChars 10 digits start) := by
  induction digits generalizing start with
  | nil => simp
  | cons c digits ih =>
    obtain ⟨value, shown⟩ := digitChar_digit (digit c List.mem_cons_self)
    have further := ih (fun d listed => digit d (List.mem_cons_of_mem _ listed))
      (by omega : 0 < 10 * start + (c.toNat - '0'.toNat))
    have last := Nat.toDigits_append_toDigits (b := 10) (by decide) positive value
    rw [Nat.toDigits_of_lt_base value, shown] at last
    rw [Nat.ofDigitChars_cons, ← further, ← last, List.append_assoc, List.singleton_append]

theorem toDigits_eq_self_iff {digits : List Char} (digit : ∀ c ∈ digits, c.isDigit = true)
    (nonempty : digits ≠ []) : Nat.toDigits 10 (Nat.ofDigitChars 10 digits 0) = digits ↔
      digits = ['0'] ∨ digits.head? ≠ some '0' := by
  cases digits with
  | nil => exact absurd rfl nonempty
  | cons c digits =>
    have restDigit : ∀ d ∈ digits, d.isDigit = true :=
      fun d listed => digit d (List.mem_cons_of_mem _ listed)
    by_cases zero : c = '0'
    · subst zero
      have value : Nat.ofDigitChars 10 ('0' :: digits) 0 = Nat.ofDigitChars 10 digits 0 := rfl
      cases digits with
      | nil => decide
      | cons d digits =>
        have small := ofDigitChars_lt restDigit 0
        rw [Nat.zero_add, Nat.one_mul] at small
        have short := (Nat.length_toDigits_le_iff (by decide) (Nat.succ_pos _)).mpr small
        rw [value]
        constructor
        · intro same
          rw [same] at short
          exact absurd short (Nat.not_succ_le_self _)
        · simp
    · obtain ⟨value, shown⟩ := digitChar_digit (digit c List.mem_cons_self)
      have positive : 0 < c.toNat - '0'.toNat := by
        refine Nat.pos_of_ne_zero fun none => zero ?_
        rw [none] at shown
        exact shown.symm
      have written := toDigits_append restDigit positive
      rw [Nat.toDigits_of_lt_base value, shown, List.singleton_append] at written
      rw [Nat.ofDigitChars_cons, Nat.mul_zero, Nat.zero_add, ← written]
      simp [zero]

end Numeral

/-- How an integer is written: with a minus sign if it is negative, and with the fewest digits. -/
inductive PlainNumeral : List Char → Prop where
  | zero : PlainNumeral ['0']
  | positive {c : Char} {digits : List Char} (digit : c.isDigit = true) (nonzero : c ≠ '0') :
      PlainNumeral (c :: digits)
  | negative {c : Char} {digits : List Char} (nonzero : c ≠ '0') :
      PlainNumeral ('-' :: c :: digits)

inductive SignedDigits : List Char → Int → Prop where
  | bare {digits : List Char} (nonempty : digits ≠ []) (digit : ∀ c ∈ digits, c.isDigit = true) :
      SignedDigits digits (Nat.ofDigitChars 10 digits 0)
  | plus {digits : List Char} (nonempty : digits ≠ []) (digit : ∀ c ∈ digits, c.isDigit = true) :
      SignedDigits ('+' :: digits) (Nat.ofDigitChars 10 digits 0)
  | minus {digits : List Char} (nonempty : digits ≠ []) (digit : ∀ c ∈ digits, c.isDigit = true) :
      SignedDigits ('-' :: digits) (-Nat.ofDigitChars 10 digits 0)

theorem signedDigits_of_read {s : List Char} {i : Int} (read : integerOfChars? s = some i) :
    SignedDigits s i := by
  have after (negative : Bool) (digits : List Char)
      (read : (if digits.isEmpty || !digits.all Char.isDigit then none
        else
          let n := FloatValue.ofDigits (FloatValue.digitValues digits)
          let i : Int := if negative then -(n : Int) else n
          if -(Nat.pow 2 63 : Int) ≤ i ∧ i < Nat.pow 2 63 then some i else none) = some i) :
      digits ≠ [] ∧ (∀ c ∈ digits, c.isDigit = true) ∧ i = if negative then
        -(Nat.ofDigitChars 10 digits 0 : Int) else Nat.ofDigitChars 10 digits 0 := by
    split at read
    · cases read
    · rename_i digit
      simp only [Bool.or_eq_true, List.isEmpty_iff, Bool.not_eq_true', not_or, Bool.not_eq_false,
        List.all_eq_true] at digit
      rw [FloatValue.ofDigits_digitValues] at read
      simp only [Option.ite_none_right_eq_some, Option.some.injEq] at read
      exact ⟨digit.1, digit.2, read.2.symm⟩
  by_cases minus : ∃ digits, s = '-' :: digits
  · obtain ⟨digits, rfl⟩ := minus
    rw [integerOfChars?] at read
    obtain ⟨nonempty, digit, rfl⟩ := after true digits read
    exact .minus nonempty digit
  · by_cases plus : ∃ digits, s = '+' :: digits
    · obtain ⟨digits, rfl⟩ := plus
      rw [integerOfChars?] at read
      obtain ⟨nonempty, digit, rfl⟩ := after false digits read
      exact .plus nonempty digit
    · rw [integerOfChars?] at read
      · obtain ⟨nonempty, digit, rfl⟩ := after false s read
        exact .bare nonempty digit
      · exact fun digits same => minus ⟨digits, same⟩
      · exact fun digits same => plus ⟨digits, same⟩

theorem toList_toString (i : Int) : (toString i).toList =
    if i < 0 then '-' :: Nat.toDigits 10 i.natAbs else Nat.toDigits 10 i.natAbs := by
  rw [Int.toString_eq_repr, Int.repr_eq_if]
  split
  · rename_i natural
    rw [if_neg (by omega), Nat.repr_eq_ofList_toDigits, String.toList_ofList]
    congr 1
    omega
  · rename_i negative
    have size : (-i).toNat = i.natAbs := by omega
    rw [if_pos (by omega), Nat.repr_eq_ofList_toDigits, size, String.toList_append,
      String.toList_ofList, String.toList_ofList, List.singleton_append]

theorem plainNumeral_digits_iff {digits : List Char} (nonempty : digits ≠ [])
    (digit : ∀ c ∈ digits, c.isDigit = true) :
    PlainNumeral digits ↔ digits = ['0'] ∨ digits.head? ≠ some '0' := by
  constructor
  · intro plain
    cases plain with
    | zero => exact .inl rfl
    | positive digit nonzero => exact .inr (by simpa using nonzero)
    | negative nonzero => cases digit '-' List.mem_cons_self
  · rintro (rfl | nonzero)
    · exact .zero
    · cases digits with
      | nil => exact absurd rfl nonempty
      | cons c digits =>
        exact .positive (digit c List.mem_cons_self) (by simpa using nonzero)

theorem plainNumeral_minus_iff {digits : List Char} (nonempty : digits ≠ []) :
    PlainNumeral ('-' :: digits) ↔ digits.head? ≠ some '0' := by
  cases digits with
  | nil => exact absurd rfl nonempty
  | cons c digits =>
    constructor
    · intro plain
      cases plain with
      | positive digit nonzero => cases digit
      | negative nonzero => simpa using nonzero
    · intro nonzero
      exact .negative (by simpa using nonzero)

/-- An integer is written as it is spelled exactly if the spelling is plain. -/
theorem SignedDigits.eq_toString_iff {s : String} {i : Int} (spelled : SignedDigits s.toList i) :
    toString i = s ↔ PlainNumeral s.toList := by
  rw [← String.toList_inj, toList_toString]
  generalize s.toList = chars at spelled ⊢
  cases spelled with
  | bare nonempty digit =>
    rw [if_neg (by omega), Int.natAbs_natCast, Numeral.toDigits_eq_self_iff digit nonempty,
      plainNumeral_digits_iff nonempty digit]
  | @plus digits nonempty digit =>
    rw [if_neg (by omega), Int.natAbs_natCast]
    constructor
    · intro same
      have signed : '+' ∈ Nat.toDigits 10 (Nat.ofDigitChars 10 digits 0) := by
        rw [same]
        exact List.mem_cons_self
      cases Nat.isDigit_of_mem_toDigits (by decide) (by decide) signed
    · intro plain
      cases plain with
      | positive digit nonzero => cases digit
  | @minus digits nonempty digit =>
    rw [Int.natAbs_neg, Int.natAbs_natCast, plainNumeral_minus_iff nonempty]
    split
    · rename_i negative
      rw [List.cons.injEq, and_iff_right rfl, Numeral.toDigits_eq_self_iff digit nonempty,
        or_iff_right]
      rintro rfl
      exact absurd negative (by decide)
    · -- A negative zero is written without its sign.
      rename_i natural
      have zero : Nat.ofDigitChars 10 digits 0 = 0 := by omega
      rw [zero]
      refine iff_of_false (by simp) fun nonzero => ?_
      have same := (Numeral.toDigits_eq_self_iff digit nonempty).mpr (.inr nonzero)
      rw [zero] at same
      exact nonzero (by rw [← same]; rfl)

end AccessRules
