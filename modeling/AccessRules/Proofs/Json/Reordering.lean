import AccessRules.Proofs.Json.Fields

/-!
Values that differ only in the order of fields. They have the same under every name and at every
place. Where no name comes twice, two objects that have the same under every name are such values.
-/

namespace AccessRules

section Related

variable {α β : Type} {related : α → β → Prop} {first : Option α} {second : Option β}

theorem exists_of_related (both : Option.Rel related first second) {value : α}
    (found : first = some value) : ∃ other, second = some other ∧ related value other := by
  subst found
  cases both with
  | some here => exact ⟨_, rfl, here⟩

theorem none_iff_of_related (both : Option.Rel related first second) :
    first = none ↔ second = none := by
  cases both <;> simp

theorem or_related {third : Option α} {fourth : Option β} (both : Option.Rel related first second)
    (others : Option.Rel related third fourth) :
    Option.Rel related (first.or third) (second.or fourth) := by
  cases both with
  | some here => exact .some here
  | none => exact others

/-- What is asked of everything that is found comes to the same on both sides, if it does for each
pair. -/
theorem forall_iff_of_related {κ : Type} {first : κ → Option α} {second : κ → Option β}
    (both : ∀ k, Option.Rel related (first k) (second k)) {asked : κ → α → Prop}
    {answered : κ → β → Prop} (each : ∀ k value other, first k = some value →
      second k = some other → related value other → (asked k value ↔ answered k other)) :
    (∀ k value, first k = some value → asked k value) ↔
      ∀ k other, second k = some other → answered k other := by
  refine forall_congr' fun k => ?_
  cases here : first k with
  | none => simp [(none_iff_of_related (both k)).mp here]
  | some value =>
    obtain ⟨other, there, here'⟩ := exists_of_related (both k) here
    simpa [there] using each k value other here there here'

end Related

/-- The values differ in nothing but the order of fields, at any depth. -/
inductive Reordered : Json → Json → Prop where
  | null : Reordered .null .null
  | bool (value : Bool) : Reordered (.bool value) (.bool value)
  | num (value : Number) : Reordered (.num value) (.num value)
  | str (value : String) : Reordered (.str value) (.str value)
  | arr {items others : List Json} (length : items.length = others.length)
      (each : ∀ (i : Nat) item other, items[i]? = some item → others[i]? = some other →
        Reordered item other) : Reordered (.arr items) (.arr others)
  | obj {fields others : Fields} (names : (fields.map (·.1)).Perm (others.map (·.1)))
      (each : ∀ name value other, fields.get? name = some value → others.get? name = some other →
        Reordered value other) : Reordered (.obj fields) (.obj others)

namespace Reordered

theorem refl (value : Json) : Reordered value value := by
  induction size : sizeOf value using Nat.strongRecOn generalizing value with
  | ind size ih =>
    cases value with
    | null => exact .null
    | bool value => exact .bool value
    | num value => exact .num value
    | str value => exact .str value
    | arr items =>
      refine .arr rfl fun i item other found again => ?_
      cases Option.some.inj (found.symm.trans again)
      have smaller := Json.sizeOf_item_lt (List.mem_of_getElem? found)
      exact ih (sizeOf item) (size ▸ smaller) item rfl
    | obj fields =>
      refine .obj (List.Perm.refl _) fun name value other found again => ?_
      cases Option.some.inj (found.symm.trans again)
      have smaller := Json.sizeOf_member_lt (Fields.mem_of_get? found)
      exact ih (sizeOf value) (size ▸ smaller) value rfl

theorem symm {first second : Json} (same : Reordered first second) : Reordered second first := by
  induction same with
  | null => exact .null
  | bool value => exact .bool value
  | num value => exact .num value
  | str value => exact .str value
  | arr length each ih =>
    exact .arr length.symm fun i item other found there => ih i _ _ there found
  | obj names each ih =>
    exact .obj names.symm fun name value other found there => ih name _ _ there found

theorem map_items {items others : List Json} (change : Json → Json)
    (length : items.length = others.length)
    (each : ∀ (i : Nat) item other, items[i]? = some item → others[i]? = some other →
      Reordered (change item) (change other)) :
    Reordered (.arr (items.map change)) (.arr (others.map change)) := by
  refine .arr (by simp [length]) fun i item other here there => ?_
  rw [List.getElem?_map, Option.map_eq_some_iff] at here there
  obtain ⟨old, found, rfl⟩ := here
  obtain ⟨otherOld, otherFound, rfl⟩ := there
  exact each i old otherOld found otherFound

theorem map_fields {fields others : Fields} (change : String → Json → Json)
    (names : (fields.map (·.1)).Perm (others.map (·.1)))
    (each : ∀ name value other, fields.get? name = some value → others.get? name = some other →
      Reordered (change name value) (change name other)) :
    Reordered (.obj (fields.map fun field => (field.1, change field.1 field.2)))
      (.obj (others.map fun field => (field.1, change field.1 field.2))) := by
  refine .obj (by simpa [Function.comp_def] using names) fun name value other here there => ?_
  rw [Fields.get?_map, Option.map_eq_some_iff] at here there
  obtain ⟨old, found, rfl⟩ := here
  obtain ⟨otherOld, otherFound, rfl⟩ := there
  exact each name old otherOld found otherFound

theorem oneItem {first second : Json} (same : Reordered first second) :
    Reordered (.arr [first]) (.arr [second]) := by
  refine .arr rfl fun i item other here there => ?_
  cases i with
  | zero =>
    cases Option.some.inj here
    cases Option.some.inj there
    exact same
  | succ i => simp at here

theorem oneField {first second : Json} (same : Reordered first second) (name : String) :
    Reordered (.obj [(name, first)]) (.obj [(name, second)]) := by
  refine .obj (List.Perm.refl _) fun other value otherValue here there => ?_
  by_cases named : name = other
  · simp only [Fields.get?, named, if_true, Option.some.injEq] at here there
    rw [← here, ← there]
    exact same
  · simp [Fields.get?, named] at here

section Parts

variable {first second : Json} {items otherItems : List Json} {fields otherFields : Fields}

theorem item? (same : Reordered (.arr items) (.arr otherItems)) (i : Nat) :
    Option.Rel Reordered items[i]? otherItems[i]? := by
  cases same with
  | arr length each =>
    cases here : items[i]? with
    | none =>
      have outside : otherItems[i]? = none := by
        rw [List.getElem?_eq_none_iff] at here ⊢
        omega
      rw [outside]
      exact .none
    | some item =>
      obtain ⟨inside, _⟩ := List.getElem?_eq_some_iff.mp here
      have there := List.getElem?_eq_getElem (length ▸ inside : i < otherItems.length)
      rw [there]
      exact .some (each i _ _ here there)

theorem get? (same : Reordered (.obj fields) (.obj otherFields)) (name : String) :
    Option.Rel Reordered (fields.get? name) (otherFields.get? name) := by
  cases same with
  | obj names each =>
    have known : fields.get? name = none ↔ otherFields.get? name = none := by
      rw [Fields.get?_eq_none_iff, Fields.get?_eq_none_iff, names.mem_iff]
    cases here : fields.get? name with
    | none =>
      rw [known.mp here]
      exact .none
    | some value =>
      cases there : otherFields.get? name with
      | none => simp [known.mpr there] at here
      | some other => exact .some (each name _ _ here there)

theorem field? (same : Reordered first second) (name : String) :
    Option.Rel Reordered (first.field? name) (second.field? name) := by
  cases same with
  | obj names each => exact get? (.obj names each) name
  | _ => exact .none

theorem member? (same : Reordered first second) (field name : String) :
    Option.Rel Reordered (first.member? field name) (second.member? field name) := by
  have under := same.field? field
  rw [Json.member?, Json.member?]
  generalize first.field? field = here, second.field? field = there at under
  cases under with
  | none => exact .none
  | some inside => exact inside.field? name

theorem of_get? (nodup : (fields.map (·.1)).Nodup) (otherNodup : (otherFields.map (·.1)).Nodup)
    (each : ∀ name, Option.Rel Reordered (fields.get? name) (otherFields.get? name)) :
    Reordered (.obj fields) (.obj otherFields) := by
  refine .obj ?_ fun name value other found there => ?_
  · rw [List.perm_ext_iff_of_nodup nodup otherNodup]
    intro name
    have absent := none_iff_of_related (each name)
    rw [Fields.get?_eq_none_iff, Fields.get?_eq_none_iff] at absent
    exact Decidable.not_iff_not.mp absent
  · have here := each name
    rw [found, there] at here
    exact Option.rel_some_some.mp here

end Parts

theorem distinctKeys {first second : Json} (same : Reordered first second) :
    first.DistinctKeys → second.DistinctKeys := by
  induction same with
  | null | bool value | num value | str value => exact id
  | @arr items others length each ih =>
    intro distinct
    rw [Json.DistinctKeys, Json.distinctKeysIn_iff]
    intro other listed
    obtain ⟨i, there⟩ := List.mem_iff_getElem?.mp listed
    have related := item? (.arr length each) i
    rw [there] at related
    cases here : items[i]? with
    | none => simp [here] at related
    | some item => exact ih i item other here there (distinct.item (List.mem_of_getElem? here))
  | @obj fields others names each ih =>
    intro distinct
    have nodup := names.nodup_iff.mp distinct.names
    rw [Json.DistinctKeys, Json.distinctKeysUnder_iff]
    refine ⟨nodup, fun field listed => ?_⟩
    have there := Fields.get?_of_mem nodup listed
    have related := get? (.obj names each) field.1
    rw [there] at related
    cases here : fields.get? field.1 with
    | none => simp [here] at related
    | some value =>
      exact ih field.1 value field.2 here there (distinct.member (Fields.mem_of_get? here))

theorem trans {first second third : Json} (same : Reordered first second)
    (again : Reordered second third) : Reordered first third := by
  induction same generalizing third with
  | null | bool value | num value | str value => exact again
  | @arr items middle length each ih =>
    cases again with
    | @arr _ others otherLength otherEach =>
      refine .arr (length.trans otherLength) fun i item other here there => ?_
      have both : Reordered (.arr items) (.arr middle) := .arr length each
      obtain ⟨between, found, _⟩ := exists_of_related (both.item? i) here
      exact ih i item between here found (otherEach i between other found there)
  | @obj fields middle names each ih =>
    cases again with
    | @obj _ others otherNames otherEach =>
      refine .obj (names.trans otherNames) fun name value other here there => ?_
      have both : Reordered (.obj fields) (.obj middle) := .obj names each
      obtain ⟨between, found, _⟩ := exists_of_related (both.get? name) here
      exact ih name value between here found (otherEach name between other found there)

end Reordered

end AccessRules
