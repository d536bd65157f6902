import Mathlib.Data.List.Sort
import AccessRules.Proofs.Json.Reordering

/-!
Values with their fields in alphabetical order. Two values that differ only in the order of fields
are one and the same once they are sorted, and so a sorted value stands for all of them.
-/

namespace AccessRules

namespace Json

mutual

def sorted : Json → Json
  | .arr items => .arr (sortedItems items)
  | .obj fields => .obj ((sortedValues fields).insertionSort fun a b => a.1 ≤ b.1)
  | value => value
termination_by structural value => value

def sortedItems : List Json → List Json
  | [] => []
  | item :: rest => sorted item :: sortedItems rest

def sortedValues : List (String × Json) → List (String × Json)
  | [] => []
  | (name, value) :: rest => (name, sorted value) :: sortedValues rest

end

theorem sortedItems_eq_map (items : List Json) : sortedItems items = items.map sorted := by
  induction items with
  | nil => rfl
  | cons item rest ih => rw [sortedItems, ih, List.map_cons]

theorem sortedValues_eq_map (fields : Fields) :
    sortedValues fields = fields.map fun field => (field.1, sorted field.2) := by
  induction fields with
  | nil => rfl
  | cons field rest ih =>
    obtain ⟨name, value⟩ := field
    rw [sortedValues, ih, List.map_cons]

end Json

theorem Fields.get?_perm {fields others : Fields} (nodup : (fields.map (·.1)).Nodup)
    (same : fields.Perm others) (name : String) : fields.get? name = others.get? name := by
  have otherNodup : (others.map (·.1)).Nodup := (same.map _).nodup_iff.mp nodup
  cases found : fields.get? name with
  | none =>
    rw [get?_eq_none_iff, (same.map _).mem_iff] at found
    exact ((get?_eq_none_iff others name).mpr found).symm
  | some value => exact (get?_of_mem otherNodup (same.mem_iff.mp (mem_of_get? found))).symm

theorem Fields.perm_of_get? {fields others : Fields} (nodup : (fields.map (·.1)).Nodup)
    (otherNodup : (others.map (·.1)).Nodup) (same : ∀ name, fields.get? name = others.get? name) :
    fields.Perm others := by
  rw [List.perm_ext_iff_of_nodup nodup.of_map otherNodup.of_map]
  rintro ⟨name, value⟩
  constructor
  · intro listed
    exact mem_of_get? ((same name).symm.trans (get?_of_mem nodup listed))
  · intro listed
    exact mem_of_get? ((same name).trans (get?_of_mem otherNodup listed))

theorem Fields.insertionSort_eq {fields others : Fields} (nodup : (fields.map (·.1)).Nodup)
    (same : fields.Perm others) :
    fields.insertionSort (fun a b => a.1 ≤ b.1) = others.insertionSort fun a b => a.1 ≤ b.1 := by
  have total : Std.Total fun a b : String × Json => a.1 ≤ b.1 :=
    ⟨fun a b => Std.Total.total a.1 b.1⟩
  have trans : IsTrans (String × Json) fun a b => a.1 ≤ b.1 :=
    ⟨fun a b c first second => String.le_trans first second⟩
  refine List.Perm.eq_of_pairwise ?_ (List.pairwise_insertionSort _ _)
    (List.pairwise_insertionSort _ _) ?_
  · rintro ⟨name, value⟩ ⟨other, otherValue⟩ listed otherListed le ge
    have named : name = other := String.le_antisymm le ge
    subst named
    rw [List.mem_insertionSort] at listed otherListed
    have found := Fields.get?_of_mem nodup listed
    have again := Fields.get?_of_mem nodup (same.mem_iff.mpr otherListed)
    rw [Option.some.inj (found.symm.trans again)]
  · exact ((List.perm_insertionSort _ _).trans same).trans (List.perm_insertionSort _ _).symm

theorem Reordered.sorted_eq {value other : Json} (same : Reordered value other) :
    value.DistinctKeys → value.sorted = other.sorted := by
  induction same with
  | null | bool value | num value | str value => exact fun _ => rfl
  | @arr items others length each ih =>
    intro distinct
    rw [Json.sorted, Json.sorted, Json.sortedItems_eq_map, Json.sortedItems_eq_map]
    refine congrArg Json.arr (List.ext_getElem (by simp [length]) fun i here there => ?_)
    rw [List.getElem_map, List.getElem_map]
    rw [List.length_map] at here there
    exact ih i _ _ (List.getElem?_eq_getElem here) (List.getElem?_eq_getElem there)
      (distinct.item (List.getElem_mem here))
  | @obj fields others names each ih =>
    intro distinct
    have same : Reordered (.obj fields) (.obj others) := .obj names each
    have otherDistinct := same.distinctKeys distinct
    rw [Json.sorted, Json.sorted, Json.sortedValues_eq_map, Json.sortedValues_eq_map]
    have nodup : ((fields.map fun field => (field.1, field.2.sorted)).map (·.1)).Nodup := by
      simpa [Function.comp_def] using distinct.names
    refine congrArg Json.obj (Fields.insertionSort_eq nodup (Fields.perm_of_get? nodup ?_ ?_))
    · simpa [Function.comp_def] using otherDistinct.names
    · intro name
      have lookup := Fields.get?_map
      rw [lookup fields fun _ => Json.sorted, lookup others fun _ => Json.sorted]
      have both := same.get? name
      cases found : fields.get? name with
      | none => rw [(none_iff_of_related both).mp found]
      | some value =>
        obtain ⟨other, there, _⟩ := exists_of_related both found
        rw [there]
        exact congrArg some
          (ih name value other found there (distinct.member (Fields.mem_of_get? found)))

theorem Reordered.of_sorted {value : Json} (distinct : value.DistinctKeys) :
    Reordered value value.sorted := by
  induction size : sizeOf value using Nat.strongRecOn generalizing value with
  | ind size ih =>
    cases value with
    | null => exact .null
    | bool value => exact .bool value
    | num value => exact .num value
    | str value => exact .str value
    | arr items =>
      rw [Json.sorted, Json.sortedItems_eq_map]
      refine .arr (by simp) fun i item other here there => ?_
      rw [List.getElem?_map, here] at there
      cases there
      have listed := List.mem_of_getElem? here
      exact ih _ (size ▸ Json.sizeOf_item_lt listed) (distinct.item listed) rfl
    | obj fields =>
      rw [Json.sorted, Json.sortedValues_eq_map]
      have names : ((fields.map fun field => (field.1, field.2.sorted)).map (·.1)).Nodup := by
        simpa [Function.comp_def] using distinct.names
      have order := List.perm_insertionSort (fun a b : String × Json => a.1 ≤ b.1)
        (fields.map fun field => (field.1, field.2.sorted))
      refine .of_get? distinct.names ((order.map _).nodup_iff.mpr names) fun name => ?_
      rw [← Fields.get?_perm names order.symm, Fields.get?_map fields fun _ => Json.sorted]
      cases found : Fields.get? fields name with
      | none => exact .none
      | some value =>
        have listed := Fields.mem_of_get? found
        exact .some (ih _ (size ▸ Json.sizeOf_member_lt listed) (distinct.member listed) rfl)

/-- To compare values up to the order of fields, sort them. -/
theorem reordered_iff_sorted_eq {value other : Json} (distinct : value.DistinctKeys)
    (otherDistinct : other.DistinctKeys) :
    Reordered value other ↔ value.sorted = other.sorted := by
  constructor
  · exact fun same => same.sorted_eq distinct
  · intro same
    have back := (Reordered.of_sorted otherDistinct).symm
    exact (Reordered.of_sorted distinct).trans (same ▸ back)

end AccessRules
