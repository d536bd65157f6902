import AccessRules.Schema.Document

/-!
Reading fields by name. Where no name comes twice, a field is found under its name exactly when it
is listed. The parts of a value are smaller than the value, by size and by depth.
-/

namespace AccessRules

namespace Fields

theorem mem_of_get? {fields : Fields} {name : String} {value : Json}
    (found : get? fields name = some value) : (name, value) ∈ fields := by
  induction fields with
  | nil => simp [get?] at found
  | cons first rest ih =>
    obtain ⟨key, old⟩ := first
    by_cases here : key = name
    · simp only [get?, here, if_true] at found
      cases Option.some.inj found
      simp [here]
    · simp only [get?, here, if_false] at found
      exact List.mem_cons_of_mem _ (ih found)

theorem get?_of_mem {fields : Fields} (distinct : (fields.map (·.1)).Nodup) {name : String}
    {value : Json} (listed : (name, value) ∈ fields) : get? fields name = some value := by
  induction fields with
  | nil => simp at listed
  | cons first rest ih =>
    obtain ⟨key, old⟩ := first
    rw [List.map_cons, List.nodup_cons] at distinct
    rcases List.mem_cons.mp listed with same | later
    · cases same
      simp [get?]
    · have apart : key ≠ name := by
        rintro rfl
        exact distinct.1 (List.mem_map.mpr ⟨_, later, rfl⟩)
      simp only [get?, apart, if_false]
      exact ih distinct.2 later

theorem forall_get?_iff {fields : Fields} (nodup : (fields.map (·.1)).Nodup)
    {asked : String → Json → Prop} : (∀ field ∈ fields, asked field.1 field.2) ↔
      ∀ name value, get? fields name = some value → asked name value := by
  constructor
  · exact fun each name value found => each (name, value) (mem_of_get? found)
  · exact fun each field listed => each field.1 field.2 (get?_of_mem nodup listed)

theorem get?_eq_none_iff (fields : Fields) (name : String) :
    get? fields name = none ↔ name ∉ fields.map (·.1) := by
  induction fields with
  | nil => simp [get?]
  | cons first rest ih =>
    obtain ⟨key, old⟩ := first
    by_cases here : key = name
    · simp [get?, here]
    · have apart : ¬ name = key := fun same => here same.symm
      simp [get?, here, apart, ih]

/-- Fields are told by their names in order and by what stands under each name. -/
theorem eq_of_get? {fields others : Fields} (nodup : (fields.map (·.1)).Nodup)
    (names : fields.map (·.1) = others.map (·.1))
    (same : ∀ name, fields.get? name = others.get? name) : fields = others := by
  induction fields generalizing others with
  | nil => exact (List.map_eq_nil_iff.mp names.symm).symm
  | cons first rest ih =>
    obtain ⟨key, value⟩ := first
    cases others with
    | nil => cases names
    | cons other others =>
      obtain ⟨otherKey, otherValue⟩ := other
      rw [List.map_cons, List.map_cons, List.cons.injEq] at names
      obtain ⟨rfl, later⟩ : key = otherKey ∧ _ := names
      rw [List.map_cons, List.nodup_cons] at nodup
      have values : value = otherValue := by simpa [get?] using same key
      subst values
      rw [ih nodup.2 later fun name => ?_]
      by_cases here : key = name
      · subst here
        have otherAbsent : key ∉ others.map (·.1) := later ▸ nodup.1
        rw [(get?_eq_none_iff rest key).mpr nodup.1, (get?_eq_none_iff others key).mpr otherAbsent]
      · simpa [get?, here] using same name

theorem get?_map (fields : Fields) (change : String → Json → Json) (name : String) :
    get? (fields.map fun field => (field.1, change field.1 field.2)) name =
      (get? fields name).map (change name) := by
  induction fields with
  | nil => rfl
  | cons first rest ih =>
    obtain ⟨key, old⟩ := first
    by_cases here : key = name
    · subst here
      simp [get?]
    · simpa [get?, here] using ih

theorem get?_filter (fields : Fields) (kept : String → Bool) (name : String) :
    get? (fields.filter fun field => kept field.1) name =
      if kept name = true then get? fields name else none := by
  induction fields with
  | nil => simp [get?]
  | cons first rest ih =>
    obtain ⟨key, old⟩ := first
    by_cases here : key = name
    · subst here
      by_cases keep : kept key = true <;> simp [get?, keep, ih]
    · by_cases keep : kept key = true <;> simp [get?, here, keep, ih]

theorem get?_append (first second : Fields) (name : String) :
    get? (first ++ second) name = (get? first name).or (get? second name) := by
  induction first with
  | nil => rfl
  | cons field rest ih =>
    obtain ⟨key, old⟩ := field
    by_cases here : key = name <;> simp [get?, here, ih]

theorem get?_put (fields : Fields) (name other : String) (value : Json) :
    get? (fields.put name value) other =
      if name = other then some value else get? fields other := by
  induction fields with
  | nil => simp [put, get?]
  | cons first rest ih =>
    obtain ⟨key, old⟩ := first
    by_cases here : key = name
    · subst here
      by_cases same : key = other <;> simp [put, get?, same]
    · by_cases hit : key = other
      · subst hit
        have apart : ¬ name = key := fun same => here same.symm
        simp [put, get?, here, apart]
      · simp [put, get?, here, hit, ih]

theorem names_put (fields : Fields) (name : String) (value : Json) :
    (fields.put name value).map (·.1) =
      if name ∈ fields.map (·.1) then fields.map (·.1) else fields.map (·.1) ++ [name] := by
  induction fields with
  | nil => rfl
  | cons first rest ih =>
    obtain ⟨key, old⟩ := first
    by_cases here : key = name
    · subst here
      simp [put]
    · have apart : ¬ name = key := fun same => here same.symm
      simp only [put, here, if_false, List.map_cons, ih, List.mem_cons, apart, false_or]
      split <;> rfl

theorem nodup_put {fields : Fields} (nodup : (fields.map (·.1)).Nodup) (name : String)
    (value : Json) : ((fields.put name value).map (·.1)).Nodup := by
  rw [names_put]
  split
  · exact nodup
  · rename_i fresh
    rw [List.nodup_append]
    refine ⟨nodup, by simp, ?_⟩
    rintro other listed _ single rfl
    cases List.mem_singleton.mp single
    exact fresh listed

theorem mem_put {fields : Fields} {name : String} {value : Json} {field : String × Json}
    (listed : field ∈ fields.put name value) : field = (name, value) ∨ field ∈ fields := by
  induction fields with
  | nil => exact .inl (List.mem_singleton.mp listed)
  | cons first rest ih =>
    obtain ⟨key, old⟩ := first
    rw [put] at listed
    split at listed
    · rename_i here
      subst here
      rcases List.mem_cons.mp listed with same | later
      · exact .inl same
      · exact .inr (List.mem_cons_of_mem _ later)
    · rcases List.mem_cons.mp listed with same | later
      · exact .inr (same ▸ List.mem_cons_self)
      · exact (ih later).imp_right (List.mem_cons_of_mem _)

theorem put_of_absent {fields : Fields} {name : String} (absent : get? fields name = none)
    (value : Json) : fields.put name value = fields ++ [(name, value)] := by
  induction fields with
  | nil => rfl
  | cons first rest ih =>
    obtain ⟨key, old⟩ := first
    by_cases here : key = name
    · simp [get?, here] at absent
    · simp only [get?, here, if_false] at absent
      simp [put, here, ih absent]

theorem has_eq_true_iff (fields : Fields) (name : String) :
    fields.has name = true ↔ ∃ value, get? fields name = some value := by
  simp [has, Option.isSome_iff_exists]

end Fields

namespace Json

def items : Json → List Json
  | .arr items => items
  | _ => []

theorem distinctKeysIn_iff (items : List Json) :
    DistinctKeysIn items ↔ ∀ item ∈ items, item.DistinctKeys := by
  induction items with
  | nil => simp [DistinctKeysIn]
  | cons item rest ih => simp [DistinctKeysIn, ih]

theorem distinctKeysUnder_iff (fields : Fields) :
    DistinctKeysUnder fields ↔ ∀ field ∈ fields, field.2.DistinctKeys := by
  induction fields with
  | nil => simp [DistinctKeysUnder]
  | cons field rest ih => simp [DistinctKeysUnder, ih]

theorem DistinctKeys.item {items : List Json} (distinct : (Json.arr items).DistinctKeys)
    {item : Json} (member : item ∈ items) : item.DistinctKeys := by
  rw [Json.DistinctKeys, distinctKeysIn_iff] at distinct
  exact distinct item member

theorem DistinctKeys.names {fields : Fields} (distinct : (Json.obj fields).DistinctKeys) :
    (fields.map (·.1)).Nodup := by
  rw [Json.DistinctKeys] at distinct
  exact distinct.1

theorem DistinctKeys.member {fields : Fields} (distinct : (Json.obj fields).DistinctKeys)
    {name : String} {value : Json} (listed : (name, value) ∈ fields) : value.DistinctKeys := by
  rw [Json.DistinctKeys, distinctKeysUnder_iff] at distinct
  exact distinct.2 (name, value) listed

theorem DistinctKeys.field {value : Json} (distinct : value.DistinctKeys) {name : String}
    {part : Json} (found : value.field? name = some part) : part.DistinctKeys := by
  cases value with
  | obj fields => exact distinct.member (Fields.mem_of_get? found)
  | _ => simp [field?] at found

theorem DistinctKeys.put {fields : Fields} (distinct : (Json.obj fields).DistinctKeys)
    {value : Json} (inside : value.DistinctKeys) (name : String) :
    (Json.obj (fields.put name value)).DistinctKeys := by
  rw [Json.DistinctKeys, distinctKeysUnder_iff] at distinct ⊢
  refine ⟨?_, ?_⟩
  · exact Fields.nodup_put distinct.1 name value
  · intro field listed
    rcases Fields.mem_put listed with rfl | old
    · exact inside
    · exact distinct.2 field old

/-- What stands under a name in the value of a field. -/
def member? (value : Json) (field name : String) : Option Json :=
  (value.field? field).bind fun members => members.field? name

theorem member?_eq_some_iff (value : Json) (field name : String) (part : Json) :
    value.member? field name = some part ↔
      ∃ members : Fields, value.field? field = some (.obj members) ∧
        members.get? name = some part := by
  rw [member?, Option.bind_eq_some_iff]
  constructor
  · rintro ⟨members, under, named⟩
    cases members with
    | obj fields => exact ⟨fields, under, named⟩
    | _ => cases named
  · rintro ⟨members, under, named⟩
    exact ⟨.obj members, under, named⟩

def at? : List String → Json → Option Json
  | [], value => some value
  | key :: rest, value => (value.field? key).bind (at? rest)

theorem at?_cons {value part : Json} {key : String} (found : value.field? key = some part)
    (chain : List String) : value.at? (key :: chain) = part.at? chain := by
  rw [at?, found, Option.bind_some]

theorem DistinctKeys.ofMember {value : Json} (distinct : value.DistinctKeys) {field name : String}
    {part : Json} (found : value.member? field name = some part) : part.DistinctKeys := by
  obtain ⟨members, under, named⟩ := (member?_eq_some_iff _ _ _ _).mp found
  exact (distinct.field under).field named

theorem forall_members_iff {fields : Fields} (distinct : (Json.obj fields).DistinctKeys)
    {asked : String → Json → Prop} : (∀ field ∈ fields, asked field.1 field.2) ↔
      ∀ name value, (Json.obj fields).field? name = some value → asked name value :=
  Fields.forall_get?_iff distinct.names

theorem sizeOf_item_lt {items : List Json} {item : Json} (member : item ∈ items) :
    sizeOf item < sizeOf (Json.arr items) := by
  have smaller := List.sizeOf_lt_of_mem member
  simp only [Json.arr.sizeOf_spec]
  omega

theorem sizeOf_member_lt {fields : Fields} {name : String} {value : Json}
    (listed : (name, value) ∈ fields) : sizeOf value < sizeOf (Json.obj fields) := by
  have smaller := List.sizeOf_lt_of_mem listed
  simp only [Prod.mk.sizeOf_spec] at smaller
  simp only [Json.obj.sizeOf_spec]
  omega

theorem sizeOf_field_lt {value : Json} {name : String} {part : Json}
    (found : value.field? name = some part) : sizeOf part < sizeOf value := by
  cases value with
  | obj fields => exact sizeOf_member_lt (Fields.mem_of_get? found)
  | _ => simp [field?] at found

theorem depth_item_le {items : List Json} {item : Json} (member : item ∈ items) :
    item.depth ≤ depthOfItems items := by
  induction items with
  | nil => simp at member
  | cons first rest ih =>
    simp only [depthOfItems]
    rcases List.mem_cons.mp member with rfl | later
    · exact Nat.le_max_left _ _
    · exact Nat.le_trans (ih later) (Nat.le_max_right _ _)

theorem depth_member_le {fields : Fields} {name : String} {value : Json}
    (listed : (name, value) ∈ fields) : value.depth ≤ depthOfFields fields := by
  induction fields with
  | nil => simp at listed
  | cons first rest ih =>
    obtain ⟨key, old⟩ := first
    simp only [depthOfFields]
    rcases List.mem_cons.mp listed with same | later
    · cases same
      exact Nat.le_max_left _ _
    · exact Nat.le_trans (ih later) (Nat.le_max_right _ _)

theorem depth_item_lt {items : List Json} {item : Json} (member : item ∈ items) :
    item.depth < (Json.arr items).depth :=
  Nat.lt_succ_of_le (depth_item_le member)

theorem depth_member_lt {fields : Fields} {name : String} {value : Json}
    (listed : (name, value) ∈ fields) : value.depth < (Json.obj fields).depth :=
  Nat.lt_succ_of_le (depth_member_le listed)

theorem depth_field_lt {value : Json} {name : String} {part : Json}
    (found : value.field? name = some part) : part.depth < value.depth := by
  cases value with
  | obj fields => exact depth_member_lt (Fields.mem_of_get? found)
  | _ => simp [field?] at found

end Json

end AccessRules
