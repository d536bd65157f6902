import AccessRules.Proofs.Attribute.Distribution
import AccessRules.Proofs.Attribute.Layers
import AccessRules.Proofs.Json.Reordering

/-!
The attributes of schemas that differ only in the order of fields. A shape is read off what stands
under a few keywords, so that the same chains of keys lead to leaves in both. The walk meets them in
another order, and every namespace gets the same paths.
-/

namespace AccessRules

namespace Shape

def container? (schema : Json) : Option Fields :=
  match schema.field? "properties" with
  | some (.obj children) => some children
  | _ => none

def listed? (keyword : String) (schema : Json) : Option (List Json) :=
  match schema.field? keyword with
  | some (.arr items) => some items
  | _ => none

def negated? (schema : Json) : Option (List Json) :=
  match schema.field? "not" with
  | some (.arr items) => some items
  | some (.obj fields) => some [.obj fields]
  | _ => none

def combined? (schema : Json) : Option (List Json) :=
  (listed? "anyOf" schema).or <| (listed? "allOf" schema).or <| (listed? "oneOf" schema).or <|
    negated? schema

section Reading

variable {schema : Json} (fields : Fields)

theorem propertiesIn_eq : propertiesIn fields = (container? (.obj fields)).map ofFields := by
  induction fields with
  | nil => rfl
  | cons field rest ih =>
    obtain ⟨key, value⟩ := field
    by_cases here : key = "properties"
    · cases value <;> simp [propertiesIn, container?, Json.field?, Fields.get?, here]
    · have later : propertiesIn ((key, value) :: rest) = propertiesIn rest := by
        cases value <;> exact if_neg here
      rw [later, ih, container?, container?]
      simp only [Json.field?, Fields.get?, here, if_false]

theorem branchesIn_eq (keyword : String) :
    branchesIn keyword fields = (listed? keyword (.obj fields)).map ofItems := by
  induction fields with
  | nil => rfl
  | cons field rest ih =>
    obtain ⟨key, value⟩ := field
    by_cases here : key = keyword
    · cases value <;> simp [branchesIn, listed?, Json.field?, Fields.get?, here]
    · have later : branchesIn keyword ((key, value) :: rest) = branchesIn keyword rest := by
        cases value <;> exact if_neg here
      rw [later, ih, listed?, listed?]
      simp only [Json.field?, Fields.get?, here, if_false]

theorem negationIn_eq : negationIn fields = (negated? (.obj fields)).map ofItems := by
  induction fields with
  | nil => rfl
  | cons field rest ih =>
    obtain ⟨key, value⟩ := field
    by_cases here : key = "not"
    · cases value <;> simp [negationIn, negated?, Json.field?, Fields.get?, here, ofItems]
    · have later : negationIn ((key, value) :: rest) = negationIn rest := by
        cases value <;> exact if_neg here
      rw [later, ih, negated?, negated?]
      simp only [Json.field?, Fields.get?, here, if_false]

theorem ofJson_of_container {children : Fields} (found : container? schema = some children) :
    ofJson schema = .properties (ofFields children) := by
  cases schema with
  | obj fields => rw [ofJson, propertiesIn_eq, found, Option.map_some]
  | _ => simp [container?, Json.field?] at found

/-- A schema that is no container is read as a combinator of the schemas under the first of its
combinators, or as a leaf. -/
theorem ofJson_of_none (single : container? schema = none) :
    (ofJson schema).branches? = (combined? schema).map ofItems ∧
      (combined? schema = none → ofJson schema = .leaf) := by
  cases schema with
  | obj fields =>
    rw [ofJson, propertiesIn_eq, single, branchesIn_eq, branchesIn_eq, branchesIn_eq,
      negationIn_eq, combined?]
    cases listed? "anyOf" (.obj fields) with
    | some items => exact ⟨rfl, nofun⟩
    | none =>
      cases listed? "allOf" (.obj fields) with
      | some items => exact ⟨rfl, nofun⟩
      | none =>
        cases listed? "oneOf" (.obj fields) with
        | some items => exact ⟨rfl, nofun⟩
        | none =>
          cases negated? (.obj fields) with
          | some items => exact ⟨rfl, nofun⟩
          | none => exact ⟨rfl, fun _ => rfl⟩
  | _ => exact ⟨rfl, fun _ => rfl⟩

end Reading

section Parts

variable {schema : Json}

theorem container?_eq_some_iff (children : Fields) :
    container? schema = some children ↔ schema.field? "properties" = some (.obj children) := by
  rw [container?]
  cases schema.field? "properties" with
  | none => simp
  | some value => cases value <;> simp

theorem listed?_eq_some_iff (keyword : String) (items : List Json) :
    listed? keyword schema = some items ↔ schema.field? keyword = some (.arr items) := by
  rw [listed?]
  cases schema.field? keyword with
  | none => simp
  | some value => cases value <;> simp

theorem negated?_eq_some_iff (items : List Json) : negated? schema = some items ↔
    schema.field? "not" = some (.arr items) ∨
      ∃ fields, schema.field? "not" = some (.obj fields) ∧ items = [.obj fields] := by
  rw [negated?]
  cases schema.field? "not" with
  | none => simp
  | some value => cases value <;> simp [eq_comm]

theorem part_of_combined {items : List Json} (found : combined? schema = some items) {item : Json}
    (listed : item ∈ items) :
    sizeOf item < sizeOf schema ∧ (schema.DistinctKeys → item.DistinctKeys) := by
  have inArray : ∀ keyword, schema.field? keyword = some (.arr items) →
      sizeOf item < sizeOf schema ∧ (schema.DistinctKeys → item.DistinctKeys) := by
    intro keyword under
    have smaller := Nat.lt_trans (Json.sizeOf_item_lt listed) (Json.sizeOf_field_lt under)
    exact ⟨smaller, fun unique => (unique.field under).item listed⟩
  simp only [combined?, Option.or_eq_some_iff, listed?_eq_some_iff, negated?_eq_some_iff] at found
  rcases found with anyOf | ⟨_, allOf | ⟨_, oneOf | ⟨_, list | ⟨fields, under, rfl⟩⟩⟩⟩
  · exact inArray _ anyOf
  · exact inArray _ allOf
  · exact inArray _ oneOf
  · exact inArray _ list
  · cases List.mem_singleton.mp listed
    exact ⟨Json.sizeOf_field_lt under, fun unique => unique.field under⟩

end Parts

section Chains

variable {schema : Json} {chain : List String}

theorem leafAt_ofJson_container {children : Fields} (found : container? schema = some children) :
    LeafAt chain (ofJson schema) ↔ ∃ key child rest,
      (key, child) ∈ children ∧ LeafAt rest (ofJson child) ∧ chain = key :: rest := by
  rw [ofJson_of_container found, leafAt_ofFields_iff]

theorem isContainer_iff (schema : Json) :
    (∃ children, ofJson schema = .properties children) ↔ container? schema ≠ none := by
  cases found : container? schema with
  | some children => simp [ofJson_of_container found]
  | none =>
    obtain ⟨branches, leaf⟩ := ofJson_of_none found
    simp only [ne_eq, not_true_eq_false, iff_false, not_exists]
    intro children same
    rw [same] at branches leaf
    cases plain : combined? schema with
    | none => cases leaf plain
    | some items => simp [plain, branches?] at branches

theorem leafAt_ofJson_combined (single : container? schema = none) {items : List Json}
    (found : combined? schema = some items) : LeafAt chain (ofJson schema) ↔
      ∃ item ∈ items, container? item ≠ none ∧ LeafAt chain (ofJson item) := by
  have combined := (ofJson_of_none single).1
  rw [found, Option.map_some, ofItems_eq_map] at combined
  rw [leafAt_branches_iff combined]
  constructor
  · rintro ⟨children, listed, below⟩
    obtain ⟨item, member, same⟩ := List.mem_map.mp listed
    rw [← same] at below
    exact ⟨item, member, (isContainer_iff item).mp ⟨children, same⟩, below⟩
  · rintro ⟨item, member, container, below⟩
    obtain ⟨children, same⟩ := (isContainer_iff item).mpr container
    rw [same] at below
    exact ⟨children, List.mem_map.mpr ⟨item, member, same⟩, below⟩

theorem leafAt_ofJson_plain (single : container? schema = none) (plain : combined? schema = none) :
    LeafAt chain (ofJson schema) ↔ chain = [] := by
  rw [(ofJson_of_none single).2 plain, leafAt_leaf_iff]

theorem mem_paths_ofJson_iff (path : String) : path ∈ (ofJson schema).paths ↔
    container? schema ≠ none ∧
      ∃ chain, LeafAt chain (ofJson schema) ∧ path = AttributePath.ofChain chain := by
  rw [← isContainer_iff, paths, mem_walk]
  constructor
  · rintro (old | ⟨children, chain, same, reached, rfl⟩)
    · cases old
    · exact ⟨⟨children, same⟩, chain, reached, rfl⟩
  · rintro ⟨⟨children, same⟩, chain, reached, rfl⟩
    exact .inr ⟨children, chain, same, reached, rfl⟩

end Chains

section Order

variable {schema other : Json} (same : Reordered schema other)

include same

theorem container?_related :
    Option.Rel (fun children others => Reordered (.obj children) (.obj others))
      (container? schema) (container? other) := by
  have under := same.field? "properties"
  rw [container?, container?]
  generalize schema.field? "properties" = here, other.field? "properties" = there at under
  cases under with
  | none => exact .none
  | some inside =>
    cases inside with
    | obj names each => exact .some (.obj names each)
    | _ => exact .none

theorem listed?_related (keyword : String) :
    Option.Rel (fun items others => Reordered (.arr items) (.arr others))
      (listed? keyword schema) (listed? keyword other) := by
  have under := same.field? keyword
  rw [listed?, listed?]
  generalize schema.field? keyword = here, other.field? keyword = there at under
  cases under with
  | none => exact .none
  | some inside =>
    cases inside with
    | arr length each => exact .some (.arr length each)
    | _ => exact .none

theorem negated?_related :
    Option.Rel (fun items others => Reordered (.arr items) (.arr others))
      (negated? schema) (negated? other) := by
  have under := same.field? "not"
  rw [negated?, negated?]
  generalize schema.field? "not" = here, other.field? "not" = there at under
  cases under with
  | none => exact .none
  | some inside =>
    cases inside with
    | arr length each => exact .some (.arr length each)
    | obj names each => exact .some (.oneItem (.obj names each))
    | _ => exact .none

theorem combined?_related :
    Option.Rel (fun items others => Reordered (.arr items) (.arr others))
      (combined? schema) (combined? other) :=
  or_related (listed?_related same "anyOf") <| or_related (listed?_related same "allOf") <|
    or_related (listed?_related same "oneOf") (negated?_related same)

end Order

/-- A chain of keys that leads to a leaf still does when fields are put in another order. -/
theorem leafAt_of_reordered {schema other : Json} (same : Reordered schema other)
    (unique : schema.DistinctKeys) {chain : List String} (reached : LeafAt chain (ofJson schema)) :
    LeafAt chain (ofJson other) := by
  induction size : sizeOf schema using Nat.strongRecOn generalizing schema other chain with
  | ind size ih =>
    cases found : container? schema with
    | some children =>
      obtain ⟨others, otherFound, alike⟩ := exists_of_related (container?_related same) found
      obtain ⟨key, child, rest, listed, below, rfl⟩ := (leafAt_ofJson_container found).mp reached
      have under := (container?_eq_some_iff children).mp found
      have inside := unique.field under
      obtain ⟨otherChild, there, sameChild⟩ :=
        exists_of_related (alike.get? key) (Fields.get?_of_mem inside.names listed)
      have smaller := Nat.lt_trans (Json.sizeOf_member_lt listed) (Json.sizeOf_field_lt under)
      have belowOther := ih _ (size ▸ smaller) sameChild (inside.member listed) below rfl
      refine (leafAt_ofJson_container otherFound).mpr ?_
      exact ⟨key, otherChild, rest, Fields.mem_of_get? there, belowOther, rfl⟩
    | none =>
      have single := (none_iff_of_related (container?_related same)).mp found
      cases combined : combined? schema with
      | some items =>
        obtain ⟨others, otherCombined, alike⟩ :=
          exists_of_related (combined?_related same) combined
        obtain ⟨item, listed, container, below⟩ :=
          (leafAt_ofJson_combined found combined).mp reached
        obtain ⟨i, here⟩ := List.mem_iff_getElem?.mp listed
        obtain ⟨otherItem, there, sameItem⟩ := exists_of_related (alike.item? i) here
        obtain ⟨smaller, distinct⟩ := part_of_combined combined listed
        have belowOther := ih _ (size ▸ smaller) sameItem (distinct unique) below rfl
        have stillContainer : container? otherItem ≠ none := by
          rwa [ne_eq, ← none_iff_of_related (container?_related sameItem)]
        refine (leafAt_ofJson_combined single otherCombined).mpr ?_
        exact ⟨otherItem, List.mem_of_getElem? there, stillContainer, belowOther⟩
      | none =>
        have plain := (none_iff_of_related (combined?_related same)).mp combined
        rw [leafAt_ofJson_plain found combined] at reached
        rwa [leafAt_ofJson_plain single plain]

theorem paths_perm {schema other : Json} (same : Reordered schema other)
    (unique : schema.DistinctKeys) : (ofJson schema).paths.Perm (ofJson other).paths := by
  rw [List.perm_ext_iff_of_nodup (nodup_paths _) (nodup_paths _)]
  intro path
  have containers := none_iff_of_related (container?_related same)
  have chains : ∀ chain, LeafAt chain (ofJson schema) ↔ LeafAt chain (ofJson other) := fun _ =>
    ⟨leafAt_of_reordered same unique, leafAt_of_reordered same.symm (same.distinctKeys unique)⟩
  simp only [mem_paths_ofJson_iff, ne_eq, containers, chains]

end Shape

namespace Extraction

variable {classification : Classification} {shape other : Shape}
  (same : shape.paths.Perm other.paths)

include same

theorem ofShape_ok_iff_of_perm : (∃ found, ofShape shape classification = .ok found) ↔
    ∃ found, ofShape other classification = .ok found := by
  simp only [ofShape_ok_iff, same.mem_iff]

theorem get_perm {found otherFound : Extraction}
    (done : ofShape shape classification = .ok found)
    (otherDone : ofShape other classification = .ok otherFound) (ns : Namespace) :
    (found.buckets.get ns).Perm (otherFound.buckets.get ns) := by
  rw [get_ofShape done, get_ofShape otherDone]
  exact same.filter _

end Extraction

end AccessRules
