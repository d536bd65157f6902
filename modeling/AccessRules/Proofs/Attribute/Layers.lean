import AccessRules.Proofs.Attribute.Chains

/-!
Schemas made of layers: property containers, combinators of containers, and leaves. The chains to
the leaves are read off the schema layer by layer. Since no layer is empty, each of them has a leaf
below.
-/

namespace AccessRules

/-- A property container and nothing else. -/
def IsContainer (schema : Json) : Prop :=
  ∃ children : Fields, schema = .obj [("properties", .obj children)]

def combinators : List String := ["anyOf", "allOf", "oneOf", "not"]

/-- A schema made of property containers, combinators of containers, and leaves, in which no
container is empty, nor a combinator, and no property has a slash in its key. -/
inductive Layered : Json → Prop where
  | leaf {schema : Json} (isLeaf : Shape.ofJson schema = .leaf) : Layered schema
  | container {children : Fields} (nonempty : children ≠ [])
      (unmarked : ∀ child ∈ children, '/' ∉ child.1.toList)
      (each : ∀ child ∈ children, Layered child.2) : Layered (.obj [("properties", .obj children)])
  | combination {keyword : String} {branches : List Json} (known : keyword ∈ combinators)
      (nonempty : branches ≠ []) (containers : ∀ s ∈ branches, IsContainer s)
      (each : ∀ s ∈ branches, Layered s) : Layered (.obj [(keyword, .arr branches)])
  | negation {schema : Json} (container : IsContainer schema) (inside : Layered schema) :
      Layered (.obj [("not", schema)])

namespace Shape

theorem ofItems_eq_map (items : List Json) : ofItems items = items.map ofJson := by
  induction items with
  | nil => rfl
  | cons item rest ih => rw [ofItems, ih, List.map_cons]

theorem ofFields_eq_map (fields : Fields) :
    ofFields fields = fields.map fun f => (f.1, ofJson f.2) := by
  induction fields with
  | nil => rfl
  | cons field rest ih =>
    obtain ⟨name, value⟩ := field
    rw [ofFields, ih, List.map_cons]

theorem ofJson_container (children : Fields) : ofJson (.obj [("properties", .obj children)]) =
    .properties (children.map fun child => (child.1, ofJson child.2)) := by
  rw [← ofFields_eq_map]
  rfl

theorem isContainer_shape {schema : Json} (container : IsContainer schema) :
    ∃ children, ofJson schema = .properties children := by
  obtain ⟨children, rfl⟩ := container
  exact ⟨_, ofJson_container children⟩

theorem branches?_combination {keyword : String} (known : keyword ∈ combinators)
    (branches : List Json) :
    (ofJson (.obj [(keyword, .arr branches)])).branches? = some (branches.map ofJson) := by
  simp only [combinators, List.mem_cons, List.not_mem_nil, or_false] at known
  rw [← ofItems_eq_map]
  rcases known with rfl | rfl | rfl | rfl <;> rfl

theorem leafAt_ofFields_iff (children : Fields) (chain : List String) :
    LeafAt chain (.properties (ofFields children)) ↔ ∃ key child rest,
      (key, child) ∈ children ∧ LeafAt rest (ofJson child) ∧ chain = key :: rest := by
  rw [ofFields_eq_map, leafAt_properties_iff]
  constructor
  · rintro ⟨_, _, rest, listed, below, rfl⟩
    obtain ⟨⟨key, child⟩, member, same⟩ := List.mem_map.mp listed
    cases same
    exact ⟨key, child, rest, member, below, rfl⟩
  · rintro ⟨key, child, rest, listed, below, rfl⟩
    exact ⟨key, ofJson child, rest, List.mem_map_of_mem listed, below, rfl⟩

theorem leafAt_container_iff (children : Fields) (chain : List String) :
    LeafAt chain (ofJson (.obj [("properties", .obj children)])) ↔ ∃ key child rest,
      (key, child) ∈ children ∧ LeafAt rest (ofJson child) ∧ chain = key :: rest :=
  leafAt_ofFields_iff children chain

theorem leafAt_combination_iff {keyword : String} (known : keyword ∈ combinators)
    {branches : List Json} (containers : ∀ s ∈ branches, IsContainer s) (chain : List String) :
    LeafAt chain (ofJson (.obj [(keyword, .arr branches)])) ↔
      ∃ s ∈ branches, LeafAt chain (ofJson s) := by
  rw [leafAt_branches_iff (branches?_combination known branches)]
  constructor
  · rintro ⟨children, listed, below⟩
    obtain ⟨s, member, same⟩ := List.mem_map.mp listed
    rw [← same] at below
    exact ⟨s, member, below⟩
  · rintro ⟨s, member, below⟩
    obtain ⟨children, same⟩ := isContainer_shape (containers s member)
    rw [same] at below
    exact ⟨children, List.mem_map.mpr ⟨s, member, same⟩, below⟩

theorem leafAt_negation_iff {schema : Json} (container : IsContainer schema) (chain : List String) :
    LeafAt chain (ofJson (.obj [("not", schema)])) ↔ LeafAt chain (ofJson schema) := by
  obtain ⟨children, same⟩ := isContainer_shape container
  obtain ⟨inside, rfl⟩ := container
  have combined : (ofJson (.obj [("not", .obj [("properties", .obj inside)])])).branches? =
      some [ofJson (.obj [("properties", .obj inside)])] := rfl
  rw [leafAt_branches_iff combined, same]
  simp

end Shape

namespace Layered

open Shape

theorem inside {children : Fields} (layered : Layered (.obj [("properties", .obj children)]))
    {child : String × Json} (listed : child ∈ children) : Layered child.2 := by
  generalize same : Json.obj [("properties", .obj children)] = schema at layered
  cases layered with
  | leaf isLeaf =>
    rw [← same, ofJson_container] at isLeaf
    cases isLeaf
  | container _ _ each =>
    cases same
    exact each child listed
  | combination _ _ _ _ => simp at same
  | negation _ _ => simp at same

theorem exists_leaf {schema : Json} (layered : Layered schema) :
    ∃ chain, LeafAt chain (ofJson schema) := by
  induction layered with
  | leaf isLeaf =>
    rw [isLeaf]
    exact ⟨[], .leaf⟩
  | @container children nonempty _ _ ih =>
    obtain ⟨⟨key, child⟩, listed⟩ := List.exists_mem_of_ne_nil children nonempty
    obtain ⟨chain, below⟩ := ih (key, child) listed
    exact ⟨key :: chain, (leafAt_container_iff _ _).mpr ⟨key, child, chain, listed, below, rfl⟩⟩
  | @combination keyword branches known nonempty containers _ ih =>
    obtain ⟨s, listed⟩ := List.exists_mem_of_ne_nil branches nonempty
    obtain ⟨chain, below⟩ := ih s listed
    exact ⟨chain, (leafAt_combination_iff known containers chain).mpr ⟨s, listed, below⟩⟩
  | negation container _ ih =>
    obtain ⟨chain, below⟩ := ih
    exact ⟨chain, (leafAt_negation_iff container chain).mpr below⟩

theorem unmarked_chain {schema : Json} (layered : Layered schema) {chain : List String}
    (reached : LeafAt chain (ofJson schema)) : ∀ key ∈ chain, '/' ∉ key.toList := by
  induction layered generalizing chain with
  | leaf isLeaf =>
    rw [isLeaf, leafAt_leaf_iff] at reached
    simp [reached]
  | container _ unmarked _ ih =>
    obtain ⟨key, child, rest, listed, below, rfl⟩ := (leafAt_container_iff _ _).mp reached
    intro other member
    rcases List.mem_cons.mp member with rfl | later
    · exact unmarked (other, child) listed
    · exact ih (key, child) listed below other later
  | combination known _ containers _ ih =>
    obtain ⟨s, listed, below⟩ := (leafAt_combination_iff known containers chain).mp reached
    exact ih s listed below
  | negation container _ ih => exact ih ((leafAt_negation_iff container chain).mp reached)

end Layered

end AccessRules
