import AccessRules.Attribute.Extraction

/-!
Which paths a rule needs: those of the chains of property keys that lead to a leaf. The walk records
them all, and a path whose chain starts at a namespace is not one to be dropped, whichever way paths
are given. A path without slashes in its keys tells its chain.
-/

namespace AccessRules

namespace Shape

/-- The chain of property keys leads from the shape to a leaf. A combinator adds no key, and of its
branches only property containers lead on. -/
inductive LeafAt : List String → Shape → Prop where
  | leaf : LeafAt [] .leaf
  | child {key : String} {chain : List String} {children : List (String × Shape)} {child : Shape}
      (listed : (key, child) ∈ children) (below : LeafAt chain child) :
      LeafAt (key :: chain) (.properties children)
  | branch {chain : List String} {shape : Shape} {branches : List Shape}
      {children : List (String × Shape)} (combined : shape.branches? = some branches)
      (listed : .properties children ∈ branches) (below : LeafAt chain (.properties children)) :
      LeafAt chain shape

theorem leafAt_leaf_iff (chain : List String) : LeafAt chain .leaf ↔ chain = [] := by
  constructor
  · intro reached
    cases reached with
    | leaf => rfl
    | branch combined listed below => cases combined
  · rintro rfl
    exact .leaf

theorem leafAt_properties_iff (chain : List String) (children : List (String × Shape)) :
    LeafAt chain (.properties children) ↔
      ∃ key child rest, (key, child) ∈ children ∧ LeafAt rest child ∧ chain = key :: rest := by
  constructor
  · intro reached
    cases reached with
    | child listed below => exact ⟨_, _, _, listed, below, rfl⟩
    | branch combined listed below => cases combined
  · rintro ⟨key, child, rest, listed, below, rfl⟩
    exact .child listed below

theorem leafAt_branches_iff {shape : Shape} {branches : List Shape}
    (combined : shape.branches? = some branches) (chain : List String) : LeafAt chain shape ↔
      ∃ children, .properties children ∈ branches ∧ LeafAt chain (.properties children) := by
  constructor
  · intro reached
    cases reached with
    | leaf => cases combined
    | child listed below => cases combined
    | branch same listed below =>
      cases Option.some.inj (combined.symm.trans same)
      exact ⟨_, listed, below⟩
  · rintro ⟨children, listed, below⟩
    exact .branch combined listed below

theorem exists_branch_iff {shape : Shape} {branches : List Shape}
    (combined : shape.branches? = some branches) (asked : List String → Prop) :
    (∃ chain, LeafAt chain shape ∧ asked chain) ↔ ∃ children chain,
      .properties children ∈ branches ∧ LeafAt chain (.properties children) ∧ asked chain := by
  constructor
  · rintro ⟨chain, reached, holds⟩
    obtain ⟨children, listed, below⟩ := (leafAt_branches_iff combined chain).mp reached
    exact ⟨children, chain, listed, below, holds⟩
  · rintro ⟨children, chain, listed, below, holds⟩
    exact ⟨chain, .branch combined listed below, holds⟩

theorem mem_addPath (found : List String) (path other : String) :
    other ∈ addPath found path ↔ other ∈ found ∨ other = path := by
  rw [addPath]
  split
  · rename_i known
    constructor
    · exact .inl
    · rintro (old | rfl)
      · exact old
      · exact known
  · simp

-- Each walk keeps what was found before it, and adds the paths of the chains below the place.
mutual

theorem mem_walk (path : String) (chain found : List String) : ∀ shape : Shape,
    path ∈ walk chain found shape ↔ path ∈ found ∨ ∃ children rest, shape = .properties children ∧
      LeafAt rest shape ∧ path = AttributePath.ofChain (chain ++ rest)
  | .properties children => by
    rw [walk, mem_walkChildren path chain found children]
    refine or_congr_right ?_
    constructor
    · rintro ⟨key, child, rest, listed, below, rfl⟩
      exact ⟨children, key :: rest, rfl, .child listed below, rfl⟩
    · rintro ⟨_, _, _, below, rfl⟩
      obtain ⟨key, child, rest, listed, inside, rfl⟩ := (leafAt_properties_iff _ _).mp below
      exact ⟨key, child, rest, listed, inside, rfl⟩
  | .leaf | .anyOf _ | .allOf _ | .oneOf _ | .negation _ => by simp [walk]

theorem mem_walkChildren (path : String) (chain found : List String) :
    ∀ children : List (String × Shape), path ∈ walkChildren chain found children ↔
      path ∈ found ∨ ∃ key child rest, (key, child) ∈ children ∧ LeafAt rest child ∧
        path = AttributePath.ofChain (chain ++ key :: rest)
  | [] => by simp [walkChildren]
  | (key, child) :: others => by
    rw [walkChildren, mem_walkChildren path chain _ others,
      mem_walkChild path (chain ++ [key]) found child, or_assoc]
    refine or_congr_right ?_
    constructor
    · rintro (⟨rest, below, rfl⟩ | ⟨other, shape, rest, listed, below, rfl⟩)
      · exact ⟨key, child, rest, List.mem_cons_self, below, by simp⟩
      · exact ⟨other, shape, rest, List.mem_cons_of_mem _ listed, below, rfl⟩
    · rintro ⟨other, shape, rest, listed, below, rfl⟩
      rcases List.mem_cons.mp listed with same | later
      · cases same
        exact .inl ⟨rest, below, by simp⟩
      · exact .inr ⟨other, shape, rest, later, below, rfl⟩

theorem mem_walkChild (path : String) (chain found : List String) : ∀ shape : Shape,
    path ∈ walkChild chain found shape ↔ path ∈ found ∨ ∃ rest, LeafAt rest shape ∧
      path = AttributePath.ofChain (chain ++ rest)
  | .leaf => by simp [walkChild, mem_addPath, leafAt_leaf_iff]
  | .properties children => by
    rw [walkChild, mem_walkChildren path chain found children]
    refine or_congr_right ?_
    constructor
    · rintro ⟨key, child, rest, listed, below, rfl⟩
      exact ⟨key :: rest, .child listed below, rfl⟩
    · rintro ⟨_, below, rfl⟩
      obtain ⟨key, child, rest, listed, inside, rfl⟩ := (leafAt_properties_iff _ _).mp below
      exact ⟨key, child, rest, listed, inside, rfl⟩
  | .anyOf branches => by
    rw [walkChild, mem_walkBranches path chain found branches, exists_branch_iff rfl]
  | .allOf branches => by
    rw [walkChild, mem_walkBranches path chain found branches, exists_branch_iff rfl]
  | .oneOf branches => by
    rw [walkChild, mem_walkBranches path chain found branches, exists_branch_iff rfl]
  | .negation branches => by
    rw [walkChild, mem_walkBranches path chain found branches, exists_branch_iff rfl]

theorem mem_walkBranches (path : String) (chain found : List String) : ∀ branches : List Shape,
    path ∈ walkBranches chain found branches ↔ path ∈ found ∨ ∃ children rest,
      .properties children ∈ branches ∧ LeafAt rest (.properties children) ∧
        path = AttributePath.ofChain (chain ++ rest)
  | [] => by simp [walkBranches]
  | branch :: others => by
    rw [walkBranches, mem_walkBranches path chain _ others,
      mem_walk path chain found branch, or_assoc]
    refine or_congr_right ?_
    constructor
    · rintro (⟨children, rest, rfl, below, rfl⟩ | ⟨children, rest, listed, below, rfl⟩)
      · exact ⟨children, rest, List.mem_cons_self, below, rfl⟩
      · exact ⟨children, rest, List.mem_cons_of_mem _ listed, below, rfl⟩
    · rintro ⟨children, rest, listed, below, rfl⟩
      rcases List.mem_cons.mp listed with rfl | later
      · exact .inl ⟨children, rest, rfl, below, rfl⟩
      · exact .inr ⟨children, rest, later, below, rfl⟩

end

/-- The walk records the paths of the chains to the leaves, and no others. -/
theorem mem_paths_iff (children : List (String × Shape)) (path : String) :
    path ∈ (Shape.properties children).paths ↔
      ∃ chain, LeafAt chain (.properties children) ∧ path = AttributePath.ofChain chain := by
  rw [paths, mem_walk]
  constructor
  · rintro (old | ⟨_, chain, _, reached, rfl⟩)
    · cases old
    · exact ⟨chain, reached, rfl⟩
  · rintro ⟨chain, reached, rfl⟩
    exact .inr ⟨children, chain, rfl, reached, rfl⟩

end Shape

namespace AttributePath

theorem toList_ofChain (chain : List String) :
    (ofChain chain).toList = '/' :: ['/'].intercalate (chain.map String.toList) := by
  rw [ofChain, String.toList_append, String.toList_intercalate]
  rfl

def keys (path : String) : List String :=
  (path.toList.tail.splitOn '/').map String.ofList

theorem keys_ofChain {chain : List String} (nonempty : chain ≠ [])
    (plain : ∀ key ∈ chain, '/' ∉ key.toList) : keys (ofChain chain) = chain := by
  have unmarked : ∀ word ∈ chain.map String.toList, '/' ∉ word := by
    intro word listed
    obtain ⟨key, member, rfl⟩ := List.mem_map.mp listed
    exact plain key member
  rw [keys, toList_ofChain, List.tail_cons,
    List.splitOn_intercalate '/' unmarked (by simpa using nonempty), List.map_map]
  simp

theorem occursIn_iff (word text : List Char) : occursIn word text = true ↔ word <:+: text := by
  induction text with
  | nil => simp [occursIn, List.isEmpty_iff]
  | cons c rest ih => simp [occursIn, ih, List.infix_cons_iff]

theorem intercalate_cons_prefix (word : List Char) (words : List (List Char)) :
    ∃ after, ['/'].intercalate (word :: words) = word ++ after := by
  cases words with
  | nil => exact ⟨[], by simp⟩
  | cons next words => exact ⟨_, by rw [List.intercalate_cons_cons, List.append_assoc]⟩

end AttributePath

namespace Classification

/-- A path that starts at a namespace is given to a namespace, or refused. -/
theorem classify_ofChain (classification : Classification) (ns : Namespace) (chain : List String) :
    classification.classify (AttributePath.ofChain (ns.key :: chain)) ≠ .ok none := by
  cases classification with
  | firstSegment =>
    simp only [classify]
    cases AttributePath.namespaceInFront? (AttributePath.ofChain (ns.key :: chain)) <;> simp
  | substring =>
    obtain ⟨after, text⟩ :=
      AttributePath.intercalate_cons_prefix ns.key.toList (chain.map String.toList)
    have occurs : AttributePath.occursIn ns.key.toList
        (AttributePath.ofChain (ns.key :: chain)).toList = true := by
      rw [AttributePath.toList_ofChain, List.map_cons, text, AttributePath.occursIn_iff]
      exact ⟨['/'], after, by simp⟩
    intro nowhere
    have none := List.find?_eq_none.mp (Except.ok.inj nowhere) ns (Namespace.mem_all ns)
    exact none occurs

end Classification

end AccessRules
