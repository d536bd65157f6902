import AccessRules.Proofs.Attribute.KeyOrder

/-!
The leaves of a schema in order. A route to a leaf is told by the places of the children and
branches that it goes through, and routes are ordered by their places, the first ones first. The
walk goes through all routes in this order, and the paths that a schema needs are the texts of their
chains of keys, each where it is first met.
-/

namespace AccessRules

namespace Shape

/-- A route from a schema to a leaf, with the places and the keys on it. A combinator adds a place
but no key, and of its branches only property containers lead on. -/
inductive RouteTo : List Nat → List String → Json → Prop where
  | leaf {schema : Json} (single : container? schema = none) (plain : combined? schema = none) :
      RouteTo [] [] schema
  | child {schema child : Json} {children : Fields} {i : Nat} {key : String} {places : List Nat}
      {chain : List String} (container : container? schema = some children)
      (listed : children[i]? = some (key, child)) (below : RouteTo places chain child) :
      RouteTo (i :: places) (key :: chain) schema
  | branch {schema item : Json} {items : List Json} {i : Nat} {places : List Nat}
      {chain : List String} (single : container? schema = none)
      (combined : combined? schema = some items) (listed : items[i]? = some item)
      (container : container? item ≠ none) (below : RouteTo places chain item) :
      RouteTo (i :: places) chain schema

/-- The routes stand in the order of their places. -/
def Ordered (routes : List (List Nat × List String)) : Prop :=
  routes.Pairwise fun first second => first.1 < second.1

/-- These are the routes to the leaves of a property container, all of them and in order. A schema
that is no container has none. -/
structure LeafRoutes (schema : Json) (routes : List (List Nat × List String)) : Prop where
  complete : ∀ route, route ∈ routes ↔
    container? schema ≠ none ∧ RouteTo route.1 route.2 schema
  ordered : Ordered routes

section Routes

variable {schema : Json} {places : List Nat} {chain : List String}

theorem routeTo_container_iff {children : Fields} (found : container? schema = some children) :
    RouteTo places chain schema ↔ ∃ i key child rest keys, children[i]? = some (key, child) ∧
      RouteTo rest keys child ∧ places = i :: rest ∧ chain = key :: keys := by
  constructor
  · intro reached
    cases reached with
    | leaf single plain => simp [found] at single
    | child container listed below =>
      cases Option.some.inj (found.symm.trans container)
      exact ⟨_, _, _, _, _, listed, below, rfl, rfl⟩
    | branch single combined listed container below => simp [found] at single
  · rintro ⟨i, key, child, rest, keys, listed, below, rfl, rfl⟩
    exact .child found listed below

theorem routeTo_combined_iff (single : container? schema = none) {items : List Json}
    (found : combined? schema = some items) :
    RouteTo places chain schema ↔ ∃ i item rest, items[i]? = some item ∧
      container? item ≠ none ∧ RouteTo rest chain item ∧ places = i :: rest := by
  constructor
  · intro reached
    cases reached with
    | leaf _ plain => simp [found] at plain
    | child container listed below => simp [single] at container
    | branch _ combined listed container below =>
      cases Option.some.inj (found.symm.trans combined)
      exact ⟨_, _, _, listed, container, below, rfl⟩
  · rintro ⟨i, item, rest, listed, container, below, rfl⟩
    exact .branch single found listed container below

theorem routeTo_plain_iff (single : container? schema = none) (plain : combined? schema = none) :
    RouteTo places chain schema ↔ places = [] ∧ chain = [] := by
  constructor
  · intro reached
    cases reached with
    | leaf => exact ⟨rfl, rfl⟩
    | child container listed below => simp [single] at container
    | branch _ combined listed container below => simp [plain] at combined
  · rintro ⟨rfl, rfl⟩
    exact .leaf single plain

end Routes

mutual

def routes : Shape → List (List Nat × List String)
  | .leaf => [([], [])]
  | .properties children => routesIn 0 children
  | .anyOf branches => routesAmong 0 branches
  | .allOf branches => routesAmong 0 branches
  | .oneOf branches => routesAmong 0 branches
  | .negation branches => routesAmong 0 branches
termination_by structural shape => shape

def routesIn (i : Nat) : List (String × Shape) → List (List Nat × List String)
  | [] => []
  | (key, child) :: rest =>
    (routes child).map (fun route => (i :: route.1, key :: route.2)) ++ routesIn (i + 1) rest

def routesAmong (i : Nat) : List Shape → List (List Nat × List String)
  | [] => []
  | branch :: rest =>
    (routesFrom branch).map (fun route => (i :: route.1, route.2)) ++ routesAmong (i + 1) rest

def routesFrom : Shape → List (List Nat × List String)
  | .properties children => routesIn 0 children
  | _ => []

end

theorem routes_of_branches {shape : Shape} {branches : List Shape}
    (combined : shape.branches? = some branches) : routes shape = routesAmong 0 branches := by
  cases shape <;> cases combined <;> rfl

theorem mem_routesFrom (shape : Shape) (route : List Nat × List String) :
    route ∈ routesFrom shape ↔
      (∃ children, shape = .properties children) ∧ route ∈ routes shape := by
  cases shape <;> simp [routesFrom, routes]

def numbered (i : Nat) : List (List (List Nat × List String)) → List (List Nat × List String)
  | [] => []
  | part :: rest => part.map (fun route => (i :: route.1, route.2)) ++ numbered (i + 1) rest

theorem routesIn_eq_numbered (i : Nat) (children : List (String × Shape)) :
    routesIn i children = numbered i (children.map fun child =>
      (routes child.2).map fun route => (route.1, child.1 :: route.2)) := by
  induction children generalizing i with
  | nil => rfl
  | cons first rest ih => simp [routesIn, numbered, ih]

theorem routesAmong_eq_numbered (i : Nat) (branches : List Shape) :
    routesAmong i branches = numbered i (branches.map routesFrom) := by
  induction branches generalizing i with
  | nil => rfl
  | cons first rest ih => simp [routesAmong, numbered, ih]

theorem mem_numbered (i : Nat) (parts : List (List (List Nat × List String)))
    (route : List Nat × List String) : route ∈ numbered i parts ↔
      ∃ j part rest, parts[j]? = some part ∧ rest ∈ part ∧
        route = ((i + j) :: rest.1, rest.2) := by
  induction parts generalizing i with
  | nil => simp [numbered]
  | cons first others ih =>
    rw [numbered, List.mem_append, List.mem_map, ih]
    constructor
    · rintro (⟨rest, inside, rfl⟩ | ⟨j, part, rest, listed, inside, rfl⟩)
      · exact ⟨0, first, rest, rfl, inside, rfl⟩
      · refine ⟨j + 1, part, rest, listed, inside, ?_⟩
        rw [Nat.add_assoc, Nat.add_comm 1 j]
    · rintro ⟨j, part, rest, listed, inside, rfl⟩
      cases j with
      | zero =>
        cases Option.some.inj listed
        exact .inl ⟨rest, inside, rfl⟩
      | succ j =>
        refine .inr ⟨j, part, rest, listed, inside, ?_⟩
        rw [Nat.add_assoc, Nat.add_comm 1 j]

theorem mem_routesIn (children : List (String × Shape)) (route : List Nat × List String) :
    route ∈ routesIn 0 children ↔ ∃ i key child rest, children[i]? = some (key, child) ∧
      rest ∈ routes child ∧ route = (i :: rest.1, key :: rest.2) := by
  rw [routesIn_eq_numbered, mem_numbered]
  simp only [List.getElem?_map, Option.map_eq_some_iff, Nat.zero_add]
  constructor
  · rintro ⟨i, _, _, ⟨⟨key, child⟩, listed, rfl⟩, inside, rfl⟩
    obtain ⟨rest, below, rfl⟩ := List.mem_map.mp inside
    exact ⟨i, key, child, rest, listed, below, rfl⟩
  · rintro ⟨i, key, child, rest, listed, below, rfl⟩
    exact ⟨i, _, _, ⟨(key, child), listed, rfl⟩, List.mem_map_of_mem below, rfl⟩

theorem mem_routesAmong (branches : List Shape) (route : List Nat × List String) :
    route ∈ routesAmong 0 branches ↔ ∃ i branch rest, branches[i]? = some branch ∧
      rest ∈ routesFrom branch ∧ route = (i :: rest.1, rest.2) := by
  rw [routesAmong_eq_numbered, mem_numbered]
  simp only [List.getElem?_map, Option.map_eq_some_iff, Nat.zero_add]
  constructor
  · rintro ⟨i, _, rest, ⟨branch, listed, rfl⟩, inside, rfl⟩
    exact ⟨i, branch, rest, listed, inside, rfl⟩
  · rintro ⟨i, branch, rest, listed, inside, rfl⟩
    exact ⟨i, _, rest, ⟨branch, listed, rfl⟩, inside, rfl⟩

theorem mem_routes_ofJson (schema : Json) (route : List Nat × List String) :
    route ∈ routes (ofJson schema) ↔ RouteTo route.1 route.2 schema := by
  induction size : sizeOf schema using Nat.strongRecOn generalizing schema route with
  | ind size ih =>
    cases found : container? schema with
    | some children =>
      rw [ofJson_of_container found, ofFields_eq_map, routes, mem_routesIn,
        routeTo_container_iff found]
      have smaller : ∀ {i : Nat} {key : String} {child : Json},
          children[i]? = some (key, child) → sizeOf child < sizeOf schema := fun listed =>
        Nat.lt_trans (Json.sizeOf_member_lt (List.mem_of_getElem? listed))
          (Json.sizeOf_field_lt ((container?_eq_some_iff children).mp found))
      simp only [List.getElem?_map, Option.map_eq_some_iff]
      constructor
      · rintro ⟨i, _, _, rest, ⟨⟨key, child⟩, listed, same⟩, below, rfl⟩
        cases same
        have inside := (ih _ (size ▸ smaller listed) child rest rfl).mp below
        exact ⟨i, key, child, _, _, listed, inside, rfl, rfl⟩
      · rintro ⟨i, key, child, rest, keys, listed, below, places, chain⟩
        have inside := (ih _ (size ▸ smaller listed) child (rest, keys) rfl).mpr below
        exact ⟨i, key, _, (rest, keys), ⟨_, listed, rfl⟩, inside, Prod.ext places chain⟩
    | none =>
      cases combined : combined? schema with
      | some items =>
        have branches := (ofJson_of_none found).1
        rw [combined, Option.map_some, ofItems_eq_map] at branches
        rw [routes_of_branches branches, mem_routesAmong, routeTo_combined_iff found combined]
        simp only [List.getElem?_map, Option.map_eq_some_iff, mem_routesFrom]
        constructor
        · rintro ⟨i, _, rest, ⟨item, listed, rfl⟩, ⟨container, below⟩, rfl⟩
          have smaller := (part_of_combined combined (List.mem_of_getElem? listed)).1
          have inside := (ih _ (size ▸ smaller) item rest rfl).mp below
          exact ⟨i, item, _, listed, (isContainer_iff item).mp container, inside, rfl⟩
        · rintro ⟨i, item, rest, listed, container, below, places⟩
          have smaller := (part_of_combined combined (List.mem_of_getElem? listed)).1
          have inside := (ih _ (size ▸ smaller) item (rest, route.2) rfl).mpr below
          exact ⟨i, _, (rest, route.2), ⟨item, listed, rfl⟩,
            ⟨(isContainer_iff item).mpr container, inside⟩, Prod.ext places rfl⟩
      | none =>
        rw [(ofJson_of_none found).2 combined, routeTo_plain_iff found combined, routes,
          List.mem_singleton, Prod.ext_iff]

theorem ordered_numbered (i : Nat) {parts : List (List (List Nat × List String))}
    (each : ∀ part ∈ parts, Ordered part) : Ordered (numbered i parts) := by
  induction parts generalizing i with
  | nil => exact .nil
  | cons part rest ih =>
    have later := ih (i + 1) fun other listed => each other (List.mem_cons_of_mem _ listed)
    refine List.pairwise_append.mpr ⟨?_, later, ?_⟩
    · refine (each part List.mem_cons_self).map _ fun first second less => ?_
      exact List.cons_lt_cons_iff.mpr (.inr ⟨rfl, less⟩)
    · intro first here second there
      obtain ⟨before, _, rfl⟩ := List.mem_map.mp here
      obtain ⟨j, _, after, _, _, rfl⟩ := (mem_numbered _ _ _).mp there
      exact List.cons_lt_cons_iff.mpr (.inl (by omega))

theorem ordered_routesFrom {shape : Shape} (ordered : Ordered (routes shape)) :
    Ordered (routesFrom shape) := by
  cases shape with
  | properties children => exact ordered
  | _ => exact .nil

mutual

theorem ordered_routes : ∀ shape : Shape, Ordered (routes shape)
  | .leaf => List.pairwise_singleton _ _
  | .properties children => by
    rw [routes, routesIn_eq_numbered]
    refine ordered_numbered 0 fun part listed => ?_
    obtain ⟨child, member, rfl⟩ := List.mem_map.mp listed
    exact (ordered_children children child member).map _ fun _ _ less => less
  | .anyOf branches | .allOf branches | .oneOf branches | .negation branches => by
    rw [routes, routesAmong_eq_numbered]
    refine ordered_numbered 0 fun part listed => ?_
    obtain ⟨branch, member, rfl⟩ := List.mem_map.mp listed
    exact ordered_routesFrom (ordered_branches branches branch member)

theorem ordered_children : ∀ children : List (String × Shape), ∀ child ∈ children,
    Ordered (routes child.2)
  | [] => nofun
  | (_, first) :: rest =>
    List.forall_mem_cons.mpr ⟨ordered_routes first, ordered_children rest⟩

theorem ordered_branches : ∀ branches : List Shape, ∀ branch ∈ branches, Ordered (routes branch)
  | [] => nofun
  | first :: rest => List.forall_mem_cons.mpr ⟨ordered_routes first, ordered_branches rest⟩

end

theorem leafRoutes_routesFrom (schema : Json) : LeafRoutes schema (routesFrom (ofJson schema)) where
  complete := by
    intro route
    rw [mem_routesFrom, isContainer_iff, mem_routes_ofJson]
  ordered := ordered_routesFrom (ordered_routes _)

def texts (chain : List String) (routes : List (List Nat × List String)) : List String :=
  routes.map fun route => AttributePath.ofChain (chain ++ route.2)

theorem texts_append (chain : List String) (first second : List (List Nat × List String)) :
    texts chain (first ++ second) = texts chain first ++ texts chain second :=
  List.map_append

theorem texts_child (chain : List String) (i : Nat) (key : String)
    (routes : List (List Nat × List String)) :
    texts chain (routes.map fun route => (i :: route.1, key :: route.2)) =
      texts (chain ++ [key]) routes := by
  simp [texts]

theorem texts_branch (chain : List String) (i : Nat) (routes : List (List Nat × List String)) :
    texts chain (routes.map fun route => (i :: route.1, route.2)) = texts chain routes := by
  simp [texts]

-- The walk with what was found before it is a fold over the routes, whatever places they have.
mutual

theorem walk_eq (chain found : List String) : ∀ shape : Shape,
    walk chain found shape = (texts chain (routesFrom shape)).foldl addPath found
  | .properties children => walkChildren_eq chain found 0 children
  | .leaf | .anyOf _ | .allOf _ | .oneOf _ | .negation _ => rfl

theorem walkChildren_eq (chain found : List String) (i : Nat) :
    ∀ children : List (String × Shape), walkChildren chain found children =
      (texts chain (routesIn i children)).foldl addPath found
  | [] => rfl
  | (key, child) :: rest => by
    rw [walkChildren, routesIn, texts_append, texts_child, List.foldl_append,
      ← walkChild_eq (chain ++ [key]) found child, walkChildren_eq chain _ (i + 1) rest]

theorem walkChild_eq (chain found : List String) : ∀ shape : Shape,
    walkChild chain found shape = (texts chain (routes shape)).foldl addPath found
  | .leaf => by simp [walkChild, texts, routes]
  | .properties children => walkChildren_eq chain found 0 children
  | .anyOf branches | .allOf branches | .oneOf branches | .negation branches =>
    walkBranches_eq chain found 0 branches

theorem walkBranches_eq (chain found : List String) (i : Nat) : ∀ branches : List Shape,
    walkBranches chain found branches =
      (texts chain (routesAmong i branches)).foldl addPath found
  | [] => rfl
  | branch :: rest => by
    rw [walkBranches, routesAmong, texts_append, texts_branch, List.foldl_append,
      ← walk_eq chain found branch, walkBranches_eq chain _ (i + 1) rest]

end

theorem foldl_addPath (found paths : List String) :
    paths.foldl addPath found.eraseDups = (found ++ paths).eraseDups := by
  induction paths generalizing found with
  | nil => rw [List.append_nil, List.foldl_nil]
  | cons path rest ih =>
    rw [List.foldl_cons, addPath, ← eraseDups_concat, ih, List.append_assoc, List.singleton_append]

/-- The paths of a shape are those of its routes, each where it is first met. -/
theorem paths_eq (shape : Shape) : shape.paths =
    ((routesFrom shape).map fun route => AttributePath.ofChain route.2).eraseDups := by
  rw [paths, walk_eq]
  exact foldl_addPath [] _

end Shape

end AccessRules
