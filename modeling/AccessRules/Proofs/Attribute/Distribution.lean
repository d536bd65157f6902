import AccessRules.Proofs.Attribute.Chains

/-!
How paths are given to the namespaces. The walk records no path twice. Every path that is recorded
goes to one namespace or is dropped, and each namespace gets its paths in the order of the walk. A
path names the namespace that it goes to, and the path of a chain that starts at a namespace is not
dropped.
-/

namespace AccessRules

theorem eraseDups_concat (found : List String) (path : String) :
    (found ++ [path]).eraseDups =
      if path ∈ found.eraseDups then found.eraseDups else found.eraseDups ++ [path] := by
  rw [List.eraseDups_append]
  by_cases known : path ∈ found
  · simp [List.removeAll, known]
  · have fresh : [path].removeAll found = [path] := by simp [List.removeAll, known]
    have unlisted : ¬ path ∈ found.eraseDups := by rwa [List.mem_eraseDups]
    rw [fresh, if_neg unlisted]
    rfl

namespace Shape

theorem nodup_addPath {found : List String} (nodup : found.Nodup) (path : String) :
    (addPath found path).Nodup := by
  rw [addPath]
  split
  · exact nodup
  · rename_i fresh
    rw [List.nodup_append]
    refine ⟨nodup, by simp, fun other listed single member => ?_⟩
    rw [List.mem_singleton.mp member]
    rintro rfl
    exact fresh listed

mutual

theorem nodup_walk (chain : List String) {found : List String} (nodup : found.Nodup) :
    ∀ shape : Shape, (walk chain found shape).Nodup
  | .properties children => nodup_walkChildren chain nodup children
  | .leaf | .anyOf _ | .allOf _ | .oneOf _ | .negation _ => nodup

theorem nodup_walkChildren (chain : List String) {found : List String} (nodup : found.Nodup) :
    ∀ children : List (String × Shape), (walkChildren chain found children).Nodup
  | [] => nodup
  | (key, child) :: rest =>
    nodup_walkChildren chain (nodup_walkChild (chain ++ [key]) nodup child) rest

theorem nodup_walkChild (chain : List String) {found : List String} (nodup : found.Nodup) :
    ∀ shape : Shape, (walkChild chain found shape).Nodup
  | .leaf => nodup_addPath nodup _
  | .properties children => nodup_walkChildren chain nodup children
  | .anyOf branches | .allOf branches | .oneOf branches | .negation branches =>
    nodup_walkBranches chain nodup branches

theorem nodup_walkBranches (chain : List String) {found : List String} (nodup : found.Nodup) :
    ∀ branches : List Shape, (walkBranches chain found branches).Nodup
  | [] => nodup
  | branch :: rest => nodup_walkBranches chain (nodup_walk chain nodup branch) rest

end

theorem nodup_paths (shape : Shape) : shape.paths.Nodup :=
  nodup_walk [] List.nodup_nil shape

theorem exists_chain_of_mem_paths {shape : Shape} {path : String} (listed : path ∈ shape.paths) :
    ∃ chain, path = AttributePath.ofChain chain := by
  rw [paths, mem_walk] at listed
  rcases listed with old | ⟨_, chain, _, _, rfl⟩
  · cases old
  · exact ⟨_, rfl⟩

end Shape

namespace AttributePath

theorem firstSegment_infix (path : List Char) : firstSegment path <:+: path :=
  (List.takeWhile_prefix _).isInfix.trans (List.dropWhile_suffix _).isInfix

end AttributePath

namespace Classification

def owner? (classification : Classification) (path : String) : Option Namespace :=
  match classification.classify path with
  | .ok place => place
  | .error _ => none

theorem owner?_of_ok {classification : Classification} {path : String} {place : Option Namespace}
    (given : classification.classify path = .ok place) : classification.owner? path = place := by
  rw [owner?, given]

theorem owner?_firstSegment (path : String) :
    Classification.firstSegment.owner? path = AttributePath.namespaceInFront? path := by
  rw [owner?, classify]
  cases AttributePath.namespaceInFront? path <;> rfl

theorem key_infix {classification : Classification} {path : String} {ns : Namespace}
    (owned : classification.owner? path = some ns) : ns.key.toList <:+: path.toList := by
  cases classification with
  | substring =>
    have occurs := List.find?_some (show AttributePath.namespaceWithin? path = some ns from owned)
    exact (AttributePath.occursIn_iff _ _).mp occurs
  | firstSegment =>
    rw [owner?_firstSegment, AttributePath.namespaceInFront?,
      Namespace.ofKey?_eq_some_iff] at owned
    rw [owned, String.toList_ofList]
    exact AttributePath.firstSegment_infix path.toList

end Classification

namespace Extraction

theorem count_all_add (buckets : Buckets) (ns : Namespace) (added path : String) :
    (buckets.add ns added).all.count path = buckets.all.count path + [added].count path := by
  cases ns <;> simp only [Buckets.add, Buckets.all, List.count_append] <;> omega

/-- Every path is given to one namespace or dropped, once. -/
theorem ofPaths_perm {classification : Classification} {soFar found : Extraction}
    {paths : List String} (done : ofPaths classification soFar paths = .ok found) :
    (found.buckets.all ++ found.dropped).Perm
      (soFar.buckets.all ++ soFar.dropped ++ paths) := by
  rw [List.perm_iff_count]
  intro path
  induction paths generalizing soFar with
  | nil =>
    cases Except.ok.inj done
    simp
  | cons first rest ih =>
    have once : (first :: rest).count path = [first].count path + rest.count path := by
      rw [← List.count_append]
      rfl
    rw [ofPaths] at done
    cases given : classification.classify first with
    | error e => simp [given] at done
    | ok place =>
      rw [given] at done
      cases place with
      | none =>
        rw [ih done]
        simp only [List.count_append, once]
        omega
      | some ns =>
        rw [ih done]
        simp only [List.count_append, count_all_add, once]
        omega

theorem get_ofPaths {classification : Classification} {soFar found : Extraction}
    {paths : List String} (done : ofPaths classification soFar paths = .ok found) :
    (∀ ns, found.buckets.get ns = soFar.buckets.get ns ++
      paths.filter fun path => classification.owner? path = some ns) ∧
    found.dropped = soFar.dropped ++
      paths.filter fun path => classification.owner? path = none := by
  induction paths generalizing soFar with
  | nil =>
    cases Except.ok.inj done
    simp
  | cons first rest ih =>
    rw [ofPaths] at done
    cases given : classification.classify first with
    | error e => simp [given] at done
    | ok place =>
      rw [given] at done
      have owner := Classification.owner?_of_ok given
      cases place with
      | none =>
        obtain ⟨buckets, dropped⟩ := ih done
        refine ⟨fun ns => ?_, ?_⟩
        · rw [buckets, List.filter_cons_of_neg (by simp [owner])]
        · rw [dropped, List.filter_cons_of_pos (by simp [owner]), List.append_assoc]
          rfl
      | some owned =>
        obtain ⟨buckets, dropped⟩ := ih done
        refine ⟨fun ns => ?_, ?_⟩
        · rw [buckets, Buckets.get_add]
          by_cases same : ns = owned
          · subst same
            rw [if_pos rfl, List.filter_cons_of_pos (by simp [owner]), List.append_assoc]
            rfl
          · have apart : ¬ owned = ns := fun h => same h.symm
            rw [if_neg same, List.filter_cons_of_neg (by simp [owner, apart])]
        · rw [dropped, List.filter_cons_of_neg (by simp [owner])]

theorem classified_of_ofPaths {classification : Classification} {soFar found : Extraction}
    {paths : List String} (done : ofPaths classification soFar paths = .ok found) {path : String}
    (listed : path ∈ paths) : ∃ place, classification.classify path = .ok place := by
  induction paths generalizing soFar with
  | nil => cases listed
  | cons first rest ih =>
    rw [ofPaths] at done
    cases given : classification.classify first with
    | error e => simp [given] at done
    | ok place =>
      rcases List.mem_cons.mp listed with rfl | later
      · exact ⟨place, given⟩
      · rw [given] at done
        cases place <;> exact ih done later

theorem ofPaths_ok {classification : Classification} {paths : List String}
    (classified : ∀ path ∈ paths, ∃ place, classification.classify path = .ok place)
    (soFar : Extraction) : ∃ found, ofPaths classification soFar paths = .ok found := by
  induction paths generalizing soFar with
  | nil => exact ⟨soFar, rfl⟩
  | cons first rest ih =>
    obtain ⟨place, given⟩ := classified first List.mem_cons_self
    have later := ih fun path listed => classified path (List.mem_cons_of_mem _ listed)
    rw [ofPaths, given]
    cases place with
    | none => exact later _
    | some ns => exact later _

variable {classification : Classification} {shape : Shape} {found : Extraction}

theorem ofShape_ok_iff : (∃ found, ofShape shape classification = .ok found) ↔
    ∀ path ∈ shape.paths, ∃ place, classification.classify path = .ok place := by
  constructor
  · rintro ⟨found, done⟩ path listed
    exact classified_of_ofPaths done listed
  · intro classified
    exact ofPaths_ok classified .empty

theorem ofShape_substring (shape : Shape) : ∃ found, ofShape shape .substring = .ok found := by
  rw [ofShape_ok_iff]
  exact fun path _ => ⟨_, rfl⟩

theorem get_ofShape (done : ofShape shape classification = .ok found) (ns : Namespace) :
    found.buckets.get ns =
      shape.paths.filter fun path => classification.owner? path = some ns := by
  rw [(get_ofPaths done).1 ns]
  cases ns <;> rfl

theorem mem_get_iff (done : ofShape shape classification = .ok found) (ns : Namespace)
    (path : String) : path ∈ found.buckets.get ns ↔
      path ∈ shape.paths ∧ classification.owner? path = some ns := by
  rw [get_ofShape done, List.mem_filter, decide_eq_true_eq]

theorem dropped_ofShape (done : ofShape shape classification = .ok found) :
    found.dropped = shape.paths.filter fun path => classification.owner? path = none :=
  (get_ofPaths done).2

theorem ofShape_perm (done : ofShape shape classification = .ok found) :
    (found.buckets.all ++ found.dropped).Perm shape.paths :=
  ofPaths_perm done

theorem nodup_all (done : ofShape shape classification = .ok found) : found.buckets.all.Nodup :=
  (List.nodup_append.mp ((ofShape_perm done).nodup_iff.mpr shape.nodup_paths)).1

theorem size_add_dropped (done : ofShape shape classification = .ok found) :
    found.dropped.length + found.buckets.size = shape.paths.length := by
  have length := (ofShape_perm done).length_eq
  rw [List.length_append, Buckets.length_all] at length
  omega

theorem mem_all_of_get {buckets : Buckets} {ns : Namespace} {path : String}
    (listed : path ∈ buckets.get ns) : path ∈ buckets.all := by
  rw [Buckets.all, List.mem_append, List.mem_append]
  cases ns with
  | subject => exact .inl (.inl listed)
  | object => exact .inl (.inr listed)
  | environment => exact .inr listed

theorem ofChain_mem_all_iff (done : ofShape shape classification = .ok found) (ns : Namespace)
    (chain : List String) : AttributePath.ofChain (ns.key :: chain) ∈ found.buckets.all ↔
      AttributePath.ofChain (ns.key :: chain) ∈ shape.paths := by
  constructor
  · intro listed
    exact (ofShape_perm done).mem_iff.mp (List.mem_append_left _ listed)
  · intro listed
    obtain ⟨place, given⟩ := ofShape_ok_iff.mp ⟨found, done⟩ _ listed
    cases place with
    | none => exact absurd given (classification.classify_ofChain ns chain)
    | some owner =>
      have owned := Classification.owner?_of_ok given
      exact mem_all_of_get ((mem_get_iff done owner _).mpr ⟨listed, owned⟩)

/-- A rule needs the path of every chain that leads from a namespace to a leaf. -/
theorem ofChain_mem_all {children : List (String × Shape)}
    (done : ofShape (.properties children) classification = .ok found) {ns : Namespace}
    {chain : List String} (reached : Shape.LeafAt (ns.key :: chain) (.properties children)) :
    AttributePath.ofChain (ns.key :: chain) ∈ found.buckets.all :=
  (ofChain_mem_all_iff done ns chain).mpr ((Shape.mem_paths_iff children _).mpr ⟨_, reached, rfl⟩)

theorem of_mem_get (done : ofShape shape classification = .ok found) {ns : Namespace}
    {path : String} (listed : path ∈ found.buckets.get ns) :
    (∃ rest, path = "/" ++ rest) ∧ ns.key.toList <:+: path.toList := by
  obtain ⟨recorded, owned⟩ := (mem_get_iff done ns path).mp listed
  obtain ⟨chain, rfl⟩ := Shape.exists_chain_of_mem_paths recorded
  exact ⟨⟨_, rfl⟩, Classification.key_infix owned⟩

end Extraction

end AccessRules
