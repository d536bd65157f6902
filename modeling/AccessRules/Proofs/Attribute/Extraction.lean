import Mathlib.Data.List.TakeWhile
import AccessRules.Proofs.Attribute.Enumeration

/-!
What extraction comes to. The class of a path is told by its text: by the first namespace whose key
occurs in it, or by the one whose key stands in front. Extraction enumerates the routes to the
leaves, keeps the first of equal paths, and gives each namespace the paths of its class in order.
Where every path has to have a class, the first one that has none is named.
-/

namespace AccessRules

namespace AttributePath

theorem firstSegment_eq_iff {word : List Char} (nonempty : word ≠ []) (unmarked : '/' ∉ word)
    (path : List Char) : firstSegment path = word ↔ ∃ slashes rest,
      path = List.replicate slashes '/' ++ (word ++ rest) ∧
        (rest = [] ∨ ∃ after, rest = '/' :: after) := by
  constructor
  · rintro rfl
    refine ⟨(path.takeWhile (· == '/')).length,
      (path.dropWhile (· == '/')).dropWhile (· != '/'), ?_, ?_⟩
    · have slashes : path.takeWhile (· == '/') =
          List.replicate (path.takeWhile (· == '/')).length '/' :=
        List.eq_replicate_of_mem fun c listed => by simpa using List.mem_takeWhile_imp listed
      rw [← slashes, firstSegment, List.takeWhile_append_dropWhile,
        List.takeWhile_append_dropWhile]
    · cases rest : (path.dropWhile (· == '/')).dropWhile (· != '/') with
      | nil => exact .inl rfl
      | cons c after =>
        have stopped := List.head?_dropWhile_not (· != '/') (path.dropWhile (· == '/'))
        simp only [rest, List.head?_cons] at stopped
        exact .inr ⟨after, by simpa using stopped⟩
  · rintro ⟨slashes, rest, rfl, ending⟩
    obtain ⟨c, others, rfl⟩ := List.exists_cons_of_ne_nil nonempty
    have apart : ¬ c = '/' := fun same => unmarked (same ▸ List.mem_cons_self)
    have plain : ∀ d ∈ c :: others, (d != '/') = true := fun d listed => by
      simpa using fun same : d = '/' => unmarked (same ▸ listed)
    have trimmed : (List.replicate slashes '/' ++ (c :: others ++ rest)).dropWhile (· == '/') =
        c :: others ++ rest := by
      rw [List.dropWhile_append_of_pos (by simp), List.cons_append,
        List.dropWhile_cons_of_neg (by simpa using apart)]
    have stops : rest.takeWhile (· != '/') = [] := by
      rcases ending with rfl | ⟨after, rfl⟩ <;> simp
    rw [firstSegment, trimmed, List.takeWhile_append_of_pos plain, stops, List.append_nil]

end AttributePath

namespace Classification

/-- The path is of a namespace: of the first one whose key occurs anywhere in the text, or of the
one whose key stands between the slashes in front and the next slash. -/
def Gives (classification : Classification) (path : String) (ns : Namespace) : Prop :=
  match classification with
  | .substring => ns.key.toList <:+: path.toList ∧
      ∀ earlier ∈ Namespace.all.takeWhile (· ≠ ns), ¬ earlier.key.toList <:+: path.toList
  | .firstSegment => ∃ slashes rest,
      path.toList = List.replicate slashes '/' ++ (ns.key.toList ++ rest) ∧
        (rest = [] ∨ ∃ after, rest = '/' :: after)

theorem find?_all_iff (asked : Namespace → Bool) (ns : Namespace) :
    Namespace.all.find? asked = some ns ↔ asked ns = true ∧
      ∀ earlier ∈ Namespace.all.takeWhile (· ≠ ns), ¬ asked earlier = true := by
  cases ns with
  | subject => simp [Namespace.all]
  | object => simp [Namespace.all, and_comm]
  | environment => simp [Namespace.all, and_comm, and_assoc]

theorem owner?_eq_some_iff (classification : Classification) (path : String) (ns : Namespace) :
    classification.owner? path = some ns ↔ classification.Gives path ns := by
  cases classification with
  | substring =>
    have owned : Classification.substring.owner? path = AttributePath.namespaceWithin? path := rfl
    rw [owned, AttributePath.namespaceWithin?, find?_all_iff]
    simp only [AttributePath.occursIn_iff, Gives]
  | firstSegment =>
    have nonempty : ns.key.toList ≠ [] := by cases ns <;> decide
    have unmarked : '/' ∉ ns.key.toList := by cases ns <;> decide
    rw [owner?_firstSegment, AttributePath.namespaceInFront?, Namespace.ofKey?_eq_some_iff,
      eq_comm, ← String.toList_inj, String.toList_ofList,
      AttributePath.firstSegment_eq_iff nonempty unmarked, Gives]

instance (classification : Classification) (path : String) (ns : Namespace) :
    Decidable (classification.Gives path ns) :=
  decidable_of_iff _ (classification.owner?_eq_some_iff path ns)

theorem classify_firstSegment (path : String) :
    (∃ ns, Classification.firstSegment.classify path = .ok (some ns) ∧
      Classification.firstSegment.Gives path ns) ∨
    (Classification.firstSegment.classify path = .error (.outsideNamespaces path) ∧
      ∀ ns, ¬ Classification.firstSegment.Gives path ns) := by
  have owned := owner?_firstSegment path
  cases front : AttributePath.namespaceInFront? path with
  | some ns =>
    have given : Classification.firstSegment.classify path = .ok (some ns) := by
      rw [classify, front]
    exact .inl ⟨ns, given, (owner?_eq_some_iff _ path ns).mp (owned.trans front)⟩
  | none =>
    have refused : Classification.firstSegment.classify path =
        .error (.outsideNamespaces path) := by
      rw [classify, front]
    refine .inr ⟨refused, fun ns gives => ?_⟩
    rw [← owner?_eq_some_iff, owned, front] at gives
    cases gives

theorem firstSegment_ok_iff (path : String) :
    (∃ place, Classification.firstSegment.classify path = .ok place) ↔
      ∃ ns, Classification.firstSegment.owner? path = some ns := by
  rcases classify_firstSegment path with ⟨ns, given, _⟩ | ⟨refused, nothing⟩
  · simp [given, owner?_of_ok given]
  · have nobody : ∀ ns, ¬ Classification.firstSegment.owner? path = some ns :=
      fun ns owned => nothing ns ((owner?_eq_some_iff _ _ _).mp owned)
    simp [refused, nobody]

theorem classify_firstSegment_error_iff (path : String) (error : ExtractionError) :
    Classification.firstSegment.classify path = .error error ↔
      (∀ ns, ¬ Classification.firstSegment.Gives path ns) ∧ error = .outsideNamespaces path := by
  rcases classify_firstSegment path with ⟨ns, given, gives⟩ | ⟨refused, nothing⟩
  · have notAll : ¬ ∀ ns, ¬ Classification.firstSegment.Gives path ns := fun none => none ns gives
    simp [given, notAll]
  · simp [refused, nothing, eq_comm]

end Classification

def IsFirst (asked : String → Prop) (paths : List String) (path : String) : Prop :=
  asked path ∧ ∃ before after, paths = before ++ path :: after ∧ ∀ earlier ∈ before, ¬ asked earlier

theorem isFirst_cons_iff (asked : String → Prop) (first : String) (rest : List String)
    (path : String) : IsFirst asked (first :: rest) path ↔
      (asked first ∧ path = first) ∨ (¬ asked first ∧ IsFirst asked rest path) := by
  constructor
  · rintro ⟨here, before, after, split, others⟩
    cases before with
    | nil =>
      cases split
      exact .inl ⟨here, rfl⟩
    | cons earlier before =>
      cases split
      exact .inr ⟨others first List.mem_cons_self, here, before, after, rfl, fun other listed =>
        others other (List.mem_cons_of_mem _ listed)⟩
  · rintro (⟨here, rfl⟩ | ⟨passed, here, before, after, rfl, others⟩)
    · exact ⟨here, [], rest, rfl, nofun⟩
    · exact ⟨here, first :: before, after, rfl, List.forall_mem_cons.mpr ⟨passed, others⟩⟩

theorem Extraction.ofPaths_error_iff {classification : Classification} {soFar : Extraction}
    {paths : List String} (error : ExtractionError) :
    ofPaths classification soFar paths = .error error ↔ ∃ path,
      IsFirst (fun path => ∃ e, classification.classify path = .error e) paths path ∧
        classification.classify path = .error error := by
  induction paths generalizing soFar with
  | nil => simp [ofPaths, IsFirst]
  | cons first rest ih =>
    rw [ofPaths]
    simp only [isFirst_cons_iff]
    cases given : classification.classify first with
    | ok place => cases place <;> simp [ih]
    | error e => simp [given]

/-- Extraction is what is declared of it. The routes to the leaves of a schema are enumerated depth
first, and of the texts of their chains the first occurrences are kept. By substring this never
fails, and each namespace has the paths of its class, in order; by first segment the same holds
unless a path has no class, and then the first such path is named. -/
theorem extraction_enumerates_leaves (schema : Json) : ∃ routes, Shape.LeafRoutes schema routes ∧
    let paths := (routes.map fun route => AttributePath.ofChain route.2).eraseDups
    (∃ found, Extraction.ofShape (Shape.ofJson schema) .substring = .ok found ∧
      ∀ ns, found.buckets.get ns =
        paths.filter fun path => Classification.substring.Gives path ns) ∧
    (∀ error, Extraction.ofShape (Shape.ofJson schema) .firstSegment = .error error ↔
      ∃ path, IsFirst (fun path => ∀ ns, ¬ Classification.firstSegment.Gives path ns) paths path ∧
        error = .outsideNamespaces path) ∧
    ∀ found, Extraction.ofShape (Shape.ofJson schema) .firstSegment = .ok found →
      ∀ ns, found.buckets.get ns =
        paths.filter fun path => Classification.firstSegment.Gives path ns := by
  refine ⟨_, Shape.leafRoutes_routesFrom schema, ?_⟩
  rw [← Shape.paths_eq]
  have buckets : ∀ {classification found},
      Extraction.ofShape (Shape.ofJson schema) classification = .ok found → ∀ ns,
        found.buckets.get ns = (Shape.ofJson schema).paths.filter fun path =>
          classification.Gives path ns := by
    intro classification found done ns
    simp only [Extraction.get_ofShape done, Classification.owner?_eq_some_iff]
  refine ⟨?_, ?_, fun found done => buckets done⟩
  · obtain ⟨found, done⟩ := Extraction.ofShape_substring (Shape.ofJson schema)
    exact ⟨found, done, buckets done⟩
  · intro error
    rw [Extraction.ofShape, Extraction.ofPaths_error_iff]
    simp only [Classification.classify_firstSegment_error_iff, exists_and_left, exists_eq, and_true]
    refine exists_congr fun path => and_congr_right fun first => ?_
    exact and_iff_right first.1

end AccessRules
