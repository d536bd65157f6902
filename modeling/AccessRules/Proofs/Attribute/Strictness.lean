import AccessRules.Proofs.Attribute.Extraction
import AccessRules.Proofs.Attribute.Pointers

/-!
Where every path has to have a namespace. The class of a path is the first piece of its chain that
is not empty. That is the first key, unless the first key is empty or has a slash: only such a key
can let an attribute in that is not under a namespace.
-/

namespace AccessRules

namespace AttributePath

theorem splitOn_eq_takeWhile_cons (text : List Char) :
    ∃ others, text.splitOn '/' = text.takeWhile (· != '/') :: others := by
  induction text with
  | nil => exact ⟨[], rfl⟩
  | cons c rest ih =>
    obtain ⟨others, split⟩ := ih
    rw [List.splitOn_cons_eq_if_modifyHead, split]
    by_cases slash : c = '/' <;> simp [slash]

theorem firstSegment_eq_find? (text : List Char) :
    firstSegment text = ((text.splitOn '/').find? (· ≠ [])).getD [] := by
  induction text with
  | nil => rfl
  | cons c rest ih =>
    obtain ⟨others, split⟩ := splitOn_eq_takeWhile_cons rest
    rw [List.splitOn_cons_eq_if_modifyHead]
    by_cases slash : c = '/'
    · have skipped : firstSegment (c :: rest) = firstSegment rest := by simp [firstSegment, slash]
      rw [skipped, ih]
      simp [slash]
    · simp [firstSegment, slash, split]

def leadingPiece? (chain : List String) : Option (List Char) :=
  (pieces chain).find? (· ≠ [])

theorem firstSegment_ofChain (chain : List String) :
    firstSegment (ofChain chain).toList = (leadingPiece? chain).getD [] := by
  rw [firstSegment_eq_find?, leadingPiece?]
  cases chain with
  | nil => decide
  | cons key rest =>
    rw [toList_ofChain, List.splitOn_cons_eq_if_modifyHead,
      splitOn_intercalate_pieces (List.cons_ne_nil key rest)]
    simp

theorem leadingPiece?_of_plain {key : String} (nonempty : key ≠ "") (unmarked : '/' ∉ key.toList)
    (rest : List String) : leadingPiece? (key :: rest) = some key.toList := by
  simp [leadingPiece?, pieces, List.splitOn_eq_singleton unmarked, nonempty]

theorem leadingPiece?_of_namespace (ns : Namespace) (rest : List String) :
    leadingPiece? (ns.key :: rest) = some ns.key.toList := by
  refine leadingPiece?_of_plain ?_ ?_ rest <;> cases ns <;> decide

end AttributePath

namespace Classification

theorem owner?_ofChain_iff (chain : List String) (ns : Namespace) :
    Classification.firstSegment.owner? (AttributePath.ofChain chain) = some ns ↔
      AttributePath.leadingPiece? chain = some ns.key.toList := by
  have nonempty : ns.key.toList ≠ [] := by cases ns <;> decide
  rw [owner?_firstSegment, AttributePath.namespaceInFront?, Namespace.ofKey?_eq_some_iff,
    ← String.toList_inj, String.toList_ofList, AttributePath.firstSegment_ofChain]
  cases AttributePath.leadingPiece? chain with
  | none => simp [nonempty]
  | some piece => simp [eq_comm]

end Classification

section Strict

variable {shape : Shape}

theorem strict_ok_iff : (∃ found, Extraction.ofShape shape .firstSegment = .ok found) ↔
    ∀ chain, shape.Discovers chain →
      ∃ ns : Namespace, AttributePath.leadingPiece? chain = some ns.key.toList := by
  rw [Extraction.ofShape_ok_iff]
  simp only [Classification.firstSegment_ok_iff, Shape.mem_paths_iff_discovers]
  constructor
  · intro classified chain reached
    obtain ⟨ns, owned⟩ := classified _ ⟨chain, reached, rfl⟩
    exact ⟨ns, (Classification.owner?_ofChain_iff chain ns).mp owned⟩
  · rintro named path ⟨chain, reached, rfl⟩
    obtain ⟨ns, leading⟩ := named chain reached
    exact ⟨ns, (Classification.owner?_ofChain_iff chain ns).mpr leading⟩

theorem ofChain_mem_strict_iff {found : Extraction}
    (done : Extraction.ofShape shape .firstSegment = .ok found) {chain : List String}
    (reached : shape.Discovers chain) (ns : Namespace) :
    AttributePath.ofChain chain ∈ found.buckets.get ns ↔
      AttributePath.leadingPiece? chain = some ns.key.toList := by
  have listed := (Shape.mem_paths_iff_discovers shape _).mpr ⟨chain, reached, rfl⟩
  rw [Extraction.mem_get_iff done, and_iff_right listed, Classification.owner?_ofChain_iff]

end Strict

/-- Where every path has to have a namespace, extraction succeeds exactly if the first piece that is
not empty names one in every chain that the walk comes upon, and each path is then given to the
namespace so named; a chain that begins at a namespace is given to it. Extraction succeeds if every
chain begins at a namespace, and if it succeeds, then only an empty first key or one with a slash
can be another. -/
theorem strict_extraction_by_leading_pieces (shape : Shape) :
    ((∃ found, Extraction.ofShape shape .firstSegment = .ok found) ↔
      ∀ chain, shape.Discovers chain →
        ∃ ns : Namespace, AttributePath.leadingPiece? chain = some ns.key.toList) ∧
    (∀ found, Extraction.ofShape shape .firstSegment = .ok found →
      ∀ chain, shape.Discovers chain → ∀ ns,
        (AttributePath.ofChain chain ∈ found.buckets.get ns ↔
          AttributePath.leadingPiece? chain = some ns.key.toList) ∧
        (chain.head? = some ns.key → AttributePath.ofChain chain ∈ found.buckets.get ns)) ∧
    ((∀ chain, shape.Discovers chain → ∃ ns : Namespace, chain.head? = some ns.key) →
      ∃ found, Extraction.ofShape shape .firstSegment = .ok found) ∧
    ((∃ found, Extraction.ofShape shape .firstSegment = .ok found) →
      ∀ key rest, shape.Discovers (key :: rest) →
        (∃ ns : Namespace, key = ns.key) ∨ key = "" ∨ '/' ∈ key.toList) := by
  refine ⟨strict_ok_iff, ?buckets, ?succeeds, ?accepted⟩
  case buckets =>
    intro found done chain reached ns
    refine ⟨ofChain_mem_strict_iff done reached ns, fun first => ?_⟩
    obtain ⟨rest, rfl⟩ := List.head?_eq_some_iff.mp first
    rw [ofChain_mem_strict_iff done reached]
    exact AttributePath.leadingPiece?_of_namespace ns rest
  case succeeds =>
    intro named
    rw [strict_ok_iff]
    intro chain reached
    obtain ⟨ns, first⟩ := named chain reached
    obtain ⟨rest, rfl⟩ := List.head?_eq_some_iff.mp first
    exact ⟨ns, AttributePath.leadingPiece?_of_namespace ns rest⟩
  case accepted =>
    intro done key rest reached
    -- A plain first key is the leading piece itself, and that names a namespace.
    by_cases plain : key ≠ "" ∧ '/' ∉ key.toList
    · obtain ⟨ns, leading⟩ := strict_ok_iff.mp done _ reached
      rw [AttributePath.leadingPiece?_of_plain plain.1 plain.2, Option.some.injEq,
        String.toList_inj] at leading
      exact .inl ⟨ns, leading⟩
    · rw [not_and_or, not_not, not_not] at plain
      exact .inr plain

def misplaced : Json := .obj [("properties", .obj [
  ("", .obj [("properties", .obj [("subject", .obj [])])]),
  ("object/owner", .obj [])])]

/-- Neither attribute is under a namespace, and both are given to one. -/
theorem misplaced_attributes_accepted :
    (Shape.ofJson misplaced).Discovers ["", "subject"] ∧
    (Shape.ofJson misplaced).Discovers ["object/owner"] ∧
    (∀ ns : Namespace, ns.key ≠ "" ∧ ns.key ≠ "object/owner") ∧
    Extraction.ofShape (Shape.ofJson misplaced) .firstSegment =
      .ok ⟨⟨["//subject"], ["/object/owner"], []⟩, []⟩ := by
  have container : ∃ children, Shape.ofJson misplaced = .properties children := ⟨_, rfl⟩
  refine ⟨⟨container, ?_⟩, ⟨container, ?_⟩, fun ns => by cases ns <;> decide, by rfl⟩
  · exact .child (.head _) (.child (.head _) .leaf)
  · exact .child (.tail _ (.head _)) .leaf

end AccessRules
