import AccessRules.Proofs.Attribute.Extraction

/-!
The two ways to give paths to namespaces, side by side. The first segment of a path is a part of its
text, so where it names a namespace, the first namespace to occur in the text is that one or an
earlier one. Whatever extraction yields by first segments, it yields by substring too, only under
earlier namespaces here and there.
-/

namespace AccessRules

namespace Namespace

def before (ns : Namespace) : List Namespace :=
  all.takeWhile (· ≠ ns)

theorem eq_or_mem_before (ns other : Namespace) :
    ns = other ∨ ns ∈ other.before ∨ other ∈ ns.before := by
  cases ns <;> cases other <;> decide

end Namespace

theorem Buckets.ext_get {first second : Buckets} (same : ∀ ns, first.get ns = second.get ns) :
    first = second := by
  obtain ⟨subject, object, environment⟩ := first
  obtain ⟨others, things, settings⟩ := second
  have subjects : subject = others := same .subject
  have objects : object = things := same .object
  have environments : environment = settings := same .environment
  rw [subjects, objects, environments]

namespace Classification

variable {path : String} {ns : Namespace}

/-- A path in which a namespace occurs is given to that one by substring, or to an earlier one. -/
theorem exists_substring_owner (occurs : ns.key.toList <:+: path.toList) :
    ∃ owner, Classification.substring.owner? path = some owner ∧
      (owner = ns ∨ owner ∈ ns.before) := by
  cases owned : Classification.substring.owner? path with
  | none =>
    have nowhere := List.find?_eq_none.mp
      (show AttributePath.namespaceWithin? path = none from owned) ns ns.mem_all
    exact absurd ((AttributePath.occursIn_iff _ _).mpr occurs) nowhere
  | some owner =>
    have first := ((owner?_eq_some_iff _ _ _).mp owned).2
    refine ⟨owner, rfl, ?_⟩
    rcases owner.eq_or_mem_before ns with same | before | after
    · exact .inl same
    · exact .inr before
    · exact absurd occurs (first ns after)

theorem substring_owner_iff (occurs : ns.key.toList <:+: path.toList) :
    Classification.substring.owner? path = some ns ↔
      ∀ earlier ∈ ns.before, ¬ earlier.key.toList <:+: path.toList := by
  rw [owner?_eq_some_iff]
  exact and_iff_right occurs

end Classification

namespace Extraction

variable {shape : Shape} {classification : Classification} {found : Extraction}

theorem perm_paths_of_owned (done : ofShape shape classification = .ok found)
    (owned : ∀ path ∈ shape.paths, classification.owner? path ≠ none) :
    found.dropped = [] ∧ found.buckets.all.Perm shape.paths := by
  have nothing : found.dropped = [] := by
    rw [dropped_ofShape done, List.filter_eq_nil_iff]
    exact fun path listed => by simpa using owned path listed
  have perm := ofShape_perm done
  rw [nothing, List.append_nil] at perm
  exact ⟨nothing, perm⟩

end Extraction

open Extraction in
/-- What extraction yields by first segments it also yields by substring, every path of it. Each
path is then in the list of the same namespace or of one before, and of the same one exactly if no
namespace before occurs in the path. If none ever does, all lists are equal. -/
theorem strict_refines_substring {shape : Shape} {strict : Extraction}
    (done : ofShape shape .firstSegment = .ok strict) :
    ∃ loose, ofShape shape .substring = .ok loose ∧ loose.dropped = [] ∧
      strict.buckets.all.Perm loose.buckets.all ∧
      (∀ ns, ∀ path ∈ strict.buckets.get ns,
        (∃ owner, path ∈ loose.buckets.get owner ∧ (owner = ns ∨ owner ∈ ns.before)) ∧
        (path ∈ loose.buckets.get ns ↔
          ∀ earlier ∈ ns.before, ¬ earlier.key.toList <:+: path.toList)) ∧
      ((∀ ns, ∀ path ∈ strict.buckets.get ns, ∀ earlier ∈ ns.before,
        ¬ earlier.key.toList <:+: path.toList) → strict.buckets = loose.buckets) := by
  obtain ⟨loose, found⟩ := ofShape_substring shape
  have strictly : ∀ path ∈ shape.paths, ∃ ns, Classification.firstSegment.owner? path = some ns :=
    fun path listed =>
      (Classification.firstSegment_ok_iff path).mp (ofShape_ok_iff.mp ⟨strict, done⟩ path listed)
  have loosely : ∀ path ∈ shape.paths, Classification.substring.owner? path ≠ none := by
    intro path listed
    obtain ⟨ns, owned⟩ := strictly path listed
    obtain ⟨owner, given, _⟩ :=
      Classification.exists_substring_owner (Classification.key_infix owned)
    simp [given]
  have strictPerm := (perm_paths_of_owned done fun path listed => by
    obtain ⟨ns, owned⟩ := strictly path listed
    simp [owned]).2
  obtain ⟨nothing, loosePerm⟩ := perm_paths_of_owned found loosely
  refine ⟨loose, found, nothing, strictPerm.trans loosePerm.symm, ?each, ?equal⟩
  case each =>
    intro ns path member
    obtain ⟨listed, owned⟩ := (mem_get_iff done ns path).mp member
    have occurs := Classification.key_infix owned
    obtain ⟨owner, given, place⟩ := Classification.exists_substring_owner occurs
    refine ⟨⟨owner, (mem_get_iff found owner path).mpr ⟨listed, given⟩, place⟩, ?_⟩
    rw [mem_get_iff found, and_iff_right listed, Classification.substring_owner_iff occurs]
  case equal =>
    intro alone
    refine Buckets.ext_get fun ns => ?_
    rw [get_ofShape done, get_ofShape found]
    refine List.filter_congr fun path listed => ?_
    obtain ⟨owner, owned⟩ := strictly path listed
    have kept := alone owner path ((mem_get_iff done owner path).mpr ⟨listed, owned⟩)
    have same := (Classification.substring_owner_iff (Classification.key_infix owned)).mpr kept
    rw [owned, same]

def watched : Json := .obj [("properties", .obj [
  ("subject", .obj [("properties", .obj [("id", .obj [])])]),
  ("environment", .obj [("properties", .obj [("subject_id", .obj []), ("hour", .obj [])])])])]

theorem strict_refines_substring_watched :
    let shape := Shape.ofJson watched
    ∃ strict loose, Extraction.ofShape shape .firstSegment = .ok strict ∧
      Extraction.ofShape shape .substring = .ok loose ∧
      strict.buckets.environment = ["/environment/subject_id", "/environment/hour"] ∧
      loose.buckets.environment = ["/environment/hour"] ∧ loose.dropped = [] ∧
      strict.buckets.all.Perm loose.buckets.all := by
  intro shape
  have done : Extraction.ofShape shape .firstSegment = .ok
      ⟨⟨["/subject/id"], [], ["/environment/subject_id", "/environment/hour"]⟩, []⟩ := rfl
  obtain ⟨loose, found, kept, perm, _⟩ := strict_refines_substring done
  have settled : Extraction.ofShape shape .substring = .ok
      ⟨⟨["/subject/id", "/environment/subject_id"], [], ["/environment/hour"]⟩, []⟩ := rfl
  have same := Except.ok.inj (found.symm.trans settled)
  exact ⟨_, loose, done, found, rfl, by rw [same], kept, perm⟩

end AccessRules
