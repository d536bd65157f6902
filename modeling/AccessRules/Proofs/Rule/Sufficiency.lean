import AccessRules.Proofs.Attribute.Distribution
import AccessRules.Proofs.Rule.Agreement
import AccessRules.Proofs.Rule.Checking
import AccessRules.Proofs.Rule.Contract
import AccessRules.Proofs.Rule.Defaults

/-!
The attributes of a rule are all that it looks at. Two requests that supply every one of them, and
the same, are both satisfied or both not: a namespace that the schema mentions has a leaf, so that
it is supplied and agrees there; one that it does not mention is an object in both, whatever is in
it; and what is outside the namespaces is filled in alike.
-/

namespace AccessRules

open Constraint Contract Lowering

section Keywords

variable {base : Url} {refs : String → Json → Bool} {fields : Fields} {c : Constraint}

theorem accepts_type_object (read : ofField base fields "type" (.str "object") = .ok c)
    (inside : Fields) : accepts refs c (.obj inside) = true := by
  have named : Keyword.assertions (.obj fields) "type" (.str "object") = [.types [.object]] := rfl
  rw [Keyword.type_asserts read, named]
  intro a listed
  cases List.mem_singleton.mp listed
  rfl

theorem accepts_required
    (read : ofField base fields "required" (.arr (Namespace.all.map fun ns => .str ns.key)) = .ok c)
    {inside : Fields} (present : ∀ ns : Namespace, inside.has ns.key = true) :
    accepts refs c (.obj inside) = true := by
  rw [Keyword.compiled_asserts (by decide) read]
  intro a listed
  obtain ⟨name, member, rfl⟩ := List.mem_map.mp listed
  obtain ⟨_, text, named⟩ := List.mem_filterMap.mp member
  obtain ⟨ns, _, rfl⟩ := List.mem_map.mp text
  cases Option.some.inj named
  exact present ns

end Keywords

section Contract

variable {base : Url} {refs : String → Json → Bool}

theorem field?_container (children : Fields) :
    (Json.obj [("properties", .obj children)]).field? "properties" = some (.obj children) := rfl

theorem properties_contract (children : Fields) :
    (extend (.obj [("properties", .obj children)])).field? "properties" =
      some (.obj (mergeFields namespaceMembers children)) := rfl

theorem indifferent_unmentioned (first second : Fields) :
    IndifferentAs base refs (.obj first) (.obj second) namespaceSchema := by
  intro c spelled
  have lowered : lower namespaceSchema =
      .obj [("type", .str "object"), ("default", .obj [])] := rfl
  rw [lowered] at spelled
  refine indifferent_of_fields rfl spelled fun field listed part read => ?_
  simp only [List.mem_cons, List.not_mem_nil, or_false] at listed
  rcases listed with rfl | rfl
  · rw [Indifferent, accepts_type_object read, accepts_type_object read]
  · rw [Indifferent, accepts_of_silent read, accepts_of_silent read]

theorem indifferent_mentioned {schema : Json} (layered : Layered schema) {first second : Fields}
    (agree : AgreeAt schema (.obj first) (.obj second)) :
    IndifferentAs base refs (.obj first) (.obj second) (merge namespaceSchema schema) := by
  rcases @Layered.eq_or_indifferent base refs _ layered _ _ agree with
    same | ⟨keyword, argument, rfl, known, alike⟩
  · -- a leaf, at which the values are equal
    intro c _
    rw [same]
    exact Iff.rfl
  · -- one keyword, which stands beside the type and the default of the namespace
    intro c spelled
    have merged : lower (merge namespaceSchema (.obj [(keyword, argument)])) =
        .obj [("type", .str "object"), ("default", .obj []),
          (keyword, lowerValue keyword argument)] := by
      simp only [Layered.keywords, List.mem_cons, List.not_mem_nil, or_false] at known
      rw [namespaceSchema, merge_obj, lower, lowerFields_eq_map]
      rcases known with rfl | rfl | rfl | rfl | rfl <;> rfl
    rw [merged] at spelled
    have other : ∀ k ∈ Layered.keywords, k ≠ "$ref" ∧ k ≠ "additionalProperties" := by decide
    have free : Fields.get? [("type", .str "object"), ("default", .obj []),
        (keyword, lowerValue keyword argument)] "$ref" = none := by
      simp [Fields.get?, other keyword known]
    have closed : Fields.get? [("type", .str "object"), ("default", .obj []),
        (keyword, lowerValue keyword argument)] "additionalProperties" = none := by
      simp [Fields.get?, other keyword known]
    refine indifferent_of_fields free spelled fun field listed part read => ?_
    simp only [List.mem_cons, List.not_mem_nil, or_false] at listed
    rcases listed with rfl | rfl | rfl
    · rw [Indifferent, accepts_type_object read, accepts_type_object read]
    · rw [Indifferent, accepts_of_silent read, accepts_of_silent read]
    · exact alike _ closed part read

section Container

variable {children first second : Fields}
  (unique : (Json.obj [("properties", .obj children)]).DistinctKeys)
  (namespaces : ∀ ns : Namespace, ∃ a b : Fields, first.get? ns.key = some (.obj a) ∧
    second.get? ns.key = some (.obj b) ∧ ∀ s, children.get? ns.key = some s →
      Layered s ∧ AgreeAt s (.obj a) (.obj b))
  (others : ∀ name, (∀ ns : Namespace, ns.key ≠ name) → first.get? name = second.get? name)

include unique namespaces others

theorem parts_indifferent {child : String × Json}
    (listed : child ∈ mergeFields namespaceMembers children) :
    PartsIndifferent base refs (.obj first) (.obj second) child := by
  obtain ⟨name, schema⟩ := child
  have nodup := (unique.field (field?_container children)).names
  have nodupMerged := ((distinctKeys_extend unique).field (properties_contract children)).names
  have found := Fields.get?_of_mem nodupMerged listed
  rw [get?_mergeFields nodup] at found
  by_cases reserved : ∃ ns : Namespace, ns.key = name
  · obtain ⟨ns, rfl⟩ := reserved
    obtain ⟨a, b, inFirst, inSecond, agree⟩ := namespaces ns
    refine .inr ⟨_, _, inFirst, inSecond, ?_⟩
    rw [get?_namespaceMembers] at found
    cases mentioned : children.get? ns.key with
    | none =>
      rw [mentioned] at found
      cases Option.some.inj found
      exact indifferent_unmentioned a b
    | some s =>
      rw [mentioned] at found
      cases Option.some.inj found
      obtain ⟨layered, same⟩ := agree s mentioned
      exact indifferent_mentioned layered same
  · have same := others name (by simpa using reserved)
    cases present : second.get? name with
    | none => exact .inl ⟨same.trans present, present⟩
    | some value => exact .inr ⟨value, value, same.trans present, present, fun _ _ => Iff.rfl⟩

/-- The contract of a container does not tell documents apart that have objects for the namespaces,
which agree where they are mentioned, and the same otherwise. -/
theorem indifferent_contract : IndifferentAs base refs (.obj first) (.obj second)
    (extend (.obj [("properties", .obj children)])) := by
  intro c spelled
  have lowered : lower (extend (.obj [("properties", .obj children)])) =
      .obj [("type", .str "object"), ("required", .arr (Namespace.all.map fun ns => .str ns.key)),
        ("properties",
          lowerValue "properties" (.obj (mergeFields namespaceMembers children)))] := by
    rw [extend, merge_obj, lower, lowerFields_eq_map]
    rfl
  rw [lowered] at spelled
  refine indifferent_of_fields rfl spelled fun field listed part read => ?_
  simp only [List.mem_cons, List.not_mem_nil, or_false] at listed
  rcases listed with rfl | rfl | rfl
  · rw [Indifferent, accepts_type_object read, accepts_type_object read]
  · have inFirst : ∀ ns : Namespace, first.has ns.key = true := by
      intro ns
      obtain ⟨a, _, found, _⟩ := namespaces ns
      exact (Fields.has_eq_true_iff _ _).mpr ⟨_, found⟩
    have inSecond : ∀ ns : Namespace, second.has ns.key = true := by
      intro ns
      obtain ⟨_, b, _, found, _⟩ := namespaces ns
      exact (Fields.has_eq_true_iff _ _).mpr ⟨_, found⟩
    rw [Indifferent, accepts_required read inFirst, accepts_required read inSecond]
  · refine indifferent_properties (fun child listed => ?_) _ rfl part read
    exact parts_indifferent unique namespaces others listed

end Container

end Contract

section Filled

variable {children : Fields} (unique : (Json.obj [("properties", .obj children)]).DistinctKeys)

include unique

theorem default_of_unmentioned {ns : Namespace} (unmentioned : children.get? ns.key = none) :
    (SchemaDefaults.ofProperties (mergeFields namespaceMembers children)).get? ns.key =
      some (.obj []) := by
  have nodup := (unique.field (field?_container children)).names
  have nodupMerged := ((distinctKeys_extend unique).field (properties_contract children)).names
  rw [SchemaDefaults.get?_ofProperties nodupMerged, get?_mergeFields nodup, unmentioned,
    get?_namespaceMembers]
  rfl

theorem filled_namespace {request : Request} {fields : Fields}
    (document : request.document = .obj fields)
    (objects : ∀ ns value, request.get ns = some value → ∃ inside : Fields, value = .obj inside)
    (supplied : ∀ (ns : Namespace) s, children.get? ns.key = some s →
      ∃ value, request.get ns = some value) (ns : Namespace) :
    ∃ inside : Fields, (SchemaDefaults.fill fields
      (SchemaDefaults.ofProperties (mergeFields namespaceMembers children))).get? ns.key =
        some (.obj inside) ∧ ∀ value, request.get ns = some value → value = .obj inside := by
  have named : fields.get? ns.key = request.get ns := by
    rw [← request.field?_document ns, document]
    rfl
  rw [SchemaDefaults.get?_fill, named]
  cases present : request.get ns with
  | some value =>
    obtain ⟨inside, rfl⟩ := objects ns value present
    exact ⟨inside, rfl, fun other same => (Option.some.inj same).symm⟩
  | none =>
    cases mentioned : children.get? ns.key with
    | some s =>
      obtain ⟨value, found⟩ := supplied ns s mentioned
      cases present.symm.trans found
    | none =>
      rw [default_of_unmentioned unique mentioned]
      exact ⟨[], rfl, by simp⟩

omit unique in
theorem filled_other {request : Request} {fields : Fields}
    (document : request.document = .obj fields)
    (defaults : Fields) {name : String} (outside : ∀ ns : Namespace, ns.key ≠ name) :
    (SchemaDefaults.fill fields defaults).get? name = defaults.get? name := by
  have absent := request.field?_document_other outside
  rw [document] at absent
  rw [SchemaDefaults.get?_fill, show fields.get? name = none from absent, Option.none_or]

end Filled

/-- A namespace that the schema mentions is supplied by both requests if every attribute is, and
they agree at its leaves if they agree on the attributes. -/
theorem mentioned_agree {children : Fields} {classification : Classification} {found : Extraction}
    (layered : Layered (.obj [("properties", .obj children)]))
    (extracted : Extraction.ofShape (Shape.ofJson (.obj [("properties", .obj children)]))
      classification = .ok found) {first second : Request}
    (same : ∀ path ∈ found.buckets.all, ∃ value,
      first.document.at? (AttributePath.keys path) = some value ∧
      second.document.at? (AttributePath.keys path) = some value)
    (ns : Namespace) (s : Json) (named : children.get? ns.key = some s) :
    Layered s ∧ ∃ a b, first.get ns = some a ∧ second.get ns = some b ∧ AgreeAt s a b := by
  have listed := Fields.mem_of_get? named
  have inside := layered.inside listed
  refine ⟨inside, ?_⟩
  rw [← first.field?_document ns, ← second.field?_document ns]
  refine AgreeAt.under inside fun chain reached => ?_
  have fromRoot : Shape.LeafAt (ns.key :: chain)
      (Shape.ofJson (.obj [("properties", .obj children)])) :=
    (Shape.leafAt_container_iff _ _).mpr ⟨ns.key, s, chain, listed, reached, rfl⟩
  have unmarked := layered.unmarked_chain fromRoot
  rw [Shape.ofJson_container] at extracted fromRoot
  have agree := same _ (Extraction.ofChain_mem_all extracted fromRoot)
  rwa [AttributePath.keys_ofChain (List.cons_ne_nil _ _) unmarked] at agree

/-- The rule's attributes decide: two requests with objects for what they supply that have every
attribute of the rule, with the same value, are both satisfied or both not, whatever else is in
them. -/
theorem attributes_suffice {schema : Json} (unique : schema.DistinctKeys)
    (container : IsContainer schema) (layered : Layered schema) {classification : Classification}
    {rule : Rule}
    (compiled : (Rule.compile Validator.jsonSchema classification schema).result = .ok rule)
    {first second : Request}
    (firstObjects : ∀ ns value, first.get ns = some value → ∃ inside, value = .obj inside)
    (secondObjects : ∀ ns value, second.get ns = some value → ∃ inside, value = .obj inside)
    (same : ∀ path ∈ rule.attributes.all, ∃ value,
      first.document.at? (AttributePath.keys path) = some value ∧
      second.document.at? (AttributePath.keys path) = some value) :
    (rule.evaluate first).result = .satisfied ↔ (rule.evaluate second).result = .satisfied := by
  obtain ⟨children, rfl⟩ := container
  obtain ⟨_, found, checker, _, extracted, made, rfl⟩ :=
    (Rule.compile_eq_ok_iff _ _ _ _).mp compiled
  have mentioned := mentioned_agree layered extracted same
  have suppliedFirst : ∀ (ns : Namespace) s, children.get? ns.key = some s →
      ∃ value, first.get ns = some value := by
    intro ns s named
    obtain ⟨_, a, _, present, _⟩ := mentioned ns s named
    exact ⟨a, present⟩
  have suppliedSecond : ∀ (ns : Namespace) s, children.get? ns.key = some s →
      ∃ value, second.get ns = some value := by
    intro ns s named
    obtain ⟨_, _, b, _, present, _⟩ := mentioned ns s named
    exact ⟨b, present⟩
  obtain ⟨root, refs, spelled, grants⟩ := Validator.jsonSchema_of_ok made
  rw [Rule.evaluate_satisfied, Rule.evaluate_satisfied, grants, grants, Rule.contractOf,
    SchemaDefaults.ofSchema_lower]
  obtain ⟨fields, document⟩ : ∃ fields : Fields, first.document = .obj fields := ⟨_, rfl⟩
  obtain ⟨others, document'⟩ : ∃ fields : Fields, second.document = .obj fields := ⟨_, rfl⟩
  rw [document, document']
  refine indifferent_contract unique (fun ns => ?_) (fun name outside => ?_) root spelled
  · obtain ⟨a, inFirst, onlyFirst⟩ := filled_namespace unique document firstObjects suppliedFirst ns
    obtain ⟨b, inSecond, onlySecond⟩ :=
      filled_namespace unique document' secondObjects suppliedSecond ns
    refine ⟨a, b, inFirst, inSecond, fun s named => ?_⟩
    obtain ⟨inside, p, q, present, present', agree⟩ := mentioned ns s named
    cases onlyFirst p present
    cases onlySecond q present'
    exact ⟨inside, agree⟩
  · rw [filled_other document _ outside, filled_other document' _ outside]

def administrators : Json :=
  .obj [("properties", .obj [("subject", .obj [("properties", .obj [
    ("role", .obj [("enum", .arr [.str "admin"])])])])])]

def sparseRequest : Request where
  subject := some (.obj [("role", .str "admin")])
  object := none
  environment := none

def fullRequest : Request where
  subject := some (.obj [("name", .str "ada"), ("role", .str "admin")])
  object := some (.obj [("owner", .null)])
  environment := some (.obj [])

theorem layered_administrators : Layered administrators := by
  refine .container (by simp) (by decide) fun child listed => ?_
  cases List.mem_singleton.mp listed
  refine .container (by simp) (by decide) fun child listed => ?_
  cases List.mem_singleton.mp listed
  exact .leaf rfl

theorem attributes_suffice_administrators : ∃ rule,
    (Rule.compile Validator.jsonSchema .firstSegment administrators).result = .ok rule ∧
    ((rule.evaluate sparseRequest).result = .satisfied ↔
      (rule.evaluate fullRequest).result = .satisfied) := by
  have unique : administrators.DistinctKeys := by
    simp [administrators, Json.DistinctKeys, Json.DistinctKeysIn, Json.DistinctKeysUnder]
  obtain ⟨rule, compiled⟩ : ∃ rule,
      (Rule.compile Validator.jsonSchema .firstSegment administrators).result = .ok rule :=
    exists_ok_of_toBool (by decide +kernel)
  have attributes : rule.attributes.all = ["/subject/role"] := by
    obtain ⟨_, found, _, _, extracted, _, rfl⟩ := (Rule.compile_eq_ok_iff _ _ _ _).mp compiled
    have only : (Extraction.ofShape (Shape.ofJson administrators) .firstSegment).toOption =
        some ⟨⟨["/subject/role"], [], []⟩, []⟩ := by
      decide +kernel
    rw [extracted] at only
    cases Option.some.inj only
    rfl
  have keys : AttributePath.keys "/subject/role" = ["subject", "role"] := by decide +kernel
  refine ⟨rule, compiled,
    attributes_suffice unique ⟨_, rfl⟩ layered_administrators compiled ?_ ?_ ?_⟩
  · intro ns value supplied
    cases ns <;> cases supplied
    exact ⟨_, rfl⟩
  · intro ns value supplied
    cases ns <;> cases supplied <;> exact ⟨_, rfl⟩
  · rw [attributes]
    intro path listed
    cases List.mem_singleton.mp listed
    rw [keys]
    exact ⟨.str "admin", rfl, rfl⟩

end AccessRules
