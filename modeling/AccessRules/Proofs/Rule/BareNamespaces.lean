import AccessRules.Proofs.Attribute.Extraction
import AccessRules.Proofs.Attribute.Pointers
import AccessRules.Proofs.Rule.Checking
import AccessRules.Proofs.Rule.Merging

/-!
The base contract asks for no attributes. A schema that is laid over it is walked as before, but for
the namespaces that it does not mention, which are leaves then. Since a rule reads its attributes
off the schema alone, it needs a namespace as a whole only where the schema itself says so.
-/

namespace AccessRules

namespace AttributePath

theorem ofChain_eq_single_iff {key : String} (unmarked : '/' ∉ key.toList) {chain : List String}
    (nonempty : chain ≠ []) : ofChain chain = ofChain [key] ↔ chain = [key] := by
  constructor
  · intro same
    rw [ofChain_eq_iff nonempty (List.cons_ne_nil key []),
      pieces_of_unmarked (List.forall_mem_singleton.mpr unmarked)] at same
    have short : chain.length ≤ 1 := by
      simpa [same] using length_pieces_ge chain
    obtain ⟨other, rfl⟩ : ∃ other, chain = [other] :=
      List.length_eq_one_iff.mp (Nat.le_antisymm short (List.length_pos_iff.mpr nonempty))
    have plain : ∀ key ∈ [other], '/' ∉ key.toList := unmarked_of_length_pieces (by simp [same])
    rw [pieces_of_unmarked plain] at same
    exact (List.map_inj_right fun _ _ => String.toList_inj.mp).mp same
  · rintro rfl
    rfl

end AttributePath

namespace Shape

def shaping : List String := ["properties", "anyOf", "allOf", "oneOf", "not"]

theorem ofJson_congr {fields others : Fields}
    (same : ∀ keyword ∈ shaping, (Json.obj fields).field? keyword =
      (Json.obj others).field? keyword) : ofJson (.obj fields) = ofJson (.obj others) := by
  have container : container? (.obj fields) = container? (.obj others) := by
    rw [container?, container?, same "properties" (by decide)]
  have listed : ∀ keyword ∈ shaping,
      listed? keyword (.obj fields) = listed? keyword (.obj others) := by
    intro keyword known
    rw [listed?, listed?, same keyword known]
  have negated : negated? (.obj fields) = negated? (.obj others) := by
    rw [negated?, negated?, same "not" (by decide)]
  simp only [ofJson, propertiesIn_eq, branchesIn_eq, negationIn_eq, container, negated,
    listed "anyOf" (by decide), listed "allOf" (by decide), listed "oneOf" (by decide)]

theorem mem_paths_iff_member {schema : Json} (distinct : schema.DistinctKeys) (path : String) :
    path ∈ (ofJson schema).paths ↔ ∃ key s rest, schema.member? "properties" key = some s ∧
      LeafAt rest (ofJson s) ∧ path = AttributePath.ofChain (key :: rest) := by
  rw [mem_paths_ofJson_iff]
  constructor
  · rintro ⟨container, chain, reached, rfl⟩
    obtain ⟨children, found⟩ := Option.ne_none_iff_exists'.mp container
    obtain ⟨key, s, rest, listed, below, rfl⟩ := (leafAt_ofJson_container found).mp reached
    have under := (container?_eq_some_iff children).mp found
    have named := Fields.get?_of_mem (distinct.field under).names listed
    have member := (Json.member?_eq_some_iff _ _ _ _).mpr ⟨children, under, named⟩
    exact ⟨key, s, rest, member, below, rfl⟩
  · rintro ⟨key, s, rest, named, below, rfl⟩
    obtain ⟨children, under, here⟩ := (Json.member?_eq_some_iff _ _ _ _).mp named
    have found := (container?_eq_some_iff children).mpr under
    refine ⟨by simp [found], key :: rest, ?_, rfl⟩
    exact (leafAt_ofJson_container found).mpr ⟨key, s, rest, Fields.mem_of_get? here, below, rfl⟩

theorem leafAt_nil_iff (shape : Shape) : LeafAt [] shape ↔ shape = .leaf := by
  constructor
  · intro reached
    cases reached with
    | leaf => rfl
    | branch combined listed below => cases below with
      | branch combined listed below => cases combined
  · rintro rfl
    exact .leaf

end Shape

namespace Contract

theorem ofJson_merge_namespaceSchema {value : Json} (distinct : value.DistinctKeys) :
    Shape.ofJson (merge namespaceSchema value) = Shape.ofJson value := by
  cases value with
  | obj fields =>
    refine Shape.ofJson_congr fun keyword known => ?_
    have other : ∀ keyword ∈ Shape.shaping, keyword ∉ ["type", "default"] := by decide
    have below := field?_namespaceSchema_other (other keyword known)
    have joined := field?_merge distinct namespaceSchema keyword
    rwa [below, none_laid] at joined
  | _ => rfl

/-- The schema leaves a namespace to the base contract: its properties, if it has any, are an object
without the namespace. -/
structure Unmentioned (schema : Json) (ns : Namespace) : Prop where
  usable : ∀ argument, schema.field? "properties" = some argument →
    ∃ members : Fields, argument = .obj members
  absent : schema.member? "properties" ns.key = none

section Members

variable {fields : Fields} (unique : (Json.obj fields).DistinctKeys)

include unique

theorem member?_extend (usable : ∀ argument, fields.get? "properties" = some argument →
    ∃ members : Fields, argument = .obj members) (name : String) :
    (extend (.obj fields)).member? "properties" name =
      laid (namespaceMembers.get? name) ((Json.obj fields).member? "properties" name) := by
  obtain ⟨members, found, named⟩ := properties_extend unique usable
  rw [← named, Json.member?, found]
  rfl

theorem member?_extend_of_misshapen {argument : Json}
    (found : fields.get? "properties" = some argument)
    (misshapen : ∀ members : Fields, argument ≠ .obj members) (name : String) :
    (extend (.obj fields)).member? "properties" name = none := by
  have there : (extend (.obj fields)).field? "properties" = some argument := by
    rw [field?_extend unique, found]
    exact congrArg some (merge_of_not_obj _ misshapen)
  rw [Json.member?, there, Option.bind_some]
  cases argument with
  | obj members => exact absurd rfl (misshapen members)
  | _ => rfl

theorem exists_child_of_schema {name : String} {s : Json}
    (named : (Json.obj fields).member? "properties" name = some s) :
    ∃ t, (extend (.obj fields)).member? "properties" name = some t ∧
      Shape.ofJson t = Shape.ofJson s := by
  have usable : ∀ argument, fields.get? "properties" = some argument →
      ∃ members : Fields, argument = .obj members := by
    intro argument found
    obtain ⟨members, under, _⟩ := (Json.member?_eq_some_iff _ _ _ _).mp named
    exact ⟨members, Option.some.inj (found.symm.trans under)⟩
  have joined := member?_extend unique usable name
  rw [named] at joined
  by_cases reserved : ∃ ns : Namespace, ns.key = name
  · obtain ⟨ns, rfl⟩ := reserved
    rw [get?_namespaceMembers, some_laid] at joined
    exact ⟨_, joined, ofJson_merge_namespaceSchema (unique.ofMember named)⟩
  · rw [get?_namespaceMembers_other (not_exists.mp reserved), none_laid] at joined
    exact ⟨s, joined, rfl⟩

theorem member?_extend_of_unmentioned {ns : Namespace}
    (unmentioned : Unmentioned (.obj fields) ns) :
    (extend (.obj fields)).member? "properties" ns.key = some namespaceSchema := by
  rw [member?_extend unique unmentioned.usable, unmentioned.absent, laid_none,
    get?_namespaceMembers]

theorem child_cases {name : String} {t : Json}
    (named : (extend (.obj fields)).member? "properties" name = some t) :
    (∃ s, (Json.obj fields).member? "properties" name = some s ∧
      Shape.ofJson t = Shape.ofJson s) ∨
    ∃ ns : Namespace, ns.key = name ∧ Unmentioned (.obj fields) ns ∧ Shape.ofJson t = .leaf := by
  cases own : (Json.obj fields).member? "properties" name with
  | some s =>
    obtain ⟨kept, there, same⟩ := exists_child_of_schema unique own
    cases Option.some.inj (named.symm.trans there)
    exact .inl ⟨s, rfl, same⟩
  | none =>
    have usable : ∀ argument, fields.get? "properties" = some argument →
        ∃ members : Fields, argument = .obj members := by
      intro argument found
      by_contra misshapen
      rw [member?_extend_of_misshapen unique found (not_exists.mp misshapen)] at named
      cases named
    rw [member?_extend unique usable, own, laid_none] at named
    by_cases reserved : ∃ ns : Namespace, ns.key = name
    · obtain ⟨ns, rfl⟩ := reserved
      rw [get?_namespaceMembers, Option.some.injEq] at named
      subst named
      exact .inr ⟨ns, rfl, ⟨usable, own⟩, rfl⟩
    · rw [get?_namespaceMembers_other (not_exists.mp reserved)] at named
      cases named

theorem mem_paths_extend_iff (path : String) :
    path ∈ (Shape.ofJson (extend (.obj fields))).paths ↔
      path ∈ (Shape.ofJson (.obj fields)).paths ∨
        ∃ ns : Namespace, Unmentioned (.obj fields) ns ∧ path = AttributePath.ofChain [ns.key] := by
  rw [Shape.mem_paths_iff_member (distinctKeys_extend unique), Shape.mem_paths_iff_member unique]
  constructor
  · rintro ⟨name, t, rest, named, below, rfl⟩
    rcases child_cases unique named with ⟨s, own, same⟩ | ⟨ns, rfl, unmentioned, leaf⟩
    · rw [same] at below
      exact .inl ⟨name, s, rest, own, below, rfl⟩
    · rw [leaf, Shape.leafAt_leaf_iff] at below
      subst below
      exact .inr ⟨ns, unmentioned, rfl⟩
  · rintro (⟨name, s, rest, named, below, rfl⟩ | ⟨ns, unmentioned, rfl⟩)
    · obtain ⟨t, there, same⟩ := exists_child_of_schema unique named
      exact ⟨name, t, rest, there, same ▸ below, rfl⟩
    · exact ⟨ns.key, _, [], member?_extend_of_unmentioned unique unmentioned, .leaf, rfl⟩

theorem bare_mem_paths_iff (ns : Namespace) :
    AttributePath.ofChain [ns.key] ∈ (Shape.ofJson (.obj fields)).paths ↔
      ∃ s, (Json.obj fields).member? "properties" ns.key = some s ∧ Shape.ofJson s = .leaf := by
  have unmarked : '/' ∉ ns.key.toList := by cases ns <;> decide
  rw [Shape.mem_paths_iff_member unique]
  constructor
  · rintro ⟨name, s, rest, named, below, same⟩
    have whole := (AttributePath.ofChain_eq_single_iff unmarked (List.cons_ne_nil name rest)).mp
      same.symm
    obtain ⟨rfl, rfl⟩ := List.cons.inj whole
    exact ⟨s, named, (Shape.leafAt_nil_iff _).mp below⟩
  · rintro ⟨s, named, leaf⟩
    exact ⟨ns.key, s, [], named, (Shape.leafAt_nil_iff _).mpr leaf, rfl⟩

end Members

end Contract

/-- The base contract is no source of attributes. Laid over it, a schema keeps all its paths and
gets no others but those of whole namespaces. The attributes of a rule are the paths of the schema
alone, so a whole namespace is among them exactly if the schema itself has a leaf for it. -/
theorem contract_adds_only_bare_namespaces {fields : Fields}
    (unique : (Json.obj fields).DistinctKeys) :
    let paths (schema : Json) := (Shape.ofJson schema).paths
    paths (.obj fields) ⊆ paths (Contract.merge (.obj Contract.base) (.obj fields)) ∧
    paths (Contract.merge (.obj Contract.base) (.obj fields)) ⊆
      paths (.obj fields) ++ ["/subject", "/object", "/environment"] ∧
    ∀ validator classification rule,
      (Rule.compile validator classification (.obj fields)).result = .ok rule →
      (∀ ns, rule.attributes.get ns =
        (paths (.obj fields)).filter fun path => classification.Gives path ns) ∧
      ∀ ns : Namespace, "/" ++ ns.key ∈ rule.attributes.all ↔
        ∃ s, (Json.obj fields).member? "properties" ns.key = some s ∧ Shape.ofJson s = .leaf := by
  refine ⟨fun path listed => ?_, fun path listed => ?_, ?_⟩
  · exact (Contract.mem_paths_extend_iff unique path).mpr (.inl listed)
  · rw [List.mem_append]
    refine ((Contract.mem_paths_extend_iff unique path).mp listed).imp_right ?_
    rintro ⟨ns, _, rfl⟩
    cases ns <;> decide
  · intro validator classification rule compiled
    obtain ⟨_, found, _, _, extracted, _, rfl⟩ := (Rule.compile_eq_ok_iff _ _ _ _).mp compiled
    refine ⟨fun ns => ?_, fun ns => ?_⟩
    · simp only [Extraction.get_ofShape extracted, Classification.owner?_eq_some_iff]
    · have whole : "/" ++ ns.key = AttributePath.ofChain [ns.key] := by cases ns <;> decide
      rw [whole, ← Contract.bare_mem_paths_iff unique]
      exact Extraction.ofChain_mem_all_iff extracted ns []

def anyone : Json := .obj [("properties", .obj [
  ("environment", .obj [("properties", .obj [("day", .obj [])])]),
  ("subject", .obj [("minProperties", Json.int 1)])])]

theorem contract_adds_only_bare_namespaces_anyone : ∃ rule,
    anyone.DistinctKeys ∧
    (Rule.compile .jsonSchema .substring anyone).result = .ok rule ∧
    "/environment/day" ∈ (Shape.ofJson (Contract.extend anyone)).paths ∧
    "/subject" ∈ rule.attributes.all ∧ "/object" ∉ rule.attributes.all := by
  have unique : anyone.DistinctKeys := by
    simp [anyone, Json.int, Json.DistinctKeys, Json.DistinctKeysUnder]
  obtain ⟨rule, compiled⟩ : ∃ rule,
      (Rule.compile .jsonSchema .substring anyone).result = .ok rule :=
    exists_ok_of_toBool (by decide +kernel)
  obtain ⟨kept, _, attributes⟩ := contract_adds_only_bare_namespaces unique
  obtain ⟨_, whole⟩ := attributes _ _ rule compiled
  refine ⟨rule, unique, compiled, kept (by decide +kernel), ?_, ?_⟩
  · exact (whole .subject).mpr ⟨_, rfl, rfl⟩
  · intro listed
    obtain ⟨s, mentioned, _⟩ := (whole .object).mp listed
    cases mentioned

end AccessRules
