import AccessRules.Proofs.Json.Fields
import AccessRules.Proofs.Schema.Compilation

/-!
Which other keywords a keyword looks at. Two schemas that agree on those compile the keyword alike,
so that a schema can be taken apart keyword by keyword.
-/

namespace AccessRules

namespace Keyword

/-- The keywords of the same schema that a keyword looks at. -/
def siblingsOf (keyword : String) : List String :=
  match keyword with
  | "contentMediaType" => ["contentEncoding"]
  | "contentEncoding" => ["contentMediaType"]
  | "properties" | "patternProperties" => ["additionalProperties"]
  | "additionalProperties" => ["properties", "patternProperties"]
  | "additionalItems" => ["items"]
  | "if" => ["then", "else"]
  | _ => []

section Congruence

variable {siblings others : Readings}

theorem closesProperties_congr
    (same : siblings.get? "additionalProperties" = others.get? "additionalProperties") :
    closesProperties siblings = closesProperties others := by
  rw [closesProperties, closesProperties, same]

theorem additionalProperties_congr (r : Reading)
    (names : siblings.get? "properties" = others.get? "properties")
    (patterns : siblings.get? "patternProperties" = others.get? "patternProperties") :
    additionalProperties siblings r = additionalProperties others r := by
  have members : siblingMembers siblings = siblingMembers others := by
    rw [siblingMembers, siblingMembers, names]
  have matching : siblingPatterns siblings = siblingPatterns others := by
    rw [siblingPatterns, siblingPatterns, patterns]
  have hasNames : siblings.has "properties" = others.has "properties" := by
    rw [Readings.has, Readings.has, names]
  have hasPatterns : siblings.has "patternProperties" = others.has "patternProperties" := by
    rw [Readings.has, Readings.has, patterns]
  rw [additionalProperties, additionalProperties, members, matching, hasNames, hasPatterns]

theorem compile_congr {keyword : String} (r : Reading)
    (same : ∀ other ∈ siblingsOf keyword, siblings.get? other = others.get? other) :
    compile siblings keyword r = compile others keyword r := by
  unfold siblingsOf at same
  split at same <;> simp only [List.forall_mem_cons, List.not_mem_nil, false_implies,
    implies_true, and_true] at same
  · change contentMediaType siblings r = contentMediaType others r
    rw [contentMediaType, contentMediaType, Readings.value?, Readings.value?, same]
  · change contentEncoding siblings r = contentEncoding others r
    rw [contentEncoding, contentEncoding, Readings.has, Readings.has, same]
  · change properties siblings r = properties others r
    rw [properties, properties, closesProperties_congr same]
  · change patternProperties siblings r = patternProperties others r
    rw [patternProperties, patternProperties, closesProperties_congr same]
  · exact additionalProperties_congr r same.1 same.2
  · change additionalItems siblings r = additionalItems others r
    rw [additionalItems, additionalItems, Readings.value?, Readings.value?, same]
  · change conditional siblings r = conditional others r
    rw [conditional, conditional, same.1, same.2]
  · unfold compile
    split <;> first | rfl | contradiction

end Congruence

end Keyword

namespace Constraint

variable {base : Url} {refs : String → Json → Bool}

theorem ofField_congr {fields others : Fields} {keyword : String} (argument : Json)
    (same : ∀ other ∈ Keyword.siblingsOf keyword, fields.get? other = others.get? other) :
    ofField base fields keyword argument = ofField base others keyword argument := by
  refine Keyword.compile_congr _ fun other beside => ?_
  rw [get?_readingsOf, get?_readingsOf, same other beside]

def Compiles (base : Url) (schema : Json) : Prop :=
  ∃ c, Spells base schema c

theorem exists_forall₂ {α β : Type} {related : α → β → Prop} {items : List α}
    (each : ∀ item ∈ items, ∃ result, related item result) :
    ∃ results, List.Forall₂ related items results := by
  induction items with
  | nil => exact ⟨[], .nil⟩
  | cons item rest ih =>
    obtain ⟨first, here⟩ := each item List.mem_cons_self
    obtain ⟨others, later⟩ := ih fun other listed => each other (List.mem_cons_of_mem _ listed)
    exact ⟨first :: others, .cons here later⟩

theorem exists_forall₂_iff {α β : Type} {related : α → β → Prop} {items : List α} :
    (∃ results, List.Forall₂ related items results) ↔
      ∀ item ∈ items, ∃ result, related item result := by
  constructor
  · rintro ⟨results, pairs⟩ item listed
    exact exists_of_forall₂_mem pairs listed
  · exact exists_forall₂

section Readings

variable {keyword : String} {argument : Json}

theorem exists_each_iff : (∃ cs, (readingOf base keyword argument).each = .ok cs) ↔
    ∃ items, argument = .arr items ∧ ∀ item ∈ items, Compiles base item := by
  simp only [each_readingOf]
  rw [exists_comm]
  refine exists_congr fun items => ?_
  rw [exists_and_left, exists_forall₂_iff]
  rfl

theorem exists_eachMember_iff : (∃ cs, (readingOf base keyword argument).eachMember = .ok cs) ↔
    ∃ members, argument = .obj members ∧ ∀ member ∈ members, Compiles base member.2 := by
  simp only [eachMember_readingOf]
  rw [exists_comm]
  refine exists_congr fun members => ?_
  rw [exists_and_left, exists_forall₂_iff]
  refine and_congr_right fun _ => forall₂_congr fun member _ => ?_
  simp [Compiles]

theorem exists_eachPattern_iff : (∃ cs, (readingOf base keyword argument).eachPattern = .ok cs) ↔
    ∃ members, argument = .obj members ∧ ∀ member ∈ members,
      (∃ pattern, Pattern.ofText? member.1 = some pattern) ∧ Compiles base member.2 := by
  simp only [eachPattern_readingOf]
  rw [exists_comm]
  refine exists_congr fun members => ?_
  rw [exists_and_left, exists_forall₂_iff]
  refine and_congr_right fun _ => forall₂_congr fun member _ => ?_
  simp [Compiles]

end Readings

section Fields

variable {fields : Fields}

theorem compiles_obj_iff (nodup : (fields.map (·.1)).Nodup) (free : fields.get? "$ref" = none) :
    Compiles base (.obj fields) ↔ ∀ keyword argument, fields.get? keyword = some argument →
      ∃ part, ofField base fields keyword argument = .ok part := by
  have noReference : fields.has "$ref" = false := by simp [Fields.has, free]
  rw [← Fields.forall_get?_iff nodup]
  constructor
  · rintro ⟨c, spelled⟩ field listed
    obtain ⟨_, _, compiled⟩ := (spells_obj_iff noReference c).mp spelled
    exact exists_of_forall₂_mem compiled listed
  · intro each
    obtain ⟨parts, compiled⟩ := exists_forall₂ each
    exact ⟨_, (spells_obj_iff noReference _).mpr ⟨parts, rfl, compiled⟩⟩

theorem accepts_obj_iff {c : Constraint} (nodup : (fields.map (·.1)).Nodup)
    (free : fields.get? "$ref" = none) (spelled : Spells base (.obj fields) c) (value : Json) :
    accepts refs c value = true ↔ ∀ keyword argument, fields.get? keyword = some argument →
      ∀ part, ofField base fields keyword argument = .ok part →
        accepts refs part value = true := by
  obtain ⟨parts, rfl, compiled⟩ :=
    (spells_obj_iff (by simp [Fields.has, free]) c).mp spelled
  rw [accepts_every_iff compiled, ← Fields.forall_get?_iff nodup]

end Fields

end Constraint

end AccessRules
