import Mathlib.Data.List.Infix
import AccessRules.Proofs.Rule.Positions
import AccessRules.Proofs.Rule.Contract

/-!
One value laid over another. Where both are objects their fields are joined: the names below keep
their places and the new ones follow in their order. What the value on top says at the end of a
chain of names is what is found there, and what it leaves alone is as it was below. A second time
changes nothing. A schema may be lowered before it is laid over the base contract or after.
-/

namespace AccessRules

namespace Json

/-- The chain leads to nothing in the value, and on the way only to objects. -/
def LeavesAlone (value : Json) (chain : List String) : Prop :=
  value.at? chain = none ∧ ∀ front part, front <+: chain → value.at? front = some part →
    ∃ fields : Fields, part = .obj fields

theorem LeavesAlone.below {value part : Json} {key : String} {chain : List String}
    (alone : value.LeavesAlone (key :: chain)) (found : value.field? key = some part) :
    part.LeavesAlone chain := by
  refine ⟨at?_cons found chain ▸ alone.1, fun front inside before reached => ?_⟩
  refine alone.2 (key :: front) inside ((List.prefix_cons_inj key).mpr before) ?_
  rw [at?_cons found, reached]

end Json

namespace Contract

theorem merge_of_not_obj (below : Json) {value : Json}
    (plain : ∀ fields, value ≠ .obj fields) : merge below value = value := by
  cases value with
  | obj fields => exact absurd rfl (plain fields)
  | _ => rfl

theorem names_mergeFields {below fields : Fields} (nodup : (fields.map (·.1)).Nodup) :
    (mergeFields below fields).map (·.1) =
      below.map (·.1) ++ (fields.map (·.1)).filter (· ∉ below.map (·.1)) := by
  induction fields generalizing below with
  | nil => simp [mergeFields]
  | cons first rest ih =>
    obtain ⟨key, value⟩ := first
    rw [List.map_cons, List.nodup_cons] at nodup
    rw [mergeFields, ih nodup.2, Fields.names_put, List.map_cons]
    by_cases known : key ∈ below.map (·.1)
    · rw [if_pos known, List.filter_cons_of_neg (by simpa using known)]
    · have apart : ∀ name ∈ rest.map (·.1), name ≠ key := by
        rintro name listed rfl
        exact nodup.1 listed
      have others : (rest.map (·.1)).filter (· ∉ below.map (·.1) ++ [key]) =
          (rest.map (·.1)).filter (· ∉ below.map (·.1)) := by
        refine List.filter_congr fun name listed => ?_
        simp [apart name listed]
      rw [if_neg known, List.filter_cons_of_pos (by simpa using known), others, List.append_assoc,
        List.singleton_append]

theorem field?_merge {fields : Fields} (distinct : (Json.obj fields).DistinctKeys) (below : Json)
    (name : String) : (merge below (.obj fields)).field? name =
      laid (below.field? name) ((Json.obj fields).field? name) := by
  cases below with
  | obj old => exact get?_mergeFields distinct.names name
  | _ => exact (none_laid _).symm

theorem at?_merge {value part : Json} {chain : List String} (distinct : value.DistinctKeys)
    (found : value.at? chain = some part) (below : Json) :
    (merge below value).at? chain = laid (below.at? chain) (some part) := by
  induction chain generalizing below value with
  | nil =>
    cases found
    rfl
  | cons key chain ih =>
    obtain ⟨inside, here, reached⟩ := Option.bind_eq_some_iff.mp found
    cases value with
    | obj fields =>
      have joined := field?_merge distinct below key
      rw [here] at joined
      cases known : below.field? key with
      | none =>
        have nothing : below.at? (key :: chain) = none := by
          rw [Json.at?, known, Option.bind_none]
        rw [known, none_laid] at joined
        rw [nothing, none_laid, Json.at?_cons joined, reached]
      | some under =>
        rw [known, some_laid] at joined
        rw [Json.at?_cons known, Json.at?_cons joined]
        exact ih (distinct.field here) reached under
    | _ => cases here

theorem at?_merge_of_leavesAlone {below value part : Json} {chain : List String}
    (distinct : value.DistinctKeys) (alone : value.LeavesAlone chain)
    (found : below.at? chain = some part) : (merge below value).at? chain = some part := by
  induction chain generalizing below value with
  | nil => cases alone.1
  | cons key chain ih =>
    obtain ⟨fields, rfl⟩ := alone.2 [] value List.nil_prefix rfl
    obtain ⟨under, known, found⟩ := Option.bind_eq_some_iff.mp found
    have joined := field?_merge distinct below key
    rw [known] at joined
    cases here : (Json.obj fields).field? key with
    | none =>
      rw [here, laid_none] at joined
      rw [Json.at?_cons joined, found]
    | some inside =>
      rw [here, some_laid] at joined
      rw [Json.at?_cons joined]
      exact ih (distinct.field here) (alone.below here) found

theorem merge_of_included {below fields : Fields} (nodup : (below.map (·.1)).Nodup)
    (distinct : (Json.obj fields).DistinctKeys)
    (included : ∀ name part, Fields.get? fields name = some part →
      ∃ old, Fields.get? below name = some old ∧ merge old part = old) :
    merge (.obj below) (.obj fields) = .obj below := by
  have known : ∀ name ∈ fields.map (·.1), name ∈ below.map (·.1) := by
    intro name listed
    obtain ⟨⟨_, part⟩, member, rfl⟩ := List.mem_map.mp listed
    obtain ⟨old, there, _⟩ := included _ part (Fields.get?_of_mem distinct.names member)
    exact List.mem_map_of_mem (f := (·.1)) (Fields.mem_of_get? there)
  have nothingNew : (fields.map (·.1)).filter (· ∉ below.map (·.1)) = [] :=
    List.filter_eq_nil_iff.mpr fun name listed => by simpa using known name listed
  have names : (mergeFields below fields).map (·.1) = below.map (·.1) := by
    rw [names_mergeFields distinct.names, nothingNew, List.append_nil]
  rw [merge_obj, Fields.eq_of_get? (names ▸ nodup) names fun name => ?_]
  rw [get?_mergeFields distinct.names]
  cases found : Fields.get? fields name with
  | none => rfl
  | some part =>
    obtain ⟨old, there, same⟩ := included name part found
    rw [there, some_laid, same]

theorem merge_self {value : Json} (distinct : value.DistinctKeys) : merge value value = value := by
  induction size : sizeOf value using Nat.strongRecOn generalizing value with
  | ind size ih =>
    cases value with
    | obj fields =>
      refine merge_of_included distinct.names distinct fun name part found => ⟨part, found, ?_⟩
      have listed := Fields.mem_of_get? found
      exact ih _ (size ▸ Json.sizeOf_member_lt listed) (distinct.member listed) rfl
    | _ => rfl

theorem merge_merge {below value : Json} (distinctBelow : below.DistinctKeys)
    (distinct : value.DistinctKeys) : merge (merge below value) value = merge below value := by
  induction size : sizeOf value using Nat.strongRecOn generalizing below value with
  | ind size ih =>
    cases value with
    | obj fields =>
      cases below with
      | obj old =>
        have joined := (distinctKeys_merge distinctBelow distinct).names
        refine merge_of_included joined distinct fun name part found => ?_
        have listed := Fields.mem_of_get? found
        rw [get?_mergeFields distinct.names, found]
        cases known : Fields.get? old name with
        | none =>
          -- A new name stands for what is on top alone.
          exact ⟨part, rfl, merge_self (distinct.member listed)⟩
        | some under =>
          have inside := distinctBelow.member (Fields.mem_of_get? known)
          exact ⟨_, rfl, ih _ (size ▸ Json.sizeOf_member_lt listed) inside
            (distinct.member listed) rfl⟩
      | _ => exact merge_self distinct
    | _ => rfl

/-- Whether a value is changed before it is laid over this one or after makes no difference. -/
structure Neutral (change : Json → Json) (below : Json) : Prop where
  alone : change below = below
  under : ∀ value : Json, value.DistinctKeys →
    change (merge below value) = merge below (change value)

theorem map_mergeFields (change : String → Json → Json) {below fields : Fields}
    (nodup : (below.map (·.1)).Nodup) (distinct : (Json.obj fields).DistinctKeys)
    (each : ∀ field ∈ below, Neutral (change field.1) field.2) :
    (mergeFields below fields).map (fun f => (f.1, change f.1 f.2)) =
      mergeFields below (fields.map fun f => (f.1, change f.1 f.2)) := by
  have kept : (fields.map fun f => (f.1, change f.1 f.2)).map (·.1) = fields.map (·.1) := by
    simp
  have changedNodup : ((fields.map fun f => (f.1, change f.1 f.2)).map (·.1)).Nodup :=
    kept ▸ distinct.names
  have names : ((mergeFields below fields).map fun f => (f.1, change f.1 f.2)).map (·.1) =
      (mergeFields below (fields.map fun f => (f.1, change f.1 f.2))).map (·.1) := by
    rw [names_mergeFields changedNodup, kept, ← names_mergeFields distinct.names, List.map_map]
    rfl
  refine Fields.eq_of_get? ?_ names fun name => ?_
  · rw [names, names_mergeFields changedNodup, kept, List.nodup_append]
    refine ⟨nodup, distinct.names.filter _, ?_⟩
    rintro name old _ new rfl
    exact absurd old (by simpa using (List.mem_filter.mp new).2)
  · rw [Fields.get?_map, get?_mergeFields changedNodup, get?_mergeFields distinct.names,
      Fields.get?_map]
    cases known : Fields.get? below name with
    | none => rw [none_laid, none_laid]
    | some old =>
      have neutral := each _ (Fields.mem_of_get? known)
      cases found : Fields.get? fields name with
      | none => rw [Option.map_none, laid_none, Option.map_some, neutral.alone]
      | some value =>
        have inside := distinct.member (Fields.mem_of_get? found)
        rw [Option.map_some, some_laid, some_laid, Option.map_some, neutral.under value inside]

theorem neutral_nowhere {keyword : String} (place : SchemaPlace.ofKeyword keyword = .nowhere)
    (below : Json) : Neutral (Lowering.lowerValue keyword) below where
  alone := Lowering.lowerValue_nowhere place below
  under := fun value _ => by
    rw [Lowering.lowerValue_nowhere place, Lowering.lowerValue_nowhere place]

theorem neutral_lower {below : Fields} (nodup : (below.map (·.1)).Nodup)
    (each : ∀ field ∈ below, Neutral (Lowering.lowerValue field.1) field.2) :
    Neutral Lowering.lower (.obj below) where
  alone := by
    rw [Lowering.lower_obj, Lowering.map_eq_self fun field listed => ?_]
    rw [(each field listed).alone]
  under := by
    intro value distinct
    cases value with
    | obj fields =>
      rw [merge_obj, Lowering.lower_obj, Lowering.lower_obj, merge_obj,
        map_mergeFields Lowering.lowerValue nodup distinct each]
    | _ => rfl

theorem neutral_namespaceSchema : Neutral Lowering.lower namespaceSchema := by
  refine neutral_lower (by decide) fun field listed => neutral_nowhere ?_ field.2
  have keyword : field.1 ∈ ["type", "default"] := List.mem_map_of_mem (f := (·.1)) listed
  have nowhere : ∀ keyword ∈ ["type", "default"], SchemaPlace.ofKeyword keyword = .nowhere := by
    decide
  exact nowhere _ keyword

theorem neutral_properties :
    Neutral (Lowering.lowerValue "properties") (.obj namespaceMembers) := by
  have members : ∀ member ∈ namespaceMembers, Neutral Lowering.lower member.2 := by
    intro member listed
    obtain ⟨ns, _, rfl⟩ := List.mem_map.mp listed
    exact neutral_namespaceSchema
  constructor
  case alone =>
    rw [lowerValue_properties, Lowering.map_eq_self fun member listed => ?_]
    rw [(members member listed).alone]
  case under =>
    intro value distinct
    cases value with
    | obj fields =>
      rw [merge_obj, lowerValue_properties, lowerValue_properties, merge_obj,
        map_mergeFields (fun _ => Lowering.lower) (by decide) distinct members]
    | _ => rfl

theorem neutral_base : Neutral Lowering.lower (.obj base) := by
  refine neutral_lower (by decide) fun field listed => ?_
  simp only [base, List.mem_cons, List.not_mem_nil, or_false] at listed
  rcases listed with rfl | rfl | rfl
  · exact neutral_nowhere (by decide) _
  · exact neutral_nowhere (by decide) _
  · exact neutral_properties

/-- What comes of laying one value over another. -/
structure Joins (below value joined : Json) : Prop where
  distinct : joined.DistinctKeys
  fields : ∀ old new : Fields, below = .obj old → value = .obj new → ∃ both : Fields,
    joined = .obj both ∧ both.names = old.names ++ new.names.filter (· ∉ old.names) ∧
      ∀ name under above, old.get? name = some under → new.get? name = some above →
        both.get? name = some (merge under above)
  replaced : ∀ chain part, value.at? chain = some part →
    (∀ fields : Fields, part ≠ .obj fields) → joined.at? chain = some part
  kept : ∀ chain part, below.at? chain = some part → value.LeavesAlone chain →
    joined.at? chain = some part
  again : merge joined value = joined

theorem joins_merge {below value : Json} (distinctBelow : below.DistinctKeys)
    (distinct : value.DistinctKeys) : Joins below value (merge below value) where
  distinct := distinctKeys_merge distinctBelow distinct
  fields := by
    rintro old new rfl rfl
    refine ⟨_, merge_obj old new, names_mergeFields distinct.names, ?_⟩
    intro name under above known found
    rw [get?_mergeFields distinct.names, known, found, some_laid]
  replaced := by
    intro chain part found plain
    rw [at?_merge distinct found below]
    cases below.at? chain with
    | none => rfl
    | some under => rw [some_laid, merge_of_not_obj under plain]
  kept := fun _ _ found alone => at?_merge_of_leavesAlone distinct alone found
  again := merge_merge distinctBelow distinct

end Contract

/-- Laying one value over another joins them name by name: names come once and in their order, what
the upper value says stands, what it leaves alone stays, and doing it again changes nothing. A
schema that is laid over the base contract may be lowered before or after. -/
theorem merge_joins_by_name :
    (∀ below value : Json, below.DistinctKeys → value.DistinctKeys →
      Contract.Joins below value (Contract.merge below value)) ∧
    ∀ fields : Fields, (Json.obj fields).DistinctKeys →
      Lowering.lower (Contract.merge (.obj Contract.base) (.obj fields)) =
        Contract.merge (.obj Contract.base) (Lowering.lower (.obj fields)) :=
  ⟨fun _ _ => Contract.joins_merge, fun fields => Contract.neutral_base.under (.obj fields)⟩

def restricted : Json := .obj [("properties", .obj [("subject", .obj [
  ("default", .obj [("not", .arr [])]), ("not", .arr [.obj [("enum", .arr [.null])]])])])]

theorem merge_joins_by_name_restricted :
    (Json.obj Contract.base).DistinctKeys ∧ restricted.DistinctKeys ∧
    (Contract.extend restricted).at? ["properties", "subject", "default", "not"] =
      some (.arr []) ∧
    restricted.LeavesAlone ["properties", "subject", "type"] ∧
    (Contract.extend restricted).at? ["properties", "subject", "type"] = some (.str "object") ∧
    Lowering.lower (Contract.extend restricted) =
      Contract.merge (.obj Contract.base) (Lowering.lower restricted) := by
  have base := Contract.distinctKeys_base
  have distinct : restricted.DistinctKeys := by
    simp [restricted, Json.DistinctKeys, Json.DistinctKeysIn, Json.DistinctKeysUnder]
  have joins := merge_joins_by_name.1 _ _ base distinct
  have alone : restricted.LeavesAlone ["properties", "subject", "type"] := by
    refine ⟨rfl, fun front part before reached => ?_⟩
    rw [← List.mem_inits] at before
    simp only [List.inits, List.map_cons, List.map_nil, List.mem_cons, List.not_mem_nil,
      or_false] at before
    rcases before with rfl | rfl | rfl | rfl <;> cases reached <;> exact ⟨_, rfl⟩
  have replaced := joins.replaced ["properties", "subject", "default", "not"] (.arr []) rfl
    (by simp)
  exact ⟨base, distinct, replaced, alone, joins.kept _ _ rfl alone,
    merge_joins_by_name.2 _ distinct⟩

end AccessRules
