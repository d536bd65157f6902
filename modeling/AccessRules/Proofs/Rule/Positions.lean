import AccessRules.Proofs.Rule.Lowering

/-!
Where lowering acts and where it does not. A position is told by the steps that lead to it, from
schema to schema. A lowered schema has no list under `not` at any position. Each schema is found
lowered where it stood, with its keywords in order, and all that is no schema is as it was. So a
schema without such lists is its own lowering, and lowering twice is lowering once.
-/

namespace AccessRules

/-- One step from a schema to a schema inside it: to the value of a keyword, to an item of that
value, or to a member of it. -/
inductive SchemaStep where
  | value (keyword : String)
  | item (keyword : String) (i : Nat)
  | member (keyword name : String)

namespace SchemaStep

/-- The step leads from the first schema to the second. -/
inductive Leads : SchemaStep → Json → Json → Prop where
  | value {fields : Fields} {keyword : String} {s : Json}
      (place : SchemaPlace.ofKeyword keyword ∈ [.negated, .oneOrMany, .single])
      (listed : (keyword, s) ∈ fields) (single : ∀ ss, s ≠ .arr ss) :
      Leads (.value keyword) (.obj fields) s
  | item {fields : Fields} {keyword : String} {ss : List Json} {i : Nat} {s : Json}
      (place : SchemaPlace.ofKeyword keyword ∈ [.negated, .oneOrMany, .listed])
      (listed : (keyword, .arr ss) ∈ fields) (found : ss[i]? = some s) :
      Leads (.item keyword i) (.obj fields) s
  | member {fields members : Fields} {keyword name : String} {s : Json}
      (place : SchemaPlace.ofKeyword keyword = .named)
      (listed : (keyword, .obj members) ∈ fields) (found : (name, s) ∈ members) :
      Leads (.member keyword name) (.obj fields) s

/-- The steps that take the place of one when the schema is lowered. What was a list under `not` is
then the list under `anyOf` in the one schema. -/
def lowered : SchemaStep → List SchemaStep
  | .item keyword i =>
    if keyword = "not" then [.value keyword, .item "anyOf" i] else [.item keyword i]
  | step => [step]

theorem Leads.sizeOf_lt {step : SchemaStep} {schema s : Json} (leads : step.Leads schema s) :
    sizeOf s < sizeOf schema := by
  cases leads with
  | value _ listed _ => exact Json.sizeOf_member_lt listed
  | item _ listed found =>
    exact Nat.lt_trans (Json.sizeOf_item_lt (List.mem_of_getElem? found))
      (Json.sizeOf_member_lt listed)
  | member _ listed found =>
    exact Nat.lt_trans (Json.sizeOf_member_lt found) (Json.sizeOf_member_lt listed)

end SchemaStep

/-- The steps lead from the first schema to the second. -/
inductive SchemaAt : List SchemaStep → Json → Json → Prop where
  | here {schema : Json} : SchemaAt [] schema schema
  | inside {step : SchemaStep} {path : List SchemaStep} {schema s t : Json}
      (first : step.Leads schema s) (rest : SchemaAt path s t) : SchemaAt (step :: path) schema t

theorem SchemaAt.trans {path others : List SchemaStep} {schema s t : Json}
    (first : SchemaAt path schema s) (rest : SchemaAt others s t) :
    SchemaAt (path ++ others) schema t := by
  induction first with
  | here => exact rest
  | inside step _ ih => exact .inside step (ih rest)

/-- The schema has a list under `not`. -/
def BansByList (schema : Json) : Prop :=
  ∃ fields ss, schema = .obj fields ∧ ("not", .arr ss) ∈ fields

def SchemaPlace.fits : SchemaPlace → Json → Bool
  | .negated, _ | .oneOrMany, _ => true
  | .listed, .arr _ | .named, .obj _ => true
  | .single, .arr _ => false
  | .single, _ => true
  | _, _ => false

/-- What the value of a keyword keeps when schemas in it change: everything, where no schema stands;
the number of schemas in a list and the names in an object of schemas. A list under `not` moves into
a schema of its own. What a schema itself keeps is told where it stands. -/
inductive KeptUnder (place : SchemaPlace) : Json → Json → Prop where
  | data {value : Json} (misplaced : place.fits value = false) : KeptUnder place value value
  | schema {s t : Json} (fits : place ∈ [.negated, .oneOrMany, .single])
      (single : ∀ ss, s ≠ .arr ss) : KeptUnder place s t
  | list {ss ts : List Json} (fits : place ∈ [.oneOrMany, .listed])
      (length : ts.length = ss.length) : KeptUnder place (.arr ss) (.arr ts)
  | banned {ss ts : List Json} (fits : place = .negated) (length : ts.length = ss.length) :
      KeptUnder place (.arr ss) (.obj [("anyOf", .arr ts)])
  | named {members others : Fields} (fits : place = .named)
      (names : Fields.names others = Fields.names members) :
      KeptUnder place (.obj members) (.obj others)

theorem SchemaPlace.ofKeyword_eq_negated_iff (keyword : String) :
    SchemaPlace.ofKeyword keyword = .negated ↔ keyword = "not" := by
  constructor
  · intro place
    unfold SchemaPlace.ofKeyword at place
    split at place
    · assumption
    · repeat' split at place
      all_goals cases place
  · rintro rfl
    decide

namespace Lowering

theorem keptUnder_lowerAt (place : SchemaPlace) (value : Json) :
    KeptUnder place value (lowerAt place value) := by
  cases place with
  | negated =>
    cases value with
    | arr ss => exact .banned rfl (List.length_map _)
    | _ => exact .schema (by decide) nofun
  | oneOrMany =>
    cases value with
    | arr ss => exact .list (by decide) (List.length_map _)
    | _ => exact .schema (by decide) nofun
  | listed =>
    cases value with
    | arr ss => exact .list (by decide) (List.length_map _)
    | _ => exact .data rfl
  | single =>
    cases value with
    | arr ss => exact .data rfl
    | _ => exact .schema (by decide) nofun
  | named =>
    cases value with
    | obj members => exact .named rfl (by simp [Fields.names])
    | _ => exact .data rfl
  | nowhere => cases value <;> exact .data rfl

theorem lower_obj (fields : Fields) :
    lower (.obj fields) = .obj (fields.map fun f => (f.1, lowerValue f.1 f.2)) := by
  rw [lower, lowerFields_eq_map]

theorem mem_lowered {fields : Fields} {keyword : String} {value : Json}
    (listed : (keyword, value) ∈ fields) : (keyword, lowerValue keyword value) ∈
      fields.map fun f => (f.1, lowerValue f.1 f.2) :=
  List.mem_map_of_mem (f := fun f => (f.1, lowerValue f.1 f.2)) listed

theorem of_mem_lowered {fields : Fields} {keyword : String} {value : Json}
    (listed : (keyword, value) ∈ fields.map fun f => (f.1, lowerValue f.1 f.2)) :
    ∃ written, (keyword, written) ∈ fields ∧ value = lowerValue keyword written := by
  obtain ⟨⟨_, written⟩, member, same⟩ := List.mem_map.mp listed
  cases same
  exact ⟨written, member, rfl⟩

section Single

variable {place : SchemaPlace} {s : Json}

theorem lowerAt_single (fits : place ∈ [.negated, .oneOrMany, .single])
    (single : ∀ ss, s ≠ .arr ss) : lowerAt place s = lower s := by
  simp only [List.mem_cons, List.not_mem_nil, or_false] at fits
  rcases fits with rfl | rfl | rfl <;> cases s <;> simp_all [lowerAt]

theorem lower_ne_arr (single : ∀ ss, s ≠ .arr ss) (ss : List Json) : lower s ≠ .arr ss := by
  cases s <;> simp_all [lower]

theorem lowerAt_negated_ne_arr (ss : List Json) : lowerAt .negated s ≠ .arr ss := by
  cases s <;> simp [lowerAt, lower]

-- The schema that is written for a list under `not` is lowered too: it is what lowering makes of
-- the same list under `anyOf`.
theorem exists_lower_of_single (fits : place ∈ [.negated, .oneOrMany, .single])
    (single : ∀ ss, lowerAt place s ≠ .arr ss) : ∃ t, lowerAt place s = lower t := by
  by_cases list : ∃ ss, s = .arr ss
  · obtain ⟨ss, rfl⟩ := list
    simp only [List.mem_cons, List.not_mem_nil, or_false] at fits
    rcases fits with rfl | rfl | rfl
    · refine ⟨.obj [("anyOf", .arr ss)], ?_⟩
      rw [lower_obj]
      rfl
    · exact absurd rfl (single (ss.map lower))
    · exact absurd rfl (single ss)
  · exact ⟨s, lowerAt_single fits (not_exists.mp list)⟩

end Single

theorem not_bansByList_lower (schema : Json) : ¬ BansByList (lower schema) := by
  rintro ⟨others, ss, same, listed⟩
  cases schema with
  | obj fields =>
    rw [lower_obj] at same
    cases same
    obtain ⟨written, _, kept⟩ := of_mem_lowered listed
    exact lowerAt_negated_ne_arr ss kept.symm
  | _ => cases same

theorem exists_lower_of_leads {step : SchemaStep} {schema t : Json}
    (leads : step.Leads (lower schema) t) : ∃ s, t = lower s := by
  cases schema with
  | obj fields =>
    rw [lower_obj] at leads
    cases leads with
    | value place listed single =>
      obtain ⟨written, _, rfl⟩ := of_mem_lowered listed
      exact exists_lower_of_single place single
    | @item _ keyword ts i _ place listed found =>
      obtain ⟨written, _, kept⟩ := of_mem_lowered listed
      rcases List.mem_cons.mp place with negated | several
      · rw [lowerValue, negated] at kept
        exact absurd kept.symm (lowerAt_negated_ne_arr ts)
      · obtain ⟨ss, rfl, rfl⟩ := (lowerValue_eq_arr_iff several _ _).mp kept.symm
        rw [List.getElem?_map, Option.map_eq_some_iff] at found
        obtain ⟨s, _, rfl⟩ := found
        exact ⟨s, rfl⟩
    | member place listed found =>
      obtain ⟨written, _, kept⟩ := of_mem_lowered listed
      rw [lowerValue, place] at kept
      cases written with
      | obj inside =>
        cases kept
        obtain ⟨⟨_, s⟩, _, same⟩ := List.mem_map.mp found
        cases same
        exact ⟨s, rfl⟩
      | _ => cases kept
  | _ => cases leads

theorem exists_lower_of_schemaAt {path : List SchemaStep} {schema t : Json}
    (reached : SchemaAt path (lower schema) t) : ∃ s, t = lower s := by
  -- That the root is a lowered schema is the invariant: every step leads to another one.
  generalize same : lower schema = root at reached
  induction reached generalizing schema with
  | here => exact ⟨schema, same.symm⟩
  | inside first _ ih =>
    subst same
    obtain ⟨s, rfl⟩ := exists_lower_of_leads first
    exact ih rfl

theorem schemaAt_lower_of_leads {step : SchemaStep} {schema s : Json}
    (leads : step.Leads schema s) : SchemaAt step.lowered (lower schema) (lower s) := by
  cases leads with
  | @value fields keyword s place listed single =>
    have kept := mem_lowered listed
    rw [lowerValue, lowerAt_single place single] at kept
    rw [lower_obj]
    exact .inside (.value place kept (lower_ne_arr single)) .here
  | @item fields keyword ss i s place listed found =>
    have kept := mem_lowered listed
    have inside : (ss.map lower)[i]? = some (lower s) := by simp [found]
    rw [lower_obj, SchemaStep.lowered]
    split
    · subst keyword
      -- The list has moved under `anyOf` in the one schema, so the way to its item is longer.
      have single : ∀ ts, lowerValue "not" (.arr ss) ≠ .arr ts := lowerAt_negated_ne_arr
      have moved : ("anyOf", .arr (ss.map lower)) ∈ [("anyOf", Json.arr (ss.map lower))] :=
        List.mem_singleton_self _
      exact .inside (.value (by decide) kept single)
        (.inside (.item (by decide) moved inside) .here)
    · rename_i other
      -- Any other list is still one, with every item where it was.
      have several : SchemaPlace.ofKeyword keyword ∈ [.oneOrMany, .listed] := by
        rw [List.mem_cons, SchemaPlace.ofKeyword_eq_negated_iff] at place
        exact place.resolve_left other
      rw [(lowerValue_eq_arr_iff several _ _).mpr ⟨ss, rfl, rfl⟩] at kept
      exact .inside (.item place kept inside) .here
  | @member fields members keyword name s place listed found =>
    have kept := mem_lowered listed
    rw [lowerValue, place] at kept
    rw [lower_obj]
    exact .inside (.member place kept (List.mem_map_of_mem (f := fun m => (m.1, lower m.2)) found))
      .here

theorem schemaAt_lower {path : List SchemaStep} {schema s : Json}
    (reached : SchemaAt path schema s) :
    SchemaAt (path.flatMap SchemaStep.lowered) (lower schema) (lower s) := by
  induction reached with
  | here => exact .here
  | inside first _ ih => exact (schemaAt_lower_of_leads first).trans ih

theorem map_eq_self {α : Type} {change : α → α} {items : List α}
    (each : ∀ item ∈ items, change item = item) : items.map change = items :=
  (List.map_congr_left each).trans (List.map_id items)

theorem lowerValue_of_parts {fields : Fields} {keyword : String} {value : Json}
    (listed : (keyword, value) ∈ fields) (unbanned : ¬ BansByList (.obj fields))
    (inside : ∀ step s, SchemaStep.Leads step (.obj fields) s → lower s = s) :
    lowerValue keyword value = value := by
  have itself : SchemaPlace.ofKeyword keyword ∈ [.negated, .oneOrMany, .single] →
      (∀ ss, value ≠ .arr ss) → lowerValue keyword value = value := fun place single =>
    (lowerAt_single place single).trans (inside _ _ (.value place listed single))
  have items : SchemaPlace.ofKeyword keyword ∈ [.oneOrMany, .listed] →
      ∀ ss, value = .arr ss → lowerValue keyword value = value := by
    rintro place ss rfl
    refine (lowerValue_eq_arr_iff place _ _).mpr ⟨ss, rfl, map_eq_self fun s member => ?_⟩
    obtain ⟨i, found⟩ := List.mem_iff_getElem?.mp member
    exact inside _ _ (.item (List.mem_cons_of_mem _ place) listed found)
  cases place : SchemaPlace.ofKeyword keyword with
  | negated =>
    refine itself (by simp [place]) fun ss same => unbanned ⟨fields, ss, rfl, ?_⟩
    rw [SchemaPlace.ofKeyword_eq_negated_iff] at place
    rwa [place, same] at listed
  | oneOrMany =>
    cases value with
    | arr ss => exact items (by simp [place]) ss rfl
    | _ => exact itself (by simp [place]) nofun
  | listed =>
    cases value with
    | arr ss => exact items (by simp [place]) ss rfl
    | _ =>
      rw [lowerValue, place]
      rfl
  | single =>
    cases value with
    | arr ss =>
      rw [lowerValue, place]
      rfl
    | _ => exact itself (by simp [place]) nofun
  | named =>
    cases value with
    | obj members =>
      have each : ∀ member ∈ members, (member.1, lower member.2) = member := fun member named =>
        Prod.ext rfl (inside _ _ (.member place listed named))
      rw [lowerValue, place, lowerAt, map_eq_self each]
    | _ =>
      rw [lowerValue, place]
      rfl
  | nowhere => exact lowerValue_nowhere place value

theorem lower_of_unbanned {schema : Json}
    (unbanned : ∀ path s, SchemaAt path schema s → ¬ BansByList s) : lower schema = schema := by
  induction size : sizeOf schema using Nat.strongRecOn generalizing schema with
  | ind size ih =>
    have inside : ∀ step s, SchemaStep.Leads step schema s → lower s = s := by
      intro step s leads
      exact ih (sizeOf s) (size ▸ leads.sizeOf_lt)
        (fun path t reached => unbanned (step :: path) t (.inside leads reached)) rfl
    cases schema with
    | obj fields =>
      rw [lower_obj]
      refine congrArg Json.obj (map_eq_self fun field listed => ?_)
      rw [lowerValue_of_parts listed (unbanned [] _ .here) inside]
    | _ => rfl

end Lowering

open Lowering in
/-- Lowering changes lists under `not`, and nothing else. No schema at any position of a lowered
schema has one. Every schema is found where it stood: an object with the same keywords in their
order, of whose values only the schemas may change, and anything else as it was. Lowering twice is
lowering once, and a schema is its own lowering exactly if it has no list under `not` at any
position. -/
theorem lowering_changes_only_bans (schema : Json) :
    (∀ path s, SchemaAt path (lower schema) s → ¬ BansByList s) ∧
    (∀ path fields, SchemaAt path schema (.obj fields) → ∃ others,
      SchemaAt (path.flatMap SchemaStep.lowered) (lower schema) (.obj others) ∧
      Fields.names others = Fields.names fields ∧
      List.Forall₂ (fun f g => KeptUnder (SchemaPlace.ofKeyword f.1) f.2 g.2) fields others) ∧
    (∀ path value, SchemaAt path schema value → (∀ fields, value ≠ .obj fields) →
      SchemaAt (path.flatMap SchemaStep.lowered) (lower schema) value) ∧
    lower (lower schema) = lower schema ∧
    (lower schema = schema ↔ ∀ path s, SchemaAt path schema s → ¬ BansByList s) := by
  have unbanned : ∀ path s, SchemaAt path (lower schema) s → ¬ BansByList s := by
    intro path s reached
    obtain ⟨written, rfl⟩ := exists_lower_of_schemaAt reached
    exact not_bansByList_lower written
  refine ⟨unbanned, ?objects, ?others, lower_of_unbanned unbanned, ?fixed⟩
  case objects =>
    intro path fields reached
    refine ⟨_, lower_obj fields ▸ schemaAt_lower reached, by simp [Fields.names], ?_⟩
    rw [List.forall₂_map_right_iff, List.forall₂_same]
    exact fun field _ => keptUnder_lowerAt _ field.2
  case others =>
    intro path value reached plain
    have kept : lower value = value := by
      cases value with
      | obj fields => exact absurd rfl (plain fields)
      | _ => rfl
    have moved := schemaAt_lower reached
    rwa [kept] at moved
  case fixed =>
    constructor
    · intro same
      rwa [same] at unbanned
    · exact lower_of_unbanned

example : Lowering.lower (.obj [("not", .arr [.null]), ("default", .obj [("not", .arr [])])]) =
    .obj [("not", .obj [("anyOf", .arr [.null])]), ("default", .obj [("not", .arr [])])] := rfl

end AccessRules
