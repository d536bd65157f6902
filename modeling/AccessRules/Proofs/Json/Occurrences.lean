import Mathlib.Data.List.Forall2
import AccessRules.Json.Reader
import AccessRules.Proofs.Json.Fields

/-!
What is written and what it means. The items of an array mean their items. The fields of an object
are written one after the other, repeated names included; in the object that is meant a name stands
where it is first written and has the value that is written last, and fields without a repeated name
are meant as they stand.
-/

namespace AccessRules

namespace Fields

def putAll (before : Fields) : List (String × Json) → Fields
  | [] => before
  | (name, value) :: rest => putAll (before.put name value) rest

theorem putAll_of_nodup {before : Fields} {written : List (String × Json)}
    (nodup : ((before ++ written).map (·.1)).Nodup) :
    putAll before written = before ++ written := by
  induction written generalizing before with
  | nil => rw [putAll, List.append_nil]
  | cons first rest ih =>
    obtain ⟨name, value⟩ := first
    have absent : before.get? name = none := by
      rw [get?_eq_none_iff]
      intro listed
      rw [List.map_append, List.map_cons, List.nodup_append] at nodup
      exact nodup.2.2 name listed name List.mem_cons_self rfl
    have regrouped : before ++ (name, value) :: rest = before ++ [(name, value)] ++ rest := by
      rw [List.append_assoc, List.singleton_append]
    rw [regrouped] at nodup ⊢
    rw [putAll, put_of_absent absent, ih nodup]

end Fields

namespace Source

def occurrences? : List (List StringUnit × Source) → Option (List (String × Json))
  | [] => some []
  | (units, source) :: rest => do
    let name ← StringUnit.decodeString units
    let value ← meaning? source
    return (name, value) :: (← occurrences? rest)

theorem meaningOfFields?_eq (before : Fields) (fields : List (List StringUnit × Source)) :
    meaningOfFields? before fields = (occurrences? fields).map before.putAll := by
  induction fields generalizing before with
  | nil => rfl
  | cons first rest ih =>
    obtain ⟨units, source⟩ := first
    cases named : StringUnit.decodeString units with
    | none => simp [meaningOfFields?, occurrences?, named]
    | some name =>
      cases meant : meaning? source with
      | none => simp [meaningOfFields?, occurrences?, named, meant]
      | some value =>
        cases later : occurrences? rest with
        | none => simp [meaningOfFields?, occurrences?, named, meant, later, ih]
        | some written =>
          simp [meaningOfFields?, occurrences?, named, meant, later, ih, Fields.putAll]

theorem value?_eq_some_iff {source : Source} {around : Nat} {value : Json} :
    source.value? around = some value ↔
      source.depth + around ≤ deepest ∧ source.meaning? = some value := by
  rw [value?]
  split <;> simp [*]

theorem values_of_items {items : List Source} {around : Nat} {values : List Json}
    (shallow : depthOfItems items + around ≤ deepest)
    (meant : meaningOfItems? items = some values) :
    List.Forall₂ (fun item value => value? item around = some value) items values := by
  induction items generalizing values with
  | nil =>
    cases meant
    exact .nil
  | cons item rest ih =>
    rw [depthOfItems] at shallow
    rw [meaningOfItems?] at meant
    obtain ⟨value, first, meant⟩ := Option.bind_eq_some_iff.mp meant
    obtain ⟨others, later, meant⟩ := Option.bind_eq_some_iff.mp meant
    cases meant
    exact .cons (value?_eq_some_iff.mpr ⟨by omega, first⟩) (ih (by omega) later)

theorem meaning?_eq_obj_iff (source : Source) (fields : Fields) :
    source.meaning? = some (.obj fields) ↔ ∃ inside written, source = .obj inside ∧
      occurrences? inside = some written ∧ fields = Fields.putAll [] written := by
  cases source with
  | obj inside =>
    rw [meaning?, meaningOfFields?_eq, Option.map_map, Option.map_eq_some_iff]
    simp [eq_comm]
  | _ => simp [meaning?]

end Source

namespace Json

/-- The text is that of an object, nested no deeper than is read, that gives names these values one
after the other. -/
def Writes (text : String) (written : List (String × Json)) : Prop :=
  ∃ fields, Source.ofText? text = some (.obj fields) ∧
    (Source.obj fields).depth ≤ Source.deepest ∧ Source.occurrences? fields = some written

theorem ofText?_eq_obj_iff (text : String) (fields : Fields) :
    ofText? text = some (.obj fields) ↔
      ∃ written, Writes text written ∧ fields = Fields.putAll [] written := by
  rw [ofText?]
  cases parsed : Source.ofText? text with
  | none => simp [Writes, parsed]
  | some source =>
    simp only [Source.value?_eq_some_iff, Nat.add_zero, Source.meaning?_eq_obj_iff]
    constructor
    · rintro ⟨shallow, inside, written, rfl, occurs, same⟩
      exact ⟨written, ⟨inside, parsed, shallow, occurs⟩, same⟩
    · rintro ⟨written, ⟨inside, read, shallow, occurs⟩, same⟩
      obtain rfl : source = .obj inside := Option.some.inj (parsed.symm.trans read)
      exact ⟨shallow, inside, written, rfl, occurs, same⟩

end Json

end AccessRules
