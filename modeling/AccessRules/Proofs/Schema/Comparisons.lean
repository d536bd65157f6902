import Mathlib.Data.List.Forall2
import AccessRules.Proofs.Json.Reordering
import AccessRules.Proofs.Schema.Meaning
import AccessRules.Proofs.Schema.Places
import AccessRules.Proofs.Schema.Satisfaction

/-!
Where the order of fields counts. The validator compares whole values under `enum`, `const` and
`uniqueItems`, objects field by field in the order in which they are written. An assertion that
compares only values without objects does not see the order.
-/

namespace AccessRules

namespace Json

inductive Flat : Json → Prop where
  | null : Flat .null
  | bool (value : Bool) : Flat (.bool value)
  | num (value : Number) : Flat (.num value)
  | str (value : String) : Flat (.str value)
  | arr {items : List Json} (each : ∀ item ∈ items, Flat item) : Flat (.arr items)

end Json

namespace Reordered

theorem forall₂_iff (items others : List Json) :
    Reordered (.arr items) (.arr others) ↔ List.Forall₂ Reordered items others := by
  rw [List.forall₂_iff_get]
  constructor
  · intro same
    cases same with
    | arr length each =>
      exact ⟨length, fun i here there => each i _ _
        (List.getElem?_eq_getElem here) (List.getElem?_eq_getElem there)⟩
  · rintro ⟨length, each⟩
    refine .arr length fun i item other here there => ?_
    obtain ⟨inside, rfl⟩ := List.getElem?_eq_some_iff.mp here
    obtain ⟨otherInside, rfl⟩ := List.getElem?_eq_some_iff.mp there
    exact each i inside otherInside

theorem eq_of_flat {value other : Json} (flat : value.Flat) (same : Reordered value other) :
    value = other := by
  induction flat generalizing other with
  | null | bool value | num value | str value =>
    cases same
    rfl
  | @arr items each ih =>
    cases same with
    | @arr _ others length related =>
      refine congrArg Json.arr (List.ext_getElem length fun i here there => ?_)
      exact ih _ (List.getElem_mem here)
        (related i _ _ (List.getElem?_eq_getElem here) (List.getElem?_eq_getElem there))

section Equality

variable {value other : Json}

theorem items (same : Reordered value other) :
    Reordered (.arr value.items) (.arr other.items) := by
  cases same with
  | arr length each => exact .arr length each
  | _ => exact .refl _

theorem text? (same : Reordered value other) : value.text? = other.text? := by
  cases same <;> rfl

theorem number? (same : Reordered value other) : value.number? = other.number? := by
  cases same <;> rfl

theorem count? (same : Reordered value other) : value.count? = other.count? := by
  cases same <;> rfl

theorem eq_bool_iff (same : Reordered value other) (b : Bool) :
    value = .bool b ↔ other = .bool b := by
  cases same <;> simp

theorem eq_str_iff (same : Reordered value other) (text : String) :
    value = .str text ↔ other = .str text := by
  cases same <;> simp

theorem filterMap_eq {α : Type} {read : Json → Option α}
    (blind : ∀ {value other : Json}, Reordered value other → read value = read other)
    {items others : List Json} (same : Reordered (.arr items) (.arr others)) :
    items.filterMap read = others.filterMap read := by
  rw [forall₂_iff] at same
  induction same with
  | nil => rfl
  | cons first _ ih => rw [List.filterMap_cons, List.filterMap_cons, blind first, ih]

/-- A value without objects is equal to both values or to neither. -/
theorem same_flat {option : Json} (flat : option.Flat) (same : Reordered value other) :
    option.same value = option.same other := by
  induction flat generalizing value other with
  | null | bool b | num n | str s => cases same <;> rfl
  | @arr items each ih =>
    cases same with
    | @arr values others length related =>
      have pairs := (forall₂_iff values others).mp (.arr length related)
      simp only [Json.same]
      clear length related
      induction pairs generalizing items with
      | nil => cases items <;> rfl
      | @cons first second rest others here _ rec =>
        cases items with
        | nil => rfl
        | cons item items =>
          have tail := rec (fun i listed => each i (List.mem_cons_of_mem _ listed))
            fun i listed => ih i (List.mem_cons_of_mem _ listed)
          simp only [Json.sameItems, ih item List.mem_cons_self here, tail]
    | _ => rfl

end Equality

end Reordered

namespace Assertion

def ComparesFlat : Assertion → Prop
  | .options values => ∀ option ∈ values, option.Flat
  | .constant c => c.Flat
  | .uniqueItems => False
  | _ => True

theorem onItems_length {value other : Json} (same : Reordered value other) (test : Nat → Bool) :
    onItems value (fun items => test items.length) =
      onItems other fun items => test items.length := by
  cases same with
  | arr length each => simp only [onItems, length]
  | _ => rfl

theorem onFields_length {value other : Json} (same : Reordered value other) (test : Nat → Bool) :
    onFields value (fun fields => test fields.length) =
      onFields other fun fields => test fields.length := by
  cases same with
  | obj names each =>
    have length := names.length_eq
    simp only [List.length_map] at length
    simp only [onFields, length]
  | _ => rfl

theorem onNumber_reordered {value other : Json} (same : Reordered value other)
    (test : Number → Bool) : onNumber value test = onNumber other test := by
  cases same <;> rfl

theorem onString_reordered {value other : Json} (same : Reordered value other)
    (test : String → Bool) : onString value test = onString other test := by
  cases same <;> rfl

theorem type_reordered {value other : Json} (same : Reordered value other) (t : ValueType) :
    t.holds value = t.holds other := by
  cases same <;> cases t <;> rfl

theorem constant_reordered {c value other : Json} (flat : c.Flat) (same : Reordered value other) :
    meetsConstant c value = meetsConstant c other := by
  cases flat with
  | num n => cases same <;> rfl
  | null => exact Reordered.same_flat .null same
  | bool b => exact Reordered.same_flat (.bool b) same
  | str s => exact Reordered.same_flat (.str s) same
  | arr each => exact Reordered.same_flat (.arr each) same

theorem options_reordered {values : List Json} {value other : Json}
    (flat : ∀ option ∈ values, option.Flat) (same : Reordered value other) :
    (values.any fun option => option.same value) = values.any fun option => option.same other := by
  refine Constraint.any_congr_mem fun option listed => ?_
  exact Reordered.same_flat (flat option listed) same

theorem required_reordered {value other : Json} (same : Reordered value other) (name : String) :
    onFields value (fun fields => fields.has name) =
      onFields other fun fields => fields.has name := by
  cases same with
  | @obj fields others names each =>
    have both : Reordered (.obj fields) (.obj others) := .obj names each
    have present := none_iff_of_related (both.get? name)
    rw [onFields, onFields, Fields.has, Fields.has, Bool.eq_iff_iff, Option.isSome_iff_ne_none,
      Option.isSome_iff_ne_none, ne_eq, ne_eq, present]
  | _ => rfl

theorem empty_reordered {value other : Json} (same : Reordered value other) :
    onFields value (fun fields => fields.isEmpty) =
      onFields other fun fields => fields.isEmpty := by
  have byLength := onFields_length same fun length => decide (length = 0)
  simpa only [← List.isEmpty_iff_length_eq_zero, Bool.decide_eq_true] using byLength

/-- The order of fields is not seen by an assertion that compares no objects. -/
theorem holds_reordered {a : Assertion} (flat : a.ComparesFlat) {value other : Json}
    (same : Reordered value other) : a.holds value = a.holds other := by
  cases a with
  | type t => exact type_reordered same t
  | types ts => simp only [holds, type_reordered same]
  | options values => exact options_reordered flat same
  | constant c => exact constant_reordered flat same
  | minimum | maximum | exclusiveMinimum | exclusiveMaximum | multipleOf =>
    exact onNumber_reordered same _
  | minLength | maxLength | pattern | format | jsonText | base64 | base64OfJsonText =>
    exact onString_reordered same _
  | minItems count => exact onItems_length same fun length => decide (count ≤ length)
  | maxItems count | noItemsFrom count =>
    exact onItems_length same fun length => decide (length ≤ count)
  | minProperties count => exact onFields_length same fun length => decide (count ≤ length)
  | maxProperties count => exact onFields_length same fun length => decide (length ≤ count)
  | required name => exact required_reordered same name
  | noNames | noValues => exact empty_reordered same
  | uniqueItems => exact flat.elim

end Assertion

def ComparesNoObjects (schema : Json) : Prop :=
  ∀ keyword argument, schema.field? keyword = some argument →
    ∀ a ∈ Keyword.assertions schema keyword argument, a.ComparesFlat

def Keyword.comparing : List String := ["enum", "const", "uniqueItems"]

theorem comparesNoObjects_of_unmentioned {schema : Json}
    (unmentioned : ∀ name ∈ Keyword.comparing, schema.mentions name = false) :
    Everywhere ComparesNoObjects schema := by
  refine everywhere_of_unmentioned unmentioned fun s absent keyword argument found a listed => ?_
  have own := Keyword.keyword_of_mem listed
  have ordinary : keyword ∉ Keyword.comparing := by
    intro known
    simp [absent keyword known] at found
  cases a with
  | options | constant | uniqueItems =>
    subst own
    simp [Keyword.comparing, Assertion.keyword] at ordinary
  | _ => trivial

namespace Keyword

section Order

variable {schema other argument otherArgument : Json}

theorem typesNamed_reordered (same : Reordered argument otherArgument) :
    typesNamed argument = typesNamed otherArgument := by
  cases same with
  | @arr items others length each =>
    refine Reordered.filterMap_eq (fun alike => ?_) (.arr length each)
    rw [alike.text?]
  | _ => rfl

theorem contents_reordered (same : Reordered schema other)
    (alike : Reordered argument otherArgument) :
    contents schema argument = contents other otherArgument := by
  have encoding := same.field? "contentEncoding"
  rw [contents, contents, alike.text?]
  generalize schema.field? "contentEncoding" = here,
    other.field? "contentEncoding" = there at encoding
  cases encoding with
  | none => rfl
  | some inside =>
    cases inside with
    | arr | obj => split <;> simp_all
    | _ => rfl

theorem encoding_reordered (same : Reordered schema other)
    (alike : Reordered argument otherArgument) :
    encoding schema argument = encoding other otherArgument := by
  have media := none_iff_of_related (same.field? "contentMediaType")
  simp only [encoding, media, alike.eq_str_iff]

theorem items_eq_of_flat (flat : ∀ item ∈ argument.items, item.Flat)
    (alike : Reordered argument otherArgument) : argument.items = otherArgument.items :=
  Json.arr.inj (alike.items.eq_of_flat (.arr flat))

end Order

theorem assertions_reordered {schema other : Json} (same : Reordered schema other)
    (plain : ComparesNoObjects schema) {keyword : String} {argument otherArgument : Json}
    (found : schema.field? keyword = some argument) (alike : Reordered argument otherArgument) :
    assertions schema keyword argument = assertions other keyword otherArgument := by
  have flat := plain keyword argument found
  unfold assertions at flat ⊢
  split
  case h_1 => rw [typesNamed_reordered alike]
  case h_2 => rw [items_eq_of_flat (flat _ List.mem_cons_self) alike]
  case h_3 => rw [alike.eq_of_flat (flat _ List.mem_cons_self)]
  case h_17 => exact contents_reordered same alike
  case h_18 => exact encoding_reordered same alike
  case h_19 => simp only [alike.eq_bool_iff]
  case h_20 => rw [Reordered.filterMap_eq Reordered.text? alike.items]
  case h_21 => rfl
  all_goals first
    | rw [alike.number?]
    | rw [alike.count?]
    | rw [alike.text?]

end Keyword

end AccessRules
