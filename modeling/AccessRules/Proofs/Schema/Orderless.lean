import AccessRules.Proofs.Schema.Combinators
import AccessRules.Proofs.Schema.Comparisons
import AccessRules.Schema.Meta

/-!
Constraints that do not see the order of fields. An array without repetitions is where most schemas
would see it, so the items of such an array have to be told apart without looking into them. The
schema of schemas is of this kind, and takes a schema with its keys in any order or in none.
-/

namespace AccessRules

/-- The same is read from a value when its fields are put in another order. -/
def Orderless {α : Type} (read : Json → α) : Prop :=
  ∀ value other : Json, Reordered value other → value.DistinctKeys → read value = read other

namespace Json

def isScalar : Json → Bool
  | .arr _ | .obj _ => false
  | _ => true

theorem Flat.of_isScalar {value : Json} (scalar : value.isScalar = true) : value.Flat := by
  cases value with
  | null => exact .null
  | bool value => exact .bool value
  | num value => exact .num value
  | str value => exact .str value
  | arr items => cases scalar
  | obj fields => cases scalar

theorem depthOfItems_le_iff (items : List Json) (limit : Nat) :
    depthOfItems items ≤ limit ↔ ∀ item ∈ items, item.depth ≤ limit := by
  induction items with
  | nil => simp [depthOfItems]
  | cons item rest ih => rw [depthOfItems, Nat.max_le, ih, List.forall_mem_cons]

theorem depthOfFields_le_iff (fields : Fields) (limit : Nat) :
    depthOfFields fields ≤ limit ↔ ∀ field ∈ fields, field.2.depth ≤ limit := by
  induction fields with
  | nil => simp [depthOfFields]
  | cons field rest ih => rw [depthOfFields, Nat.max_le, ih, List.forall_mem_cons]

end Json

namespace Reordered

variable {value other : Json}

theorem isScalar (same : Reordered value other) : value.isScalar = other.isScalar := by
  cases same <;> rfl

theorem depth_le (same : Reordered value other) :
    other.DistinctKeys → other.depth ≤ value.depth := by
  induction same with
  | null | bool value | num value | str value => exact fun _ => Nat.le_refl _
  | @arr items others length each ih =>
    intro distinct
    refine Nat.succ_le_succ ((Json.depthOfItems_le_iff _ _).mpr fun other listed => ?_)
    obtain ⟨i, there⟩ := List.mem_iff_getElem?.mp listed
    have both : Reordered (.arr others) (.arr items) := (Reordered.arr length each).symm
    obtain ⟨item, here, _⟩ := exists_of_related (both.item? i) there
    have below := ih i item other here there (distinct.item listed)
    exact Nat.le_trans below (Json.depth_item_le (List.mem_of_getElem? here))
  | @obj fields others names each ih =>
    intro distinct
    refine Nat.succ_le_succ ((Json.depthOfFields_le_iff _ _).mpr fun field listed => ?_)
    have there := Fields.get?_of_mem distinct.names listed
    have both : Reordered (.obj others) (.obj fields) := (Reordered.obj names each).symm
    obtain ⟨value, here, _⟩ := exists_of_related (both.get? field.1) there
    have below := ih field.1 value field.2 here there (distinct.member listed)
    exact Nat.le_trans below (Json.depth_member_le (Fields.mem_of_get? here))

theorem orderless_depth : Orderless Json.depth := by
  intro value other same distinct
  exact Nat.le_antisymm (same.symm.depth_le distinct) (same.depth_le (same.distinctKeys distinct))

theorem agree_items (same : Reordered value other) (distinct : value.DistinctKeys)
    {test : Json → Bool} (orderless : Orderless test) :
    List.Forall₂ (fun item otherItem => test item = test otherItem) value.items other.items := by
  have pairs := (forall₂_iff _ _).mp same.items
  refine forall₂_imp_mem pairs fun item listed otherItem related => ?_
  exact orderless _ _ related (Constraint.distinctKeys_of_mem_items distinct listed)

end Reordered

namespace Assertion

def orderless : Assertion → Bool
  | .options values => values.all Json.isScalar
  | .constant c => c.isScalar
  | .uniqueItems => false
  | _ => true

theorem comparesFlat_of_orderless {a : Assertion} (checked : a.orderless = true) :
    a.ComparesFlat := by
  cases a with
  | options values =>
    exact fun option listed => .of_isScalar (List.all_eq_true.mp checked option listed)
  | constant c => exact .of_isScalar checked
  | uniqueItems => cases checked
  | _ => trivial

def asksScalar : Assertion → Bool
  | .type .string => true
  | .options values => values.all Json.isScalar
  | _ => false

theorem isScalar_of_holds {a : Assertion} (scalar : a.asksScalar = true) {value : Json}
    (holds : a.holds value = true) : value.isScalar = true := by
  unfold asksScalar at scalar
  split at scalar
  · cases value <;> first | rfl | cases holds
  · obtain ⟨option, listed, same⟩ := List.any_eq_true.mp holds
    have ofOption := List.all_eq_true.mp scalar option listed
    cases option <;> cases value <;> first | rfl | cases same | cases ofOption
  · cases scalar

theorem uniqueItems_reordered {value other : Json} (flat : ∀ item ∈ value.items, item.Flat)
    (same : Reordered value other) :
    Assertion.uniqueItems.holds value = Assertion.uniqueItems.holds other := by
  cases same with
  | @arr items others length each =>
    have listed : (Json.arr items).Flat := .arr flat
    rw [Reordered.eq_of_flat listed (.arr length each)]
  | _ => rfl

end Assertion

namespace Constraint

/-- No array and no object is accepted, if none is under the references listed. -/
def asksScalar (scalars : List String) : Constraint → Bool
  | .reference target => scalars.contains target
  | .every parts => parts.any fun part =>
    match part with
    | .assertion a => a.asksScalar
    | _ => false
  | _ => false

def itemsAskScalar (scalars : List String) : Constraint → Bool
  | .itemsFrom 0 inner => inner.asksScalar scalars
  | _ => false

def isUniqueItems : Constraint → Bool
  | .assertion .uniqueItems => true
  | _ => false

mutual

/-- No part compares arrays or objects, unless it compares items that are neither. -/
def orderless (scalars : List String) : Constraint → Bool
  | .never | .reference _ => true
  | .assertion a => a.orderless
  | .every parts => orderlessAll scalars (parts.any (itemsAskScalar scalars)) parts
  | .anyOf branches | .oneOf branches => orderlessAll scalars false branches
  | .choice test whenMet otherwise =>
    orderless scalars test && orderless scalars whenMet && orderless scalars otherwise
  | .closed known patterns other =>
    orderlessKnown scalars known && orderlessMatched scalars patterns &&
      orderlessOther scalars other
  | .negation _ inner | .property _ inner | .matching _ inner | .names inner | .given _ inner
  | .item _ inner | .itemsFrom _ inner | .contains inner => orderless scalars inner
termination_by structural constraint => constraint

def orderlessAll (scalars : List String) (ofScalars : Bool) : List Constraint → Bool
  | [] => true
  | part :: rest =>
    (ofScalars && isUniqueItems part || orderless scalars part) &&
      orderlessAll scalars ofScalars rest

def orderlessKnown (scalars : List String) : List (String × Constraint) → Bool
  | [] => true
  | (_, inner) :: rest => orderless scalars inner && orderlessKnown scalars rest

def orderlessMatched (scalars : List String) : List (Pattern × Constraint) → Bool
  | [] => true
  | (_, inner) :: rest => orderless scalars inner && orderlessMatched scalars rest

def orderlessOther (scalars : List String) : Option Constraint → Bool
  | none => true
  | some inner => orderless scalars inner

end

/-- References do not see the order of fields, and those listed accept neither arrays nor
objects. -/
structure OrderlessRefs (scalars : List String) (refs : String → Json → Bool) : Prop where
  blind : ∀ target, Orderless (refs target)
  scalar : ∀ target ∈ scalars, ∀ value, refs target value = true → value.isScalar = true

theorem onFields_reordered {value other : Json} (same : Reordered value other)
    (distinct : value.DistinctKeys) {test : String → Json → Bool}
    (orderless : ∀ name, Orderless (test name)) :
    Assertion.onFields value (fun fields => fields.all fun f => test f.1 f.2) =
      Assertion.onFields other fun fields => fields.all fun f => test f.1 f.2 := by
  have otherDistinct := same.distinctKeys distinct
  rw [Bool.eq_iff_iff, onFields_all distinct, onFields_all otherDistinct]
  refine forall_iff_of_related same.field? fun name part otherPart here _ related => ?_
  rw [orderless name part otherPart related (distinct.field here)]

section Acceptance

variable {scalars : List String} {refs : String → Json → Bool}

section Scalars

variable (known : OrderlessRefs scalars refs)

include known

theorem isScalar_of_accepts {c : Constraint} (scalar : c.asksScalar scalars = true) {value : Json}
    (accepted : accepts refs c value = true) : value.isScalar = true := by
  cases c with
  | reference target =>
    rw [accepts] at accepted
    exact known.scalar target (List.contains_iff_mem.mp scalar) value accepted
  | every parts =>
    rw [accepts, acceptsAll_iff] at accepted
    obtain ⟨part, listed, asked⟩ := List.any_eq_true.mp scalar
    have met := accepted part listed
    cases part with
    | assertion a => exact Assertion.isScalar_of_holds asked met
    | _ => cases asked
  | _ => cases scalar

theorem isScalar_of_acceptsAll {parts : List Constraint}
    (ofScalars : parts.any (itemsAskScalar scalars) = true) {value : Json}
    (accepted : acceptsAll refs parts value = true) :
    value.items.all Json.isScalar = true := by
  refine List.all_eq_true.mpr fun item listed => ?_
  obtain ⟨part, here, asked⟩ := List.any_eq_true.mp ofScalars
  have met := (acceptsAll_iff refs parts value).mp accepted part here
  unfold itemsAskScalar at asked
  split at asked
  · rw [accepts_itemsFrom] at met
    exact isScalar_of_accepts known asked (met item listed)
  · cases asked

theorem acceptsAll_eq_false {parts : List Constraint}
    (ofScalars : parts.any (itemsAskScalar scalars) = true) {value : Json}
    (structured : value.items.all Json.isScalar = false) : acceptsAll refs parts value = false := by
  rw [Bool.eq_false_iff] at structured ⊢
  exact fun accepted => structured (isScalar_of_acceptsAll known ofScalars accepted)

end Scalars

mutual

/-- A constraint that passes the check accepts a value with its fields in any order or in none. -/
theorem accepts_reordered (known : OrderlessRefs scalars refs) :
    ∀ c : Constraint, c.orderless scalars = true → Orderless (accepts refs c)
  | .never, _ => fun _ _ _ _ => rfl
  | .assertion a, checked => fun _ _ same _ =>
    Assertion.holds_reordered (Assertion.comparesFlat_of_orderless checked) same
  | .every parts, checked => by
    intro value other same distinct
    rw [accepts, accepts]
    cases ofScalars : parts.any (itemsAskScalar scalars) with
    | false =>
      rw [orderless, ofScalars] at checked
      exact acceptsAll_reordered known false parts checked value other same distinct (by simp)
    | true =>
      rw [orderless, ofScalars] at checked
      cases scalar : value.items.all Json.isScalar with
      | true =>
        refine acceptsAll_reordered known true parts checked value other same distinct fun _ => ?_
        rw [List.all_eq_true] at scalar
        have flat : ∀ item ∈ value.items, item.Flat :=
          fun item listed => .of_isScalar (scalar item listed)
        exact Assertion.uniqueItems_reordered flat same
      | false =>
        -- no item of the one is accepted in the place where it stands in the other
        have alike := all_eq_of_forall₂ (same.agree_items distinct fun _ _ h _ => h.isScalar)
        have otherScalar := alike ▸ scalar
        rw [acceptsAll_eq_false known ofScalars scalar,
          acceptsAll_eq_false known ofScalars otherScalar]
  | .anyOf branches, checked => by
    intro value other same distinct
    rw [accepts, accepts, acceptsEach_reordered known branches checked value other same distinct]
  | .oneOf branches, checked => by
    intro value other same distinct
    rw [accepts, accepts, acceptsEach_reordered known branches checked value other same distinct]
  | .negation _ inner, checked => by
    intro value other same distinct
    rw [accepts, accepts, accepts_reordered known inner checked _ _ same distinct]
  | .choice test whenMet otherwise, checked => by
    intro value other same distinct
    simp only [orderless, Bool.and_eq_true] at checked
    simp only [accepts, accepts_reordered known test checked.1.1 _ _ same distinct,
      accepts_reordered known whenMet checked.1.2 _ _ same distinct,
      accepts_reordered known otherwise checked.2 _ _ same distinct]
  | .property name inner, checked => by
    intro value other same distinct
    have under := same.field? name
    simp only [accepts]
    cases here : value.field? name with
    | none => rw [(none_iff_of_related under).mp here]
    | some part =>
      obtain ⟨otherPart, there, related⟩ := exists_of_related under here
      rw [there]
      exact accepts_reordered known inner checked _ _ related (distinct.field here)
  | .matching pattern inner, checked => by
    intro value other same distinct
    have blind : ∀ name, Orderless fun part =>
        !pattern.occursIn name || accepts refs inner part := by
      intro name part otherPart related unique
      dsimp only
      rw [accepts_reordered known inner checked part otherPart related unique]
    simp only [accepts]
    exact onFields_reordered same distinct blind
  | .closed members patterns others, checked => by
    intro value other same distinct
    simp only [orderless, Bool.and_eq_true] at checked
    obtain ⟨⟨ofMembers, ofPatterns⟩, ofOthers⟩ := checked
    have blind : ∀ name, Orderless (acceptsField refs members patterns others name) := by
      intro name part otherPart related unique
      rw [acceptsField, acceptsField,
        acceptsKnown_reordered known members ofMembers name part otherPart related unique,
        acceptsMatched_reordered known patterns ofPatterns name part otherPart related unique,
        acceptsOther_reordered known others ofOthers part otherPart related unique]
    simp only [accepts]
    exact onFields_reordered same distinct blind
  | .names inner, checked => by
    intro value other same distinct
    have blind : ∀ name, Orderless fun _ => accepts refs inner (.str name) := fun _ _ _ _ _ => rfl
    simp only [accepts]
    exact onFields_reordered same distinct blind
  | .given name inner, checked => by
    intro value other same distinct
    have under := same.field? name
    simp only [accepts]
    cases here : value.field? name with
    | none => rw [(none_iff_of_related under).mp here]
    | some part =>
      obtain ⟨otherPart, there, _⟩ := exists_of_related under here
      rw [there]
      exact accepts_reordered known inner checked _ _ same distinct
  | .item index inner, checked => by
    intro value other same distinct
    simp only [accepts]
    cases same with
    | @arr items others length each =>
      have under := Reordered.item? (.arr length each) index
      simp only [Assertion.onItems]
      cases here : items[index]? with
      | none => rw [(none_iff_of_related under).mp here]
      | some part =>
        obtain ⟨otherPart, there, related⟩ := exists_of_related under here
        rw [there]
        have unique := distinct.item (List.mem_of_getElem? here)
        exact accepts_reordered known inner checked part otherPart related unique
    | _ => rfl
  | .itemsFrom start inner, checked => by
    intro value other same distinct
    have agree := same.agree_items distinct (accepts_reordered known inner checked)
    simp only [accepts]
    cases same with
    | arr length each => exact all_eq_of_forall₂ (List.forall₂_drop start agree)
    | _ => rfl
  | .contains inner, checked => by
    intro value other same distinct
    have agree := same.agree_items distinct (accepts_reordered known inner checked)
    simp only [accepts]
    cases same with
    | arr length each => exact any_eq_of_forall₂ agree
    | _ => rfl
  | .reference target, _ => by
    intro value other same distinct
    rw [accepts, accepts, known.blind target value other same distinct]
termination_by structural c => c

theorem acceptsAll_reordered (known : OrderlessRefs scalars refs) (ofScalars : Bool) :
    ∀ parts : List Constraint,
    orderlessAll scalars ofScalars parts = true →
      ∀ value other : Json, Reordered value other → value.DistinctKeys →
        (ofScalars = true → Assertion.uniqueItems.holds value = Assertion.uniqueItems.holds other) →
          acceptsAll refs parts value = acceptsAll refs parts other
  | [], _ => fun _ _ _ _ _ => rfl
  | part :: rest, checked => by
    intro value other same distinct unique
    simp only [orderlessAll, Bool.and_eq_true, Bool.or_eq_true] at checked
    obtain ⟨ofPart, ofRest⟩ := checked
    have first : accepts refs part value = accepts refs part other := by
      rcases ofPart with ⟨isScalar, isUnique⟩ | checked
      · unfold isUniqueItems at isUnique
        split at isUnique
        · exact unique isScalar
        · cases isUnique
      · exact accepts_reordered known part checked _ _ same distinct
    rw [acceptsAll, acceptsAll, first,
      acceptsAll_reordered known ofScalars rest ofRest value other same distinct unique]

theorem acceptsEach_reordered (known : OrderlessRefs scalars refs) :
    ∀ branches : List Constraint,
    orderlessAll scalars false branches = true → Orderless (acceptsEach refs branches)
  | [], _ => fun _ _ _ _ => rfl
  | branch :: rest, checked => by
    intro value other same distinct
    simp only [orderlessAll, Bool.false_and, Bool.false_or, Bool.and_eq_true] at checked
    rw [acceptsEach, acceptsEach, accepts_reordered known branch checked.1 _ _ same distinct,
      acceptsEach_reordered known rest checked.2 value other same distinct]

theorem acceptsKnown_reordered (known : OrderlessRefs scalars refs) :
    ∀ members : List (String × Constraint),
    orderlessKnown scalars members = true → ∀ name, Orderless (acceptsKnown refs members name)
  | [], _, _ => fun _ _ _ _ => rfl
  | (key, inner) :: rest, checked, name => by
    intro part other same distinct
    simp only [orderlessKnown, Bool.and_eq_true] at checked
    simp only [acceptsKnown, accepts_reordered known inner checked.1 _ _ same distinct,
      acceptsKnown_reordered known rest checked.2 name part other same distinct]

theorem acceptsMatched_reordered (known : OrderlessRefs scalars refs) :
    ∀ patterns : List (Pattern × Constraint),
    orderlessMatched scalars patterns = true →
      ∀ name, Orderless (acceptsMatched refs patterns name)
  | [], _, _ => fun _ _ _ _ => rfl
  | (pattern, inner) :: rest, checked, name => by
    intro part other same distinct
    simp only [orderlessMatched, Bool.and_eq_true] at checked
    simp only [acceptsMatched, accepts_reordered known inner checked.1 _ _ same distinct,
      acceptsMatched_reordered known rest checked.2 name part other same distinct]

theorem acceptsOther_reordered (known : OrderlessRefs scalars refs) :
    ∀ others : Option Constraint,
    orderlessOther scalars others = true → Orderless (acceptsOther refs others)
  | none, _ => fun _ _ _ _ => rfl
  | some inner, checked => accepts_reordered known inner checked

end

end Acceptance

end Constraint

namespace SchemaDocument

open Constraint

def targetOrderless (scalars : List String) (address : String) : Target → Bool
  | .ok c => c.orderless scalars && (!scalars.contains address || c.asksScalar scalars)
  | .error _ => true

/-- Neither the constraint of the document nor one that a reference leads to sees the order of
fields. Where only scalars are compared, those of the references listed are relied upon. -/
def orderless (scalars : List String) (document : SchemaDocument) : Bool :=
  document.root.orderless scalars &&
    document.targets.all fun entry => targetOrderless scalars entry.1 entry.2

theorem mem_of_target? {targets : List (String × Target)} {address : String} {target : Target}
    (found : target? targets address = some target) : (address, target) ∈ targets := by
  induction targets with
  | nil => simp [target?] at found
  | cons entry rest ih =>
    obtain ⟨other, first⟩ := entry
    rw [target?] at found
    split at found
    · rename_i here
      cases Option.some.inj found
      exact here ▸ List.mem_cons_self
    · exact List.mem_cons_of_mem _ (ih found)

section References

variable {scalars : List String} {targets : List (String × Target)}

theorem exhausted_orderless : OrderlessRefs scalars exhausted.accepts where
  blind := fun _ _ _ _ _ => rfl
  scalar := fun _ _ _ accepted => nomatch accepted

theorem splitAt_orderless {onValue onParts : References} (depth : Nat)
    (ofValue : OrderlessRefs scalars onValue.accepts)
    (ofParts : OrderlessRefs scalars onParts.accepts) :
    OrderlessRefs scalars (splitAt depth onValue onParts).accepts where
  blind := by
    intro target value other same distinct
    simp only [splitAt, Reordered.orderless_depth value other same distinct,
      ofValue.blind target value other same distinct,
      ofParts.blind target value other same distinct]
  scalar := by
    intro target listed value accepted
    simp only [splitAt] at accepted
    split at accepted
    · exact ofParts.scalar target listed value accepted
    · exact ofValue.scalar target listed value accepted

variable (checked : (targets.all fun entry => targetOrderless scalars entry.1 entry.2) = true)

include checked

theorem following_orderless {parts : References} (ofParts : OrderlessRefs scalars parts.accepts)
    (budget : Nat) : OrderlessRefs scalars (following targets parts budget).accepts := by
  induction budget with
  | zero => exact exhausted_orderless
  | succ budget ih =>
    have ofTarget : ∀ {address : String} {c : Constraint},
        target? targets address = some (.ok c) → c.orderless scalars = true ∧
          (address ∈ scalars → c.asksScalar scalars = true) := by
      intro address c found
      have entry := List.all_eq_true.mp checked _ (mem_of_target? found)
      simpa [targetOrderless, ← Decidable.imp_iff_not_or] using entry
    constructor
    · intro address value other same distinct
      simp only [following, Reordered.orderless_depth value other same distinct]
      split
      · rename_i c found
        have refs := splitAt_orderless other.depth ih ofParts
        exact accepts_reordered refs c (ofTarget found).1 value other same distinct
      · rfl
    · intro address listed value accepted
      simp only [following] at accepted
      split at accepted
      · rename_i c found
        have refs := splitAt_orderless value.depth ih ofParts
        exact isScalar_of_accepts refs ((ofTarget found).2 listed) accepted
      · cases accepted

theorem meaning_orderless (reach : Nat) :
    OrderlessRefs scalars (meaning targets reach).accepts := by
  induction reach with
  | zero => exact exhausted_orderless
  | succ reach ih => exact following_orderless checked ih _

end References

theorem accepts_reordered {document : SchemaDocument} {scalars : List String}
    (checked : document.orderless scalars = true) : Orderless document.accepts := by
  intro value other same distinct
  obtain ⟨ofRoot, ofTargets⟩ := Bool.and_eq_true_iff.mp checked
  have refs := meaning_orderless ofTargets (other.depth + 1)
  rw [accepts, accepts, referencesOn, referencesOn,
    Reordered.orderless_depth value other same distinct]
  exact Constraint.accepts_reordered refs document.root ofRoot value other same distinct

end SchemaDocument

namespace MetaSchema

/-- The schema of schemas has arrays without repetitions, but of texts only: the names of types and
of properties. -/
theorem document_orderless :
    document.orderless ["json-schema:///#/definitions/simpleTypes"] = true := by
  decide +kernel

/-- Whether a value can be a schema does not depend on the order of its keys. -/
theorem accepts_orderless : Orderless document.accepts :=
  SchemaDocument.accepts_reordered document_orderless

end MetaSchema

end AccessRules
