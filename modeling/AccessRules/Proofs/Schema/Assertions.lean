import AccessRules.Proofs.Schema.Compilation
import AccessRules.Proofs.Schema.Satisfaction

/-!
Keywords that look at a value alone. What such a keyword compiles to is met by the values of which
its assertions hold.
-/

namespace AccessRules

namespace Constraint

def Asserts (c : Constraint) (asserted : List Assertion) : Prop :=
  ∀ refs value, accepts refs c value = true ↔ ∀ a ∈ asserted, a.holds value = true

theorem always_asserts : Asserts .always [] := by
  intro refs value
  simp [always, accepts, acceptsAll]

theorem assertion_asserts (a : Assertion) : Asserts (.assertion a) [a] := by
  intro refs value
  simp [accepts]

theorem every_asserts (asserted : List Assertion) :
    Asserts (.every (asserted.map .assertion)) asserted := by
  intro refs value
  simp [accepts, acceptsAll_iff]

theorem Asserts.congr {c : Constraint} {asserted others : List Assertion} (h : Asserts c asserted)
    (same : ∀ value, (∀ a ∈ asserted, a.holds value = true) ↔ ∀ a ∈ others, a.holds value = true) :
    Asserts c others := by
  intro refs value
  rw [h refs value, same]

end Constraint

namespace Keyword

open Constraint

variable {base : Url} {fields : Fields} {argument : Json} {c : Constraint}

theorem typeNamed_eq_ok_iff (name : String) :
    typeNamed name = .ok c ↔ ∃ t, ValueType.ofKey? name = some t ∧ c = .assertion (.type t) := by
  unfold typeNamed
  cases ValueType.ofKey? name with
  | some t => simp [assert, eq_comm]
  | none => simp

theorem typesNamed_of_ok {names : List Json} {ts : List ValueType}
    (read : Reading.typesNamed names = .ok ts) : typesNamed (.arr names) = ts := by
  induction names generalizing ts with
  | nil =>
    cases Except.ok.inj read
    rfl
  | cons first rest ih =>
    cases first with
    | str name =>
      simp only [Reading.typesNamed] at read
      split at read
      · rename_i t known
        obtain ⟨others, later, rfl⟩ := (map_eq_ok_iff _ _ _).mp read
        have named : (Json.str name).text?.bind ValueType.ofKey? = some t := known
        simp only [typesNamed, List.filterMap_cons, named]
        exact congrArg (t :: ·) (ih later)
      · simp at read
    | _ => simp [Reading.typesNamed] at read

theorem names_of_ok {items : List Json} {names : List String}
    (read : Reading.names items = .ok names) : items = names.map .str := by
  induction items generalizing names with
  | nil =>
    cases Except.ok.inj read
    rfl
  | cons first rest ih =>
    cases first with
    | str name =>
      simp only [Reading.names] at read
      obtain ⟨others, later, rfl⟩ := (map_eq_ok_iff _ _ _).mp read
      rw [List.map_cons, ih later]
    | _ => simp [Reading.names] at read

theorem allRequired_of_ok {items : List Json} (read : allRequired items = .ok c) :
    ∃ names : List String, items = names.map .str ∧
      c = .every ((names.map Assertion.required).map .assertion) := by
  obtain ⟨names, listed, rfl⟩ := (map_eq_ok_iff _ _ _).mp read
  exact ⟨names, names_of_ok listed, by simp⟩

theorem one_type (t : ValueType) (value : Json) :
    (∀ a ∈ [Assertion.type t], a.holds value = true) ↔
      ∀ a ∈ [Assertion.types [t]], a.holds value = true := by
  simp [Assertion.holds]

theorem type_asserts (read : ofField base fields "type" argument = .ok c) :
    Asserts c (assertions (.obj fields) "type" argument) := by
  change types (readingOf base "type" argument) = .ok c at read
  change Asserts c [.types (typesNamed argument)]
  unfold types at read
  split at read
  · rename_i name named
    cases (show argument = .str name from named)
    obtain ⟨t, known, rfl⟩ := (typeNamed_eq_ok_iff name).mp read
    refine (assertion_asserts _).congr fun value => ?_
    rw [one_type]
    simp [typesNamed, known]
  · rename_i name named
    cases (show argument = .arr [.str name] from named)
    obtain ⟨t, known, rfl⟩ := (typeNamed_eq_ok_iff name).mp read
    refine (assertion_asserts _).congr fun value => ?_
    rw [one_type]
    simp [typesNamed, Json.text?, known]
  · simp at read
  · rename_i items _ _ named
    cases (show argument = .arr items from named)
    obtain ⟨ts, known, rfl⟩ := (map_eq_ok_iff _ _ _).mp read
    rw [typesNamed_of_ok ((Defect.within_eq_ok_iff _ _ _).mp known)]
    exact assertion_asserts _
  · simp at read

theorem enum_asserts (read : ofField base fields "enum" argument = .ok c) :
    Asserts c (assertions (.obj fields) "enum" argument) := by
  change options (readingOf base "enum" argument) = .ok c at read
  cases argument with
  | arr values =>
    cases Except.ok.inj read
    exact assertion_asserts _
  | _ => simp [options, readingOf] at read

theorem limit_asserts {assertion : Number → Assertion} {keyword : String}
    (read : limit assertion (readingOf base keyword argument) = .ok c) :
    Asserts c (argument.number?.toList.map assertion) := by
  obtain ⟨n, numeric, rfl⟩ := (map_eq_ok_iff _ _ _).mp read
  cases argument with
  | num m =>
    cases Except.ok.inj numeric
    exact assertion_asserts _
  | _ => simp [Reading.number, readingOf] at numeric

theorem bound_asserts {assertion : Nat → Assertion} {keyword : String}
    (read : bound keyword assertion (readingOf base keyword argument) = .ok c) :
    Asserts c (argument.count?.toList.map assertion) := by
  obtain ⟨n, counted, rfl⟩ := (map_eq_ok_iff _ _ _).mp read
  rw [Defect.within_eq_ok_iff] at counted
  simp only [Reading.count, readingOf] at counted
  split at counted
  · split at counted
    · rename_i i positive
      cases Except.ok.inj counted
      simpa [Json.count?, positive] using assertion_asserts _
    · simp at counted
  · simp at counted

theorem pattern_asserts (read : ofField base fields "pattern" argument = .ok c) :
    Asserts c (assertions (.obj fields) "pattern" argument) := by
  change pattern (readingOf base "pattern" argument) = .ok c at read
  cases argument with
  | str source =>
    simp only [pattern, readingOf] at read
    change Asserts c ((Pattern.ofShorthand? source).toList.map (Assertion.pattern source) ++ [])
    split at read
    · rename_i p known
      cases Except.ok.inj read
      rw [known]
      exact assertion_asserts _
    · simp at read
  | _ => simp [pattern, readingOf] at read

theorem format_asserts (read : ofField base fields "format" argument = .ok c) :
    Asserts c (assertions (.obj fields) "format" argument) := by
  change format (readingOf base "format" argument) = .ok c at read
  cases argument with
  | str name =>
    simp only [format, readingOf] at read
    change Asserts c ((Format.ofKey? name).toList.map Assertion.format)
    split at read <;> rename_i known <;> cases Except.ok.inj read <;> rw [known]
    · exact assertion_asserts _
    · exact always_asserts
  | _ => simp [format, readingOf] at read

theorem contents_of_unknown {media : Json} (unknown : media ≠ .str "application/json")
    (schema : Json) : contents schema media = [] := by
  unfold contents
  split
  · rename_i named _
    cases media <;> simp_all [Json.text?]
  · rename_i named _
    cases media <;> simp_all [Json.text?]
  · rfl

theorem contentMediaType_asserts (read : ofField base fields "contentMediaType" argument = .ok c) :
    Asserts c (assertions (.obj fields) "contentMediaType" argument) := by
  change contentMediaType (readingsOf base fields) (readingOf base "contentMediaType" argument) =
    .ok c at read
  change Asserts c (contents (.obj fields) argument)
  simp only [contentMediaType, value?_readingsOf, readingOf] at read
  split at read
  · simp only [contents, Json.text?, Json.field?]
    split at read <;> rename_i written <;> rw [written]
    · cases Except.ok.inj read
      exact assertion_asserts _
    · cases Except.ok.inj read
      exact assertion_asserts _
    · rename_i other
      cases Except.ok.inj read
      split <;> simp_all [always_asserts]
    · simp at read
  · rename_i name unknown
    cases Except.ok.inj read
    rw [contents_of_unknown (by simpa using unknown)]
    exact always_asserts
  · simp at read

theorem contentEncoding_asserts (read : ofField base fields "contentEncoding" argument = .ok c) :
    Asserts c (assertions (.obj fields) "contentEncoding" argument) := by
  change contentEncoding (readingsOf base fields) (readingOf base "contentEncoding" argument) =
    .ok c at read
  change Asserts c (encoding (.obj fields) argument)
  simp only [contentEncoding, has_readingsOf, Fields.has, readingOf] at read
  simp only [encoding, Json.field?]
  by_cases alone : fields.get? "contentMediaType" = none
  · simp only [alone, Option.isSome_none, Bool.false_eq_true, if_false] at read
    split at read
    · cases Except.ok.inj read
      simpa [alone] using assertion_asserts .base64
    · rename_i name unknown
      cases Except.ok.inj read
      have other : name ≠ "base64" := fun same => unknown (by rw [same])
      simpa [other] using always_asserts
    · simp at read
  · rw [if_pos (Option.isSome_iff_ne_none.mpr alone)] at read
    cases Except.ok.inj read
    simpa [alone] using always_asserts

theorem uniqueItems_asserts (read : ofField base fields "uniqueItems" argument = .ok c) :
    Asserts c (assertions (.obj fields) "uniqueItems" argument) := by
  change uniqueItems (readingOf base "uniqueItems" argument) = .ok c at read
  change Asserts c (if argument = .bool true then [.uniqueItems] else [])
  simp only [uniqueItems, readingOf] at read
  split at read <;> cases Except.ok.inj read
  · exact assertion_asserts _
  · rename_i other
    rw [if_neg other]
    exact always_asserts

theorem required_asserts (read : ofField base fields "required" argument = .ok c) :
    Asserts c (assertions (.obj fields) "required" argument) := by
  change Keyword.required (readingOf base "required" argument) = .ok c at read
  change Asserts c ((argument.items.filterMap Json.text?).map .required)
  cases argument with
  | arr items =>
    obtain ⟨names, rfl, rfl⟩ := allRequired_of_ok ((Defect.within_eq_ok_iff _ _ _).mp read)
    have texts : (names.map Json.str).filterMap Json.text? = names := by
      rw [List.filterMap_map]
      exact List.filterMap_some
    rw [Json.items, texts]
    exact every_asserts _
  | _ => simp [Keyword.required, readingOf] at read

def assertive : List String := [
  "type", "enum", "const", "minimum", "maximum", "exclusiveMinimum", "exclusiveMaximum",
  "multipleOf", "minLength", "maxLength", "minItems", "maxItems", "minProperties",
  "maxProperties", "pattern", "format", "contentMediaType", "contentEncoding", "uniqueItems",
  "required"]

theorem assertions_eq_nil {keyword : String} (other : keyword ∉ assertive) (schema : Json) :
    assertions schema keyword argument = [] := by
  unfold assertions
  split <;> first | rfl | exact absurd (by decide) other

/-- A keyword that looks at a value alone compiles to what it asserts. -/
theorem compiled_asserts {keyword : String} (known : keyword ∈ assertive)
    (read : ofField base fields keyword argument = .ok c) :
    Asserts c (assertions (.obj fields) keyword argument) := by
  simp only [assertive, List.mem_cons, List.not_mem_nil, or_false] at known
  rcases known with rfl | rfl | rfl | rfl | rfl | rfl | rfl | rfl | rfl | rfl | rfl | rfl | rfl |
    rfl | rfl | rfl | rfl | rfl | rfl | rfl
  · exact type_asserts read
  · exact enum_asserts read
  · cases Except.ok.inj read
    exact assertion_asserts _
  iterate 5 exact limit_asserts read
  iterate 6 exact bound_asserts read
  · exact pattern_asserts read
  · exact format_asserts read
  · exact contentMediaType_asserts read
  · exact contentEncoding_asserts read
  · exact uniqueItems_asserts read
  · exact required_asserts read

end Keyword

end AccessRules
