import AccessRules.Exchange.Access
import AccessRules.Proofs.Json.Occurrences
import AccessRules.Proofs.Json.Sorting
import AccessRules.Proofs.Rule.Defaults

/-!
Requests as they are exchanged. A request is written as its document, and the document tells what is
supplied from what is not. What is read back supplies the same but for nulls, which supply nothing;
nothing but the namespaces matters to the reading, and it makes no difference whether a value is
read or a text that denotes it, as long as the text repeats no name.
-/

namespace AccessRules

namespace Source

theorem named_of_occurrences {fields : List (List StringUnit × Source)} {around : Nat}
    {written : List (String × Json)} (shallow : depthOfFields fields + around ≤ deepest)
    (meant : occurrences? fields = some written) : ∃ named, namedFields? fields = some named ∧
      List.Forall₂ (fun field occurrence => field.1 = occurrence.1 ∧
        value? field.2 around = some occurrence.2) named written := by
  induction fields generalizing written with
  | nil =>
    cases meant
    exact ⟨[], rfl, .nil⟩
  | cons first rest ih =>
    obtain ⟨units, source⟩ := first
    rw [depthOfFields] at shallow
    rw [occurrences?] at meant
    obtain ⟨name, decoded, meant⟩ := Option.bind_eq_some_iff.mp meant
    obtain ⟨value, denoted, meant⟩ := Option.bind_eq_some_iff.mp meant
    obtain ⟨others, later, meant⟩ := Option.bind_eq_some_iff.mp meant
    cases meant
    obtain ⟨named, these, each⟩ := ih (by omega) later
    have inside : source.depth + around ≤ deepest := by omega
    refine ⟨(name, source) :: named, ?_, .cons ⟨rfl, value?_eq_some_iff.mpr ⟨inside, denoted⟩⟩ each⟩
    simp [namedFields?, decoded, these]

/-- An object in which no name is written twice, however it is spelled; or no object. -/
def NamesOnce : Source → Prop
  | .obj fields => ∀ named, namedFields? fields = some named → (named.map (·.1)).Nodup
  | _ => True

theorem countName_le_one {fields : List (String × Source)} (nodup : (fields.map (·.1)).Nodup)
    (name : String) : countName name fields ≤ 1 := by
  have once := List.nodup_iff_count_le_one.mp nodup name
  rwa [List.count, List.countP_map] at once

theorem lookup_related {named : List (String × Source)} {written : Fields}
    {related : Source → Json → Prop} (each : List.Forall₂ (fun field occurrence =>
      field.1 = occurrence.1 ∧ related field.2 occurrence.2) named written) (name : String) :
    Option.Rel related (lookup named name) (written.get? name) := by
  induction each with
  | nil => exact .none
  | @cons field occurrence named written both later ih =>
    obtain ⟨key, source⟩ := field
    obtain ⟨other, value⟩ := occurrence
    obtain ⟨rfl, means⟩ : key = other ∧ related source value := both
    by_cases here : key = name
    · simpa [lookup, Fields.get?, here] using Option.Rel.some means
    · simpa [lookup, Fields.get?, here] using ih

theorem getElem?_related {α β : Type} {related : α → β → Prop} {items : List α} {values : List β}
    (each : List.Forall₂ related items values) (i : Nat) :
    Option.Rel related items[i]? values[i]? := by
  induction each generalizing i with
  | nil => exact .none
  | cons here later ih =>
    cases i with
    | zero => exact .some here
    | succ i => exact ih i

/-- A record is read the same out of a text and out of the value that the text denotes. -/
theorem record?_related {source : Source} {value : Json} (meant : source.value? 0 = some value)
    (once : source.NamesOnce) (names : List String) :
    Option.Rel (List.Forall₂ (Option.Rel fun part found => part.value? 1 = some found))
      (source.record? names) (value.record? names) := by
  obtain ⟨shallow, meant⟩ := value?_eq_some_iff.mp meant
  cases source with
  | null =>
    cases meant
    exact .none
  | bool b =>
    cases meant
    exact .none
  | num text =>
    obtain ⟨number, _, rfl⟩ := Option.map_eq_some_iff.mp meant
    exact .none
  | str units =>
    obtain ⟨text, _, rfl⟩ := Option.map_eq_some_iff.mp meant
    exact .none
  | arr items =>
    obtain ⟨values, denoted, rfl⟩ := Option.map_eq_some_iff.mp meant
    rw [depth, Nat.add_zero] at shallow
    have each := values_of_items shallow denoted
    rw [record?, Json.record?, each.length_eq]
    split
    · refine .some ?_
      rw [List.forall₂_map_left_iff, List.forall₂_map_right_iff, List.forall₂_same]
      exact fun i _ => getElem?_related each i
    · exact .none
  | obj fields =>
    rw [meaning?, meaningOfFields?_eq] at meant
    obtain ⟨_, denoted, rfl⟩ := Option.map_eq_some_iff.mp meant
    obtain ⟨written, occurs, rfl⟩ := Option.map_eq_some_iff.mp denoted
    rw [depth, Nat.add_zero] at shallow
    obtain ⟨named, decoded, each⟩ := named_of_occurrences shallow occurs
    have nodup := once named decoded
    have counted : (names.all fun name => decide (countName name named ≤ 1)) = true := by
      simp [countName_le_one nodup]
    have same : named.map (·.1) = written.map (·.1) := by
      rw [← List.forall₂_eq_eq_eq, List.forall₂_map_left_iff, List.forall₂_map_right_iff]
      exact each.imp fun _ _ both => both.1
    rw [same] at nodup
    have meant : Fields.putAll [] written = written := Fields.putAll_of_nodup nodup
    rw [meant]
    simp only [record?, decoded, Option.bind_eq_bind, Option.bind_some, counted, if_true,
      Json.record?]
    refine .some ?_
    rw [List.forall₂_map_left_iff, List.forall₂_map_right_iff, List.forall₂_same]
    exact fun name _ => lookup_related each name

theorem eq_null_of_value? {source : Source} {around : Nat}
    (meant : source.value? around = some .null) : source = .null := by
  have meant := (value?_eq_some_iff.mp meant).2
  cases source with
  | null => rfl
  | bool b => cases meant
  | _ =>
    obtain ⟨_, _, other⟩ := Option.map_eq_some_iff.mp meant
    cases other

end Source

namespace Json

/-- What is found for the fields of a record does not depend on the order of an object, nor on
fields of other names. -/
theorem record?_of_perm {fields others : Fields} (nodup : (fields.map (·.1)).Nodup)
    {names : List String} (same : others.Perm (fields.filter fun field => field.1 ∈ names)) :
    (Json.obj fields).record? names = (Json.obj others).record? names := by
  have kept : ((fields.filter fun field => field.1 ∈ names).map (·.1)).Nodup :=
    nodup.sublist (List.filter_sublist.map _)
  refine congrArg some (List.map_congr_left fun name asked => ?_)
  rw [← Fields.get?_perm kept same.symm, Fields.get?_filter fields fun name => name ∈ names]
  simp [asked]

end Json

namespace Request

theorem toJson_eq_document (request : Request) : request.toJson = request.document := by
  obtain ⟨subject, object, environment⟩ := request
  cases subject <;> cases object <;> cases environment <;> rfl

theorem ext_get {request other : Request} (same : ∀ ns, request.get ns = other.get ns) :
    request = other := by
  obtain ⟨subject, object, environment⟩ := request
  have subjects := same .subject
  have objects := same .object
  have environments := same .environment
  simp only [get] at subjects objects environments
  subst subjects objects environments
  rfl

theorem document_injective : Function.Injective document := fun request other same =>
  ext_get fun ns => by rw [← field?_document, same, field?_document]

theorem ofJson?_obj (fields : Fields) : ∃ request, ofJson? (.obj fields) = some request ∧
    ∀ ns : Namespace, request.get ns = supplied (fields.get? ns.key) := by
  refine ⟨_, rfl, fun ns => ?_⟩
  cases ns <;> rfl

theorem ofJson?_document (request : Request) : ∃ back, ofJson? request.document = some back ∧
    ∀ ns, back.get ns = supplied (request.get ns) := by
  obtain ⟨back, read, each⟩ := ofJson?_obj (request.fieldsFor Namespace.all)
  refine ⟨back, read, fun ns => ?_⟩
  rw [each, ← field?_document]
  rfl

theorem supplied_eq_ite (field : Option Json) :
    supplied field = if field = some .null then none else field := by
  cases field with
  | none => rfl
  | some value => cases value <;> simp [supplied]

theorem supplied_eq_self_iff (field : Option Json) :
    supplied field = field ↔ field ≠ some .null := by
  rw [supplied_eq_ite]
  split <;> simp [*]

theorem suppliedBy_related {part : Option Source} {found : Option Json}
    (same : Option.Rel (fun part found => part.value? 1 = some found) part found) :
    Source.fieldOr (some none) suppliedBy part = some (supplied found) := by
  cases same with
  | none => rfl
  | @some source value meant =>
    cases source with
    | null =>
      cases meant
      rfl
    | _ =>
      rw [(supplied_eq_self_iff _).mpr fun same => ?_]
      · simp [Source.fieldOr, suppliedBy, meant]
      · cases same
        cases Source.eq_null_of_value? meant

theorem ofSource?_eq_ofJson? {source : Source} {value : Json} (meant : source.value? 0 = some value)
    (once : source.NamesOnce) : ofSource? source = ofJson? value := by
  have both := Source.record?_related meant once ["subject", "object", "environment"]
  rw [ofSource?, ofJson?]
  generalize source.record? ["subject", "object", "environment"] = parts at both ⊢
  generalize value.record? ["subject", "object", "environment"] = found at both ⊢
  cases both with
  | none => rfl
  | some each =>
    obtain _ | ⟨subject, _ | ⟨object, _ | ⟨environment, _ | _⟩⟩⟩ := each
    case cons.cons.cons.nil =>
      simp [suppliedBy_related subject, suppliedBy_related object, suppliedBy_related environment]
    all_goals rfl

/-- What is read back from a written request is the request without its nulls, and so the request
itself exactly if it supplies none. Fields of other names and the order of fields count for nothing,
in a value as in a text. -/
theorem exchange_loses_only_nulls :
    (∀ request : Request, request.toJson = request.document) ∧
    Function.Injective document ∧
    (∀ request : Request, ∃ back, ofJson? request.toJson = some back ∧
      (∀ ns, back.get ns = if request.get ns = some .null then none else request.get ns) ∧
      (back = request ↔ ∀ ns, request.get ns ≠ some .null)) ∧
    (∀ fields others : Fields, (fields.map (·.1)).Nodup →
      others.Perm (fields.filter fun field => field.1 ∈ Namespace.all.map Namespace.key) →
      ∃ request, ofJson? (.obj fields) = some request ∧ ofJson? (.obj others) = some request) ∧
    ∀ (source : Source) (value : Json), source.value? 0 = some value → source.NamesOnce →
      ofSource? source = ofJson? value := by
  refine ⟨toJson_eq_document, document_injective, fun request => ?_, fun fields others => ?_,
    fun source value => ofSource?_eq_ofJson?⟩
  · obtain ⟨back, read, each⟩ := ofJson?_document request
    rw [toJson_eq_document]
    refine ⟨back, read, fun ns => ?_, fun same ns => ?_, fun full => ext_get fun ns => ?_⟩
    · rw [each, supplied_eq_ite]
    · rw [← supplied_eq_self_iff, ← each, same]
    · rw [each, (supplied_eq_self_iff _).mpr (full ns)]
  · intro nodup same
    obtain ⟨request, read, _⟩ := ofJson?_obj fields
    have found : (Json.obj fields).record? ["subject", "object", "environment"] =
        (Json.obj others).record? ["subject", "object", "environment"] :=
      Json.record?_of_perm nodup same
    rw [ofJson?, found] at read
    exact ⟨request, by rw [ofJson?, found, read], read⟩

theorem exchange_loses_only_nulls_guest :
    ∃ request, ofJson? (.obj [("object", .null), ("note", .bool true), ("subject", .obj [])]) =
        some request ∧
      ofJson? (.obj [("subject", .obj []), ("object", .null)]) = some request ∧
      ofSource? (.obj [("object".toList.map .char, .null)]) =
        ofJson? (.obj [("object", .null)]) := by
  obtain ⟨_, _, _, restricted, denoted⟩ := exchange_loses_only_nulls
  obtain ⟨request, read, again⟩ := restricted
    [("object", .null), ("note", .bool true), ("subject", .obj [])]
    [("subject", .obj []), ("object", .null)] (by decide) (by decide)
  refine ⟨request, read, again, denoted _ _ (by rfl) ?_⟩
  rintro named decoded
  cases decoded
  decide

end Request

end AccessRules
