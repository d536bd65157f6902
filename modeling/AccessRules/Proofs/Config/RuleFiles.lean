import AccessRules.Config.RuleFile
import AccessRules.Proofs.Engine.Names
import AccessRules.Proofs.Json.Occurrences

/-!
From a rule file to an engine. A rule file may give one name several schemas. The reader keeps the
last of them in the place of the first, and the engine then registers what was kept; had it
registered every schema as it is written, it would be the same engine. What is not such a file is
refused, and why is told by what is found at the path.
-/

namespace AccessRules

namespace Entries

theorem put_put (entries : Entries) (name : String) (old new : Entry) :
    (entries.put name old).put name new = entries.put name new := by
  induction entries with
  | nil => simp [put]
  | cons first rest ih =>
    obtain ⟨key, entry⟩ := first
    by_cases here : key = name <;> simp [put, here, ih]

/-- A name that has its place keeps it, and so it does not matter when it is given an entry. -/
theorem put_comm {entries : Entries} {name other : String} (apart : name ≠ other)
    (present : name ∈ entries.map (·.1)) (entry otherEntry : Entry) :
    (entries.put other otherEntry).put name entry =
      (entries.put name entry).put other otherEntry := by
  induction entries with
  | nil => cases present
  | cons first rest ih =>
    obtain ⟨key, old⟩ := first
    by_cases here : key = name
    · subst here
      simp [put, apart]
    · have later : name ∈ rest.map (·.1) :=
        (List.mem_cons.mp present).resolve_left fun same => here same.symm
      by_cases hit : key = other <;> simp [put, here, hit, apart.symm, ih later]

end Entries

namespace Engine

theorem register_register (engine : Engine) (name : String) (old new : Json) :
    ((engine.register name old).result.register name new).result =
      (engine.register name new).result := by
  simp [register, Entries.put_put]

theorem register_comm {engine : Engine} {name other : String} (apart : name ≠ other)
    (present : name ∈ engine.names) (schema otherSchema : Json) :
    ((engine.register other otherSchema).result.register name schema).result =
      ((engine.register name schema).result.register other otherSchema).result := by
  simp [register, Entries.put_comm apart present]

theorem mem_names_register {engine : Engine} {name : String} (present : name ∈ engine.names)
    (other : String) (schema : Json) : name ∈ (engine.register other schema).result.names :=
  (names_prefix_register engine other schema).subset present

theorem register_registerAll {engine : Engine} {name : String} {rules : List (String × Json)}
    (present : name ∈ engine.names) (absent : name ∉ rules.map (·.1)) (schema : Json) :
    ((engine.registerAll rules).result.register name schema).result =
      ((engine.register name schema).result.registerAll rules).result := by
  induction rules generalizing engine with
  | nil => rfl
  | cons first rest ih =>
    obtain ⟨other, otherSchema⟩ := first
    rw [List.map_cons, List.mem_cons, not_or] at absent
    rw [registerAll, registerAll, ← register_comm absent.1 present]
    exact ih (mem_names_register present other otherSchema) absent.2

/-- Putting a rule among rules comes to registering it after them. -/
theorem registerAll_put {rules : Fields} (nodup : (rules.map (·.1)).Nodup) (engine : Engine)
    (name : String) (schema : Json) :
    (engine.registerAll (rules.put name schema)).result =
      ((engine.registerAll rules).result.register name schema).result := by
  induction rules generalizing engine with
  | nil => rfl
  | cons first rest ih =>
    obtain ⟨key, old⟩ := first
    rw [List.map_cons, List.nodup_cons] at nodup
    by_cases here : key = name
    · subst here
      have present : key ∈ (engine.register key old).result.names := by
        rw [names_register]
        split <;> simp [*]
      rw [Fields.put, if_pos rfl, registerAll, registerAll, register_registerAll present nodup.1,
        register_register]
    · rw [Fields.put, if_neg here, registerAll, registerAll]
      exact ih nodup.2 _

theorem registerAll_putAll {before : Fields} (nodup : (before.map (·.1)).Nodup) (engine : Engine)
    (written : List (String × Json)) :
    (engine.registerAll (before.putAll written)).result =
      ((engine.registerAll before).result.registerAll written).result := by
  induction written generalizing before with
  | nil => rfl
  | cons first rest ih =>
    obtain ⟨name, schema⟩ := first
    rw [Fields.putAll, ih (Fields.nodup_put nodup name schema), registerAll_put nodup, registerAll]

theorem after_registrations (engine : Engine) (rules : List (String × Json)) :
    engine.after (rules.map fun rule => .register rule.1 rule.2) =
      (engine.registerAll rules).result := by
  induction rules generalizing engine with
  | nil => rfl
  | cons first rest ih =>
    rw [List.map_cons, after_cons, registerAll]
    exact ih _

end Engine

namespace RuleFile

theorem fromUTF8?_eq_some_iff (content : ByteArray) (text : String) :
    String.fromUTF8? content = some text ↔ content = text.toByteArray := by
  rw [String.fromUTF8?]
  constructor
  · intro decoded
    split at decoded
    · cases decoded
      rfl
    · cases decoded
  · rintro rfl
    rw [dif_pos text.isValidUTF8]
    rfl

theorem text_eq_ok_iff (state : FileState) (written : String) :
    text state = .ok written ↔ state = .regular written.toByteArray := by
  cases state with
  | regular content =>
    rw [FileState.regular.injEq, ← fromUTF8?_eq_some_iff]
    cases decoded : String.fromUTF8? content <;> simp [text, decoded]
  | missing | directory | blocked | withheld => simp [text]

inductive Unreadable : FileState → ReadFault → Prop where
  | missing : Unreadable .missing .missing
  | directory : Unreadable .directory .directory
  | blocked : Unreadable .blocked .blocked
  | withheld {isFile : Bool} {reason : String} :
      Unreadable (.withheld isFile reason) (.withheld reason)
  | notText {content : ByteArray} (other : ∀ written : String, content ≠ written.toByteArray) :
      Unreadable (.regular content) .notText

theorem text_eq_error_iff (state : FileState) (fault : ReadFault) :
    text state = .error fault ↔ Unreadable state fault := by
  constructor
  · intro failed
    cases state with
    | regular content =>
      cases decoded : String.fromUTF8? content with
      | none =>
        obtain rfl : ReadFault.notText = fault := by simpa [text, decoded] using failed
        refine .notText fun written same => ?_
        rw [(fromUTF8?_eq_some_iff content written).mpr same] at decoded
        cases decoded
      | some written => simp [text, decoded] at failed
    | missing =>
      cases failed
      exact .missing
    | directory =>
      cases failed
      exact .directory
    | blocked =>
      cases failed
      exact .blocked
    | withheld =>
      cases failed
      exact .withheld
  · intro unreadable
    cases unreadable with
    | @notText content other =>
      have undecoded : String.fromUTF8? content = none := by
        refine Option.eq_none_iff_forall_ne_some.mpr fun written decoded => ?_
        exact other written ((fromUTF8?_eq_some_iff content written).mp decoded)
      rw [text, undecoded]
    | missing | directory | blocked | withheld => rfl

/-- Why there are no rules at a path. -/
inductive Refused (look : String → FileState) (path : String) : RuleFileError → Prop where
  | unreadable {fault : ReadFault} (found : Unreadable (look path) fault) :
      Refused look path (.unreadable path fault)
  | notJson {written : String} (found : look path = .regular written.toByteArray)
      (other : ∀ value, Json.ofText? written ≠ some value) : Refused look path (.notJson path)
  | notAnObject {written : String} {value : Json}
      (found : look path = .regular written.toByteArray) (read : Json.ofText? written = some value)
      (other : ∀ fields, value ≠ .obj fields) : Refused look path (.notAnObject path)

theorem load_eq_ok_iff (look : String → FileState) (path : String) (rules : List (String × Json)) :
    load look path = .ok rules ↔ ∃ content text, look path = .regular content ∧
      String.fromUTF8? content = some text ∧ Json.ofText? text = some (.obj rules) := by
  rw [load]
  cases look path with
  | regular content =>
    simp only [text]
    cases decoded : String.fromUTF8? content with
    | none => simp [decoded]
    | some written =>
      simp only [ofText]
      cases parsed : Json.ofText? written with
      | none => simp [decoded, parsed]
      | some value => cases value <;> simp [decoded, parsed]
  | missing | directory | blocked | withheld => simp [text]

theorem load_eq_ok_iff_writes (look : String → FileState) (path : String)
    (rules : List (String × Json)) : load look path = .ok rules ↔ ∃ text written,
      look path = .regular text.toByteArray ∧ Json.Writes text written ∧
        rules = Fields.putAll [] written := by
  rw [load_eq_ok_iff]
  simp only [fromUTF8?_eq_some_iff, Json.ofText?_eq_obj_iff]
  constructor
  · rintro ⟨_, text, found, rfl, written, writes, same⟩
    exact ⟨text, written, found, writes, same⟩
  · rintro ⟨text, written, found, writes, same⟩
    exact ⟨_, text, found, rfl, written, writes, same⟩

theorem load_eq_error_iff (look : String → FileState) (path : String) (e : RuleFileError) :
    load look path = .error e ↔ Refused look path e := by
  constructor
  · rw [load]
    cases read : text (look path) with
    | error fault =>
      rintro ⟨⟩
      exact .unreadable ((text_eq_error_iff _ _).mp read)
    | ok written =>
      have found := (text_eq_ok_iff _ _).mp read
      simp only [ofText]
      cases parsed : Json.ofText? written with
      | none =>
        rintro ⟨⟩
        exact .notJson found (by simp [parsed])
      | some value =>
        cases value with
        | obj fields => rintro ⟨⟩
        | _ =>
          rintro ⟨⟩
          exact .notAnObject found parsed (by simp)
  · intro refused
    cases refused with
    | unreadable found => rw [load, (text_eq_error_iff _ _).mpr found]
    | notJson found other =>
      simp only [load, (text_eq_ok_iff _ _).mpr found, ofText]
      rw [Option.eq_none_iff_forall_ne_some.mpr other]
    | notAnObject found read other =>
      simp only [load, (text_eq_ok_iff _ _).mpr found, ofText, read]

end RuleFile

/-- A file that writes an object is loaded, whatever its schemas, and registering what is loaded
makes the engine that registering every schema as it is written would make. Nothing else is loaded,
and what is said of it is what it lacks. -/
theorem rule_file_registers_as_written (look : String → FileState) (path : String) :
    (∀ text written, look path = .regular text.toByteArray → Json.Writes text written →
      ∃ rules, RuleFile.load look path = .ok rules ∧ ∀ engine : Engine,
        (engine.registerAll rules).result =
          engine.after (written.map fun rule => .register rule.1 rule.2)) ∧
    (∀ rules, RuleFile.load look path = .ok rules →
      ∃ text written, look path = .regular text.toByteArray ∧ Json.Writes text written) ∧
    ∀ e, RuleFile.load look path = .error e ↔ RuleFile.Refused look path e := by
  refine ⟨fun text written found writes => ?_, fun rules loaded => ?_,
    RuleFile.load_eq_error_iff look path⟩
  · refine ⟨Fields.putAll [] written,
      (RuleFile.load_eq_ok_iff_writes _ _ _).mpr ⟨text, written, found, writes, rfl⟩,
      fun engine => ?_⟩
    have nothing : (([] : Fields).map (·.1)).Nodup := List.nodup_nil
    rw [Engine.after_registrations, Engine.registerAll_putAll nothing, Engine.registerAll]
  · obtain ⟨text, written, found, writes, _⟩ := (RuleFile.load_eq_ok_iff_writes _ _ _).mp loaded
    exact ⟨text, written, found, writes⟩

theorem rule_file_registers_as_written_twice :
    let text := "\x7b\"a\":1,\"b\":\x7b\x7d,\"a\":\x7b\x7d\x7d"
    let written := [("a", Json.int 1), ("b", .obj []), ("a", .obj [])]
    ∃ rules, RuleFile.load (fun _ => .regular text.toByteArray) "rules.json" = .ok rules ∧
      (Engine.new.registerAll rules).result =
        Engine.new.after (written.map fun rule => .register rule.1 rule.2) := by
  intro text written
  have facts := rule_file_registers_as_written (fun _ => .regular text.toByteArray) "rules.json"
  have read : Source.ofText? text = some (.obj [([.char 'a'], .num ⟨false, [1], none, none⟩),
      ([.char 'b'], .obj []), ([.char 'a'], .obj [])]) := by
    simp only [Source.ofText?, text, String.reduceToList]
    rfl
  have writes : Json.Writes text written := ⟨_, read, by decide, rfl⟩
  obtain ⟨rules, loaded, same⟩ := facts.1 text written rfl writes
  exact ⟨rules, loaded, same Engine.new⟩

end AccessRules
