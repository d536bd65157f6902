import AccessRules.Proofs.Schema.Meaning

/-!
Where references lead. The table of a document has every address once, with what it leads to, and
the address without a name and with an empty fragment leads to the document as a whole.
-/

namespace AccessRules

namespace Target

theorem target?_eraseDups (entries : List (String × Url)) (target : Url → Target)
    (address : String) :
    SchemaDocument.target? ((entries.eraseDupsBy fun a b => a.1 == b.1).map fun (key, url) =>
      (key, target url)) address =
        (entries.find? fun entry => entry.1 == address).map fun entry => target entry.2 := by
  induction size : entries.length using Nat.strongRecOn generalizing entries with
  | ind size ih =>
    cases entries with
    | nil => rfl
    | cons first rest =>
      obtain ⟨key, url⟩ := first
      rw [List.eraseDupsBy_cons, List.map_cons]
      by_cases here : key = address
      · simp [SchemaDocument.target?, here]
      · have shorter := List.length_filter_le (fun entry => decide ((entry.1 == key) = false)) rest
        have later := ih (rest.filter fun entry => decide ((entry.1 == key) = false)).length
          (by simp only [List.length_cons] at size; omega) _ rfl
        have unaffected : (rest.filter fun entry => decide ((entry.1 == key) = false)).find?
            (fun entry => entry.1 == address) = rest.find? fun entry => entry.1 == address := by
          rw [List.find?_filter]
          congr 1
          funext entry
          by_cases same : entry.1 = address
          · have apart : ¬ address = key := fun h => here h.symm
            simp [same, apart]
          · simp [same]
        rw [unaffected] at later
        simpa [SchemaDocument.target?, here] using later

theorem target?_table (document : Json) (address : String) :
    SchemaDocument.target? (table document) address =
      ((allAddresses document).find? fun url => url.text == address).map
        (ofUrl (Library.ofDocument document)) := by
  rw [table, target?_eraseDups, List.find?_map, Option.map_map]
  rfl

/-- The address of a document without a name, as a whole. -/
def whole : Url := { Url.unnamed with fragment := some [] }

theorem ofUrl_whole (document : Json) :
    ofUrl (Library.ofDocument document) whole = Constraint.ofJson Url.unnamed document := by
  have decoded : (Pointer.decodedFragment (String.ofList (whole.fragment.getD []))).toOption =
      some [] := by decide +kernel
  have found : (Library.ofDocument document).get? whole = some document := by
    have address : whole.document.text = Url.unnamed.text := by decide
    simp [Library.get?, Library.ofDocument, address]
  rw [ofUrl]
  cases pointer : Pointer.decodedFragment (String.ofList (whole.fragment.getD [])) with
  | error flaw => simp [pointer, Except.toOption] at decoded
  | ok tokens =>
    rw [pointer] at decoded
    cases Option.some.inj decoded
    simp only [found, Pointer.tokens?, Option.bind_some, Pointer.follow?]
    rfl

end Target

end AccessRules
