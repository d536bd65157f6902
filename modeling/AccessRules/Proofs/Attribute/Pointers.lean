import AccessRules.Json.Pointer
import AccessRules.Proofs.Attribute.Chains

/-!
Attribute paths read as JSON pointers. A path joins the keys of its chain as they are, without the
escapes of a pointer. So it denotes the chain as long as no key has a slash or a tilde. A key with a
slash comes apart, and two chains have one path exactly if they come apart into the same pieces; of
the attributes at their ends only one is recorded then.
-/

namespace AccessRules

namespace Pointer

def Escaped : List Char → Prop
  | '~' :: '1' :: rest => Escaped rest
  | '~' :: '0' :: rest => Escaped rest
  | c :: rest => c ≠ '~' ∧ Escaped rest
  | [] => True

/-- As a JSON pointer the text denotes the tokens, and all its tildes are those of escapes. -/
def Denotes (text : List Char) (tokens : List (List Char)) : Prop :=
  tokens? text = some tokens ∧ ∀ segment ∈ segments text.tail, Escaped segment

theorem segments_eq_splitOn (text : List Char) : segments text = text.splitOn '/' := by
  induction text with
  | nil => rfl
  | cons c rest ih =>
    rw [List.splitOn_cons_eq_if_modifyHead, ← ih]
    by_cases slash : c = '/'
    · subst slash
      rfl
    · rw [if_neg (by simpa using slash), segments.eq_3 _ _ slash]
      cases split : segments rest with
      | nil => exact absurd (ih ▸ split) (List.splitOn_ne_nil '/' rest)
      | cons first others => rfl

theorem unescape_of_plain {token : List Char} (plain : '~' ∉ token) : unescape token = token := by
  fun_induction unescape token with
  | case1 rest _ => simp at plain
  | case2 rest _ => simp at plain
  | case3 c rest _ _ ih => rw [ih (List.not_mem_of_not_mem_cons plain)]
  | case4 => rfl

theorem escaped_of_plain {token : List Char} (plain : '~' ∉ token) : Escaped token := by
  fun_induction Escaped token with
  | case1 rest _ => simp at plain
  | case2 rest _ => simp at plain
  | case3 c rest _ _ ih =>
    exact ⟨Ne.symm (List.ne_of_not_mem_cons plain), ih (List.not_mem_of_not_mem_cons plain)⟩
  | case4 => trivial

theorem length_unescape_le (token : List Char) : (unescape token).length ≤ token.length := by
  fun_induction unescape token with
  | case4 => exact Nat.le_refl _
  | _ =>
    simp only [List.length_cons]
    omega

theorem length_unescape_lt {token : List Char} (escaped : Escaped token) (marked : '~' ∈ token) :
    (unescape token).length < token.length := by
  fun_induction unescape token with
  | case1 rest _ =>
    have shorter := length_unescape_le rest
    simp only [List.length_cons]
    omega
  | case2 rest _ =>
    have shorter := length_unescape_le rest
    simp only [List.length_cons]
    omega
  | case3 c rest one zero ih =>
    rw [Escaped.eq_3 _ _ one zero] at escaped
    rcases List.mem_cons.mp marked with same | later
    · exact absurd same.symm escaped.1
    · exact Nat.succ_lt_succ (ih escaped.2 later)
  | case4 => simp at marked

theorem unescape_eq_self_iff {token : List Char} (escaped : Escaped token) :
    unescape token = token ↔ '~' ∉ token := by
  constructor
  · -- Undoing an escape makes the token shorter, so it cannot stay what it was.
    intro same marked
    exact absurd (congrArg List.length same) (Nat.ne_of_lt (length_unescape_lt escaped marked))
  · exact unescape_of_plain

end Pointer

namespace AttributePath

def pieces (chain : List String) : List (List Char) :=
  chain.flatMap fun key => key.toList.splitOn '/'

theorem splitOn_intercalate_pieces {chain : List String} (nonempty : chain ≠ []) :
    (['/'].intercalate (chain.map String.toList)).splitOn '/' = pieces chain := by
  induction chain with
  | nil => exact absurd rfl nonempty
  | cons key rest ih =>
    cases rest with
    | nil => simp [pieces]
    | cons next rest =>
      have later := ih (List.cons_ne_nil next rest)
      rw [List.map_cons, List.map_cons, List.intercalate_cons_cons, List.append_assoc,
        List.singleton_append, List.splitOn_append_cons_self, ← List.map_cons, later]
      rfl

theorem ofChain_eq_iff {first second : List String} (nonempty : first ≠ [])
    (filled : second ≠ []) : ofChain first = ofChain second ↔ pieces first = pieces second := by
  rw [← String.toList_inj, toList_ofChain, toList_ofChain, List.cons.injEq, and_iff_right rfl,
    ← splitOn_intercalate_pieces nonempty, ← splitOn_intercalate_pieces filled]
  constructor
  · intro same
    rw [same]
  · intro same
    have joined := congrArg (List.intercalate ['/']) same
    rwa [List.intercalate_splitOn, List.intercalate_splitOn] at joined

theorem length_pieces_ge (chain : List String) : chain.length ≤ (pieces chain).length := by
  induction chain with
  | nil => exact Nat.le_refl _
  | cons key rest ih =>
    have some_piece := List.length_pos_iff.mpr (List.splitOn_ne_nil '/' key.toList)
    simp only [pieces, List.flatMap_cons, List.length_append, List.length_cons] at ih ⊢
    omega

theorem two_le_length_splitOn {word : List Char} (marked : '/' ∈ word) :
    2 ≤ (word.splitOn '/').length := by
  obtain ⟨before, after, rfl⟩ := List.append_of_mem marked
  have first := List.length_pos_iff.mpr (List.splitOn_ne_nil '/' before)
  have second := List.length_pos_iff.mpr (List.splitOn_ne_nil '/' after)
  rw [List.splitOn_append_cons_self, List.length_append]
  omega

theorem unmarked_of_length_pieces {chain : List String}
    (whole : (pieces chain).length = chain.length) : ∀ key ∈ chain, '/' ∉ key.toList := by
  induction chain with
  | nil => nofun
  | cons key rest ih =>
    have some_piece := List.length_pos_iff.mpr (List.splitOn_ne_nil '/' key.toList)
    have others := length_pieces_ge rest
    have sum : (key.toList.splitOn '/').length + (pieces rest).length = rest.length + 1 := by
      rw [← List.length_append]
      exact whole
    -- Every key has a piece at least, so none of them can have two.
    refine List.forall_mem_cons.mpr ⟨fun marked => ?_, ih (by omega)⟩
    have several := two_le_length_splitOn marked
    omega

theorem pieces_of_unmarked {chain : List String} (unmarked : ∀ key ∈ chain, '/' ∉ key.toList) :
    pieces chain = chain.map String.toList := by
  induction chain with
  | nil => rfl
  | cons key rest ih =>
    obtain ⟨here, later⟩ := List.forall_mem_cons.mp unmarked
    rw [List.map_cons, ← ih later, pieces, List.flatMap_cons, List.splitOn_eq_singleton here]
    rfl

theorem segments_ofChain {chain : List String} (nonempty : chain ≠ []) :
    Pointer.segments (ofChain chain).toList.tail = pieces chain := by
  rw [toList_ofChain, List.tail_cons, Pointer.segments_eq_splitOn,
    splitOn_intercalate_pieces nonempty]

theorem tokens?_ofChain {chain : List String} (nonempty : chain ≠ []) :
    Pointer.tokens? (ofChain chain).toList = some ((pieces chain).map Pointer.unescape) := by
  rw [← segments_ofChain nonempty, toList_ofChain]
  rfl

theorem denotes_ofChain_iff {chain : List String} (nonempty : chain ≠ []) :
    Pointer.Denotes (ofChain chain).toList (chain.map String.toList) ↔
      ∀ key ∈ chain, '/' ∉ key.toList ∧ '~' ∉ key.toList := by
  rw [Pointer.Denotes, tokens?_ofChain nonempty, segments_ofChain nonempty, Option.some.injEq]
  constructor
  · rintro ⟨same, escaped⟩
    have unmarked := unmarked_of_length_pieces (by simpa using congrArg List.length same)
    rw [pieces_of_unmarked unmarked] at same escaped
    rw [List.map_map, List.map_inj_left] at same
    intro key listed
    have word := escaped _ (List.mem_map_of_mem listed)
    exact ⟨unmarked key listed, (Pointer.unescape_eq_self_iff word).mp (same key listed)⟩
  · intro plain
    rw [pieces_of_unmarked fun key listed => (plain key listed).1, List.map_map, List.map_inj_left,
      List.forall_mem_map]
    constructor
    · exact fun key listed => Pointer.unescape_of_plain (plain key listed).2
    · exact fun key listed => Pointer.escaped_of_plain (plain key listed).2

end AttributePath

namespace Shape

/-- The walk comes upon the chain: the root is a property container, and the chain leads from it to
a leaf. -/
def Discovers (shape : Shape) (chain : List String) : Prop :=
  (∃ children, shape = .properties children) ∧ LeafAt chain shape

theorem Discovers.nonempty {shape : Shape} {chain : List String} (found : shape.Discovers chain) :
    chain ≠ [] := by
  obtain ⟨⟨children, rfl⟩, reached⟩ := found
  obtain ⟨key, child, rest, _, _, rfl⟩ := (leafAt_properties_iff _ _).mp reached
  exact List.cons_ne_nil key rest

theorem mem_paths_iff_discovers (shape : Shape) (path : String) : path ∈ shape.paths ↔
    ∃ chain, shape.Discovers chain ∧ path = AttributePath.ofChain chain := by
  cases shape with
  | properties children => simp [mem_paths_iff, Discovers]
  | _ => simp [paths, walk, Discovers]

end Shape

/-- A path is on record for every chain that the walk comes upon. It denotes the chain, as a JSON
pointer, exactly if no key of the chain has a slash or a tilde. Chains whose keys come apart into
the same pieces share their path, and no others do; so without slashes in keys no attribute is lost
where paths are recorded once. -/
theorem paths_denote_plain_chains (shape : Shape) :
    (∀ chain, shape.Discovers chain → AttributePath.ofChain chain ∈ shape.paths ∧
      (Pointer.Denotes (AttributePath.ofChain chain).toList (chain.map String.toList) ↔
        ∀ key ∈ chain, '/' ∉ key.toList ∧ '~' ∉ key.toList)) ∧
    (∀ first second, shape.Discovers first → shape.Discovers second →
      (AttributePath.ofChain first = AttributePath.ofChain second ↔
        AttributePath.pieces first = AttributePath.pieces second)) ∧
    ((∀ chain, shape.Discovers chain → ∀ key ∈ chain, '/' ∉ key.toList) →
      ∀ first second, shape.Discovers first → shape.Discovers second →
        AttributePath.ofChain first = AttributePath.ofChain second → first = second) := by
  have shared : ∀ first second, shape.Discovers first → shape.Discovers second →
      (AttributePath.ofChain first = AttributePath.ofChain second ↔
        AttributePath.pieces first = AttributePath.pieces second) :=
    fun first second here there => AttributePath.ofChain_eq_iff here.nonempty there.nonempty
  refine ⟨fun chain found => ⟨?_, ?_⟩, shared, ?_⟩
  · exact (Shape.mem_paths_iff_discovers shape _).mpr ⟨chain, found, rfl⟩
  · exact AttributePath.denotes_ofChain_iff found.nonempty
  · intro unmarked first second here there same
    rw [shared first second here there, AttributePath.pieces_of_unmarked (unmarked first here),
      AttributePath.pieces_of_unmarked (unmarked second there)] at same
    exact (List.map_inj_right fun _ _ => String.toList_inj.mp).mp same

def roles : Json := .obj [("properties", .obj [("subject", .obj [("properties", .obj [
  ("org/role", .obj []),
  ("org", .obj [("properties", .obj [("role", .obj [])])])])])])]

/-- Both roles have one path, which as a JSON pointer denotes only one of them. -/
theorem slash_in_key_hides_attribute :
    (Shape.ofJson roles).Discovers ["subject", "org/role"] ∧
    (Shape.ofJson roles).Discovers ["subject", "org", "role"] ∧
    AttributePath.ofChain ["subject", "org/role"] = "/subject/org/role" ∧
    (Shape.ofJson roles).paths = ["/subject/org/role"] ∧
    ¬ Pointer.Denotes "/subject/org/role".toList (["subject", "org/role"].map String.toList) := by
  have container : ∃ children, Shape.ofJson roles = .properties children := ⟨_, rfl⟩
  refine ⟨⟨container, ?_⟩, ⟨container, ?_⟩, by decide, by decide, fun denotes => ?_⟩
  · exact .child (.head _) (.child (.head _) .leaf)
  · exact .child (.head _) (.child (.tail _ (.head _)) (.child (.head _) .leaf))
  · have path : AttributePath.ofChain ["subject", "org/role"] = "/subject/org/role" := by decide
    rw [← path, AttributePath.denotes_ofChain_iff (List.cons_ne_nil _ _)] at denotes
    exact absurd (denotes "org/role" (by decide)).1 (by decide)

end AccessRules
