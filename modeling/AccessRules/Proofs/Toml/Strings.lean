import AccessRules.Toml.Text

/-!
Strings as TOML spells them. The four styles differ in their quote, in whether there are escapes,
and in how many quotes close a string; inside one, fewer quotes than close it may stand side by
side. Whatever a text is, the spelling that is written of it is one of its spellings, and every
spelling is read as the text that it spells, up to what follows.
-/

namespace AccessRules

namespace Toml

namespace Text

structure Style where
  /-- Basic, where literal is the other. -/
  escapes : Bool
  /-- On several lines. -/
  long : Bool

namespace Style

def quote (style : Style) : Char := if style.escapes then '"' else '\''

/-- How many quotes may stand side by side inside. -/
def quotes (style : Style) : Nat := if style.long then 2 else 0

def delimiter (style : Style) : List Char :=
  List.replicate (style.quotes + 1) style.quote

def reader : Style → List Char → Found
  | ⟨true, false⟩ => readBasic
  | ⟨true, true⟩ => readLongBasic false
  | ⟨false, false⟩ => readLiteral
  | ⟨false, true⟩ => readLongLiteral

end Style

inductive Spelled (style : Style) : Char → List Char → Prop where
  | plain {c : Char} (allowed : needsEscape c = false) (noQuote : c ≠ style.quote)
      (noBackslash : style.escapes = true → c ≠ '\\') (line : c = '\n' → style.long = true) :
      Spelled style c [c]
  | short {e c : Char} (escapes : style.escapes = true) (means : shortEscape? e = some c) :
      Spelled style c ['\\', e]
  | number {c d e f char : Char} (escapes : style.escapes = true)
      (means : (Hex.number? [c, d, e, f]).bind scalar? = some char) :
      Spelled style char ['\\', 'u', c, d, e, f]

/-- The inside of a string after some quotes that stand side by side, and the text it spells. -/
inductive Inside (style : Style) : Nat → List Char → List Char → Prop where
  | nil {before : Nat} : Inside style before [] []
  | quote {before : Nat} {body s : List Char} (few : before < style.quotes)
      (inside : Inside style (before + 1) body s) :
      Inside style before (style.quote :: body) (style.quote :: s)
  | char {before : Nat} {c : Char} {spelling body s : List Char}
      (spelled : Spelled style c spelling) (inside : Inside style 0 body s) :
      Inside style before (spelling ++ body) (c :: s)

/-- The spellings of a text. A long string may begin on a line of its own. -/
inductive Spelling : List Char → List Char → Prop where
  | closed {style : Style} {body s : List Char} (inside : Inside style 0 body s)
      (begins : style.long = true → body.head? ≠ some '\n') :
      Spelling (style.delimiter ++ (body ++ style.delimiter)) s
  | opened {style : Style} {body s : List Char} (inside : Inside style 0 body s)
      (long : style.long = true) :
      Spelling (style.delimiter ++ '\n' :: (body ++ style.delimiter)) s

theorem newline_or_allowed {c : Char} (allowed : needsEscape c = false) :
    c = '\n' ∨ isForbidden c = false ∧ c ≠ '\n' ∧ c ≠ '\r' := by
  by_cases newline : c = '\n'
  · exact .inl newline
  · have noReturn : c ≠ '\r' := by
      rintro rfl
      cases allowed
    exact .inr ⟨by simpa [needsEscape, newline] using allowed, newline, noReturn⟩

theorem Spelled.begins {style : Style} {c : Char} {spelling : List Char}
    (spelled : Spelled style c spelling) :
    ∃ d tail, spelling = d :: tail ∧ d ≠ style.quote ∧ d ≠ '\r' := by
  cases spelled with
  | plain allowed noQuote =>
    refine ⟨c, [], rfl, noQuote, ?_⟩
    rintro rfl
    cases allowed
  | short escapes means => exact ⟨'\\', _, rfl, by simp [Style.quote, escapes], by decide⟩
  | number escapes means => exact ⟨'\\', _, rfl, by simp [Style.quote, escapes], by decide⟩

section Reading

theorem consScalar_of_means {digits : List Char} {c : Char}
    (means : (Hex.number? digits).bind scalar? = some c) (found : Found) :
    consScalar digits found = cons c found := by
  simp [consScalar, means]

theorem readBasic_spelled {c : Char} {spelling : List Char}
    (spelled : Spelled ⟨true, false⟩ c spelling) (rest : List Char) :
    readBasic (spelling ++ rest) = cons c (readBasic rest) := by
  cases spelled with
  | plain allowed noQuote noBackslash line =>
    have quote : c ≠ '"' := noQuote
    have backslash := noBackslash rfl
    obtain rfl | ⟨notForbidden, -, -⟩ := newline_or_allowed allowed
    · cases line rfl
    · rw [List.singleton_append, readBasic.eq_7]
      all_goals simp [notForbidden, backslash, quote]
  | @short e _ escapes means =>
    -- the letter of a short escape is none of those that announce a number
    rw [List.cons_append, List.singleton_append, readBasic.eq_6, means]
    all_goals
      intros
      subst e
      cases means
  | number escapes means => exact (readBasic.eq_4 ..).trans (consScalar_of_means means _)

theorem readLongBasic_spelled {c : Char} {spelling : List Char}
    (spelled : Spelled ⟨true, true⟩ c spelling) (rest : List Char) :
    readLongBasic false (spelling ++ rest) = cons c (readLongBasic false rest) := by
  cases spelled with
  | plain allowed noQuote noBackslash line =>
    have quote : c ≠ '"' := noQuote
    have backslash := noBackslash rfl
    obtain rfl | ⟨notForbidden, newline, noReturn⟩ := newline_or_allowed allowed
    · exact readLongBasic.eq_10 false rest
    · rw [List.singleton_append, readLongBasic.eq_11]
      all_goals simp [notForbidden, backslash, quote, newline, noReturn]
  | @short e _ escapes means =>
    rw [List.cons_append, List.singleton_append, readLongBasic.eq_8, means]
    all_goals
      intros
      subst e
      cases means
  | number escapes means => exact (readLongBasic.eq_6 ..).trans (consScalar_of_means means _)

theorem readLiteral_spelled {c : Char} {spelling : List Char}
    (spelled : Spelled ⟨false, false⟩ c spelling) (rest : List Char) :
    readLiteral (spelling ++ rest) = cons c (readLiteral rest) := by
  cases spelled with
  | plain allowed noQuote noBackslash line =>
    have quote : c ≠ '\'' := noQuote
    obtain rfl | ⟨notForbidden, -, -⟩ := newline_or_allowed allowed
    · cases line rfl
    · rw [List.singleton_append, readLiteral.eq_3]
      all_goals simp [notForbidden, quote]
  | short escapes => cases escapes
  | number escapes => cases escapes

theorem readLongLiteral_spelled {c : Char} {spelling : List Char}
    (spelled : Spelled ⟨false, true⟩ c spelling) (rest : List Char) :
    readLongLiteral (spelling ++ rest) = cons c (readLongLiteral rest) := by
  cases spelled with
  | plain allowed noQuote noBackslash line =>
    have quote : c ≠ '\'' := noQuote
    obtain rfl | ⟨notForbidden, newline, noReturn⟩ := newline_or_allowed allowed
    · exact readLongLiteral.eq_6 rest
    · rw [List.singleton_append, readLongLiteral.eq_7]
      all_goals simp [notForbidden, quote, newline, noReturn]
  | short escapes => cases escapes
  | number escapes => cases escapes

variable {style : Style} {rest : List Char}

theorem reader_spelled {c : Char} {spelling : List Char} (spelled : Spelled style c spelling)
    (rest : List Char) : style.reader (spelling ++ rest) = cons c (style.reader rest) := by
  obtain ⟨_ | _, _ | _⟩ := style
  · exact readLiteral_spelled spelled rest
  · exact readLongLiteral_spelled spelled rest
  · exact readBasic_spelled spelled rest
  · exact readLongBasic_spelled spelled rest

theorem readLongBasic_quote (few : ∀ after, rest ≠ '"' :: '"' :: after) :
    readLongBasic false ('"' :: rest) = cons '"' (readLongBasic false rest) := by
  rw [readLongBasic.eq_11]
  all_goals simp_all [isForbidden, isInlineBlank]

theorem readLongLiteral_quote (few : ∀ after, rest ≠ '\'' :: '\'' :: after) :
    readLongLiteral ('\'' :: rest) = cons '\'' (readLongLiteral rest) := by
  rw [readLongLiteral.eq_7]
  all_goals simp_all [isForbidden]

theorem reader_quote (long : style.long = true)
    (few : ∀ after, rest ≠ style.quote :: style.quote :: after) :
    style.reader (style.quote :: rest) = cons style.quote (style.reader rest) := by
  obtain ⟨_ | _, _⟩ := style
  · cases long
    exact readLongLiteral_quote few
  · cases long
    exact readLongBasic_quote few

def prepend (front : List Char) (found : Found) : Found :=
  found.map fun (s, rest) => (front ++ s, rest)

theorem prepend_nil (found : Found) : prepend [] found = found := by
  cases found <;> rfl

theorem cons_prepend (c : Char) (front : List Char) (found : Found) :
    cons c (prepend front found) = prepend (c :: front) found := by
  cases found <;> rfl

theorem reader_quotes {k : Nat} (few : k ≤ style.quotes) {d : Char} (other : d ≠ style.quote)
    (rest : List Char) : style.reader (List.replicate k style.quote ++ d :: rest) =
      prepend (List.replicate k style.quote) (style.reader (d :: rest)) := by
  cases long : style.long with
  | false =>
    obtain rfl : k = 0 := by simpa [Style.quotes, long] using few
    simp [prepend_nil]
  | true =>
    induction k with
    | zero => simp [prepend_nil]
    | succ k ih =>
      have fewer : k + 1 ≤ 2 := by simpa [Style.quotes, long] using few
      rw [List.replicate_succ, List.cons_append, reader_quote long, ih (by omega), cons_prepend]
      intro after same
      cases k with
      | zero => exact other (List.cons.inj same).1
      | succ k =>
        obtain rfl : k = 0 := by omega
        exact other (List.cons.inj (List.cons.inj same).2).1

/-- Of quotes at the end the last ones close the string. -/
theorem reader_delimiter {k : Nat} (few : k ≤ style.quotes)
    (ends : rest.head? ≠ some style.quote) :
    style.reader (List.replicate k style.quote ++ (style.delimiter ++ rest)) =
      some (List.replicate k style.quote, rest) := by
  have other (after : List Char) : rest ≠ style.quote :: after := by
    rintro rfl
    exact ends rfl
  cases long : style.long with
  | false =>
    obtain rfl : k = 0 := by simpa [Style.quotes, long] using few
    obtain ⟨_ | _, _⟩ := style
    · cases long
      exact readLiteral.eq_2 rest
    · cases long
      exact readBasic.eq_2 rest
  | true =>
    have number : k = 0 ∨ k = 1 ∨ k = 2 := by
      simp only [Style.quotes, long, if_true] at few
      omega
    obtain ⟨_ | _, _⟩ := style
    · cases long
      obtain rfl | rfl | rfl := number
      · exact readLongLiteral.eq_4 rest (fun _ => other _) (fun _ => other _)
      · exact readLongLiteral.eq_3 rest (fun _ => other _)
      · exact readLongLiteral.eq_2 rest
    · cases long
      obtain rfl | rfl | rfl := number
      · exact readLongBasic.eq_4 false rest (fun _ => other _) (fun _ => other _)
      · exact readLongBasic.eq_3 false rest (fun _ => other _)
      · exact readLongBasic.eq_2 false rest

-- The reader looks ahead over quotes, so those before the place go into the statement with it.
theorem reader_inside {k : Nat} {body s : List Char} (inside : Inside style k body s)
    (few : k ≤ style.quotes) (ends : rest.head? ≠ some style.quote) :
    style.reader (List.replicate k style.quote ++ (body ++ (style.delimiter ++ rest))) =
      some (List.replicate k style.quote ++ s, rest) := by
  induction inside with
  | nil => simpa using reader_delimiter few ends
  | @quote k body s fewer inside ih =>
    have further := ih (by omega)
    rw [List.replicate_succ'] at further
    simpa using further
  | @char k c spelling body s spelled inside ih =>
    have further := ih (Nat.zero_le _)
    rw [List.replicate_zero, List.nil_append, List.nil_append] at further
    obtain ⟨d, tail, rfl, other, -⟩ := spelled.begins
    rw [List.append_assoc, List.cons_append, reader_quotes few other, ← List.cons_append,
      reader_spelled spelled, further]
    rfl

theorem Inside.head?_ne {body s : List Char} (inside : Inside style 0 body s) :
    body.head? ≠ some '\r' ∧ (style.quotes = 0 → body.head? ≠ some style.quote) := by
  cases inside with
  | nil => simp
  | quote few =>
    constructor
    · obtain ⟨_ | _, _⟩ := style <;> simp [Style.quote]
    · intro none
      omega
  | char spelled =>
    obtain ⟨d, tail, rfl, other, noReturn⟩ := spelled.begins
    simp [other, noReturn]

theorem head?_delimited_ne {body : List Char} {c : Char} (begins : body.head? ≠ some c)
    (other : c ∉ ['"', '\'']) (rest : List Char) :
    (body ++ (style.delimiter ++ rest)).head? ≠ some c := by
  cases body with
  | nil =>
    intro same
    apply other
    obtain ⟨_ | _, _⟩ := style <;> cases same <;> simp [Style.quote]
  | cons d body => exact begins

theorem skipFirstLineEnd_eq_self {s : List Char} (begins : s.head? ≠ some '\n')
    (noReturn : s.head? ≠ some '\r') : skipFirstLineEnd s = s := by
  unfold skipFirstLineEnd
  split <;> simp_all

theorem read_long (long : style.long = true) (rest : List Char) :
    read (style.delimiter ++ rest) = style.reader (skipFirstLineEnd rest) := by
  obtain ⟨_ | _, _⟩ := style
  · cases long
    exact read.eq_2 rest
  · cases long
    exact read.eq_1 rest

theorem read_short (short : style.long = false)
    (few : ∀ after, rest ≠ style.quote :: style.quote :: after) :
    read (style.delimiter ++ rest) = style.reader rest := by
  obtain ⟨_ | _, _⟩ := style
  · cases short
    exact read.eq_4 rest (fun _ => few _)
  · cases short
    exact read.eq_3 rest (fun _ => few _)

theorem Spelling.exists_cons {spelling s : List Char} (spelled : Spelling spelling s) :
    ∃ (style : Style) (tail : List Char), spelling = style.quote :: tail := by
  cases spelled with
  | @closed style => exact ⟨style, _, rfl⟩
  | @opened style => exact ⟨style, _, rfl⟩

theorem read_spelling {spelling s : List Char} (spelled : Spelling spelling s)
    (ends : ∀ style : Style, rest.head? ≠ some style.quote) :
    read (spelling ++ rest) = some (s, rest) := by
  cases spelled with
  | @opened style body s inside long =>
    rw [List.append_assoc, read_long long, List.cons_append, skipFirstLineEnd, List.append_assoc]
    exact reader_inside inside (Nat.zero_le _) (ends style)
  | @closed style body s inside begins =>
    have found := reader_inside inside (Nat.zero_le _) (ends style)
    rw [List.append_assoc, List.append_assoc]
    obtain ⟨noReturn, noQuote⟩ := inside.head?_ne
    cases long : style.long with
    | true =>
      rw [read_long long, skipFirstLineEnd_eq_self]
      · exact found
      · exact head?_delimited_ne (begins long) (by decide) rest
      · exact head?_delimited_ne noReturn (by decide) rest
    | false =>
      have single : style.quotes = 0 := by simp [Style.quotes, long]
      rw [read_short long]
      · exact found
      · -- two quotes at once are the empty string, unless a third one follows
        intro after same
        rw [Style.delimiter, single] at same
        cases body with
        | nil => exact ends style (congrArg List.head? (List.cons.inj same).2)
        | cons d body => exact noQuote single (congrArg List.head? same)

end Reading

section Writing

theorem number?_upper {n : Nat} (control : n < 128) :
    Hex.number? ['0', '0', Hex.upper (n / 16), Hex.upper (n % 16)] = some n := by
  revert control
  decide +revert

theorem scalar?_toNat (c : Char) : scalar? c.toNat = some c := by
  have valid : c.toNat.isValidChar := c.valid
  rw [scalar?, if_pos valid, Char.ofNat_toNat]

theorem toNat_lt_of_needsEscape {c : Char} (control : needsEscape c = true) : c.toNat < 128 := by
  simp only [needsEscape, isForbidden, Bool.and_eq_true, Bool.or_eq_true, decide_eq_true_eq,
    beq_iff_eq] at control
  omega

theorem spelled_escapeChar {long : Bool} {c : Char} (noQuote : c ≠ '"') :
    Spelled ⟨true, long⟩ c (escapeChar long c) := by
  unfold escapeChar
  split
  · exact .short rfl rfl
  · exact .short rfl rfl
  · split
    · rename_i long
      exact .plain rfl noQuote (fun _ => by decide) fun _ => long
    · exact .short rfl rfl
  · exact .short rfl rfl
  · exact .short rfl rfl
  · exact .short rfl rfl
  · rename_i noLine _ _ noBackslash
    split
    · rename_i control
      have digits := number?_upper (toNat_lt_of_needsEscape control)
      exact .number rfl (by rw [digits, Option.bind_some, scalar?_toNat])
    · rename_i allowed
      exact .plain (by simpa using allowed) noQuote (fun _ => noBackslash)
        fun newline => absurd newline noLine

theorem inside_escaped (long : Bool) (before : Nat) (s : List Char) :
    Inside ⟨true, long⟩ before (escaped long (Style.quotes ⟨true, long⟩) before s) s := by
  induction s generalizing before with
  | nil => exact .nil
  | cons c s ih =>
    by_cases quote : c = '"'
    · subst quote
      rw [escaped]
      split
      · rename_i few
        exact .quote few (ih _)
      · exact .char (.short rfl rfl) (ih 0)
    · rw [escaped.eq_3 _ _ _ _ _ quote]
      exact .char (spelled_escapeChar quote) (ih 0)

/-- The longest run, going on from one that is under way and from the longest so far. -/
def longestRunFrom (c : Char) (run best : Nat) (s : List Char) : Nat :=
  (s.foldl (fun state d =>
    let run := if d = c then state.1 + 1 else 0
    (run, max state.2 run)) (run, best)).2

theorem le_longestRunFrom (c : Char) (run best : Nat) (s : List Char) :
    best ≤ longestRunFrom c run best s := by
  induction s generalizing run best with
  | nil => exact Nat.le_refl _
  | cons d s ih => exact Nat.le_trans (Nat.le_max_left _ _) (ih _ _)

-- The run that is under way counts the quotes before the place.
theorem inside_self {long : Bool} {s : List Char} (controls : s.any needsEscape = false)
    (lines : '\n' ∈ s → long = true) {run best : Nat}
    (few : longestRunFrom '\'' run best s ≤ Style.quotes ⟨false, long⟩) :
    Inside ⟨false, long⟩ run s s := by
  induction s generalizing run best with
  | nil => exact .nil
  | cons c s ih =>
    simp only [List.any_cons, Bool.or_eq_false_iff] at controls
    have inside := ih controls.2 (fun listed => lines (List.mem_cons_of_mem _ listed)) few
    by_cases quote : c = '\''
    · subst quote
      have longest : max best (run + 1) ≤ Style.quotes ⟨false, long⟩ :=
        Nat.le_trans (le_longestRunFrom _ _ _ _) few
      exact .quote (by omega) inside
    · rw [if_neg quote] at inside
      have line : c = '\n' → long = true := by
        rintro rfl
        exact lines List.mem_cons_self
      have spelled : Spelled ⟨false, long⟩ c [c] := .plain controls.1 quote (by simp) line
      exact .char spelled inside

theorem Inside.newline_mem {style : Style} {body s : List Char} (inside : Inside style 0 body s)
    (begins : body.head? = some '\n') : '\n' ∈ s := by
  cases inside with
  | nil => cases begins
  | quote => obtain ⟨_ | _, _⟩ := style <;> cases begins
  | char spelled =>
    cases spelled with
    | plain =>
      cases begins
      exact List.mem_cons_self
    | short => cases begins
    | number => cases begins

theorem spelling_basic (s : List Char) : Spelling (basic s) s :=
  @Spelling.closed ⟨true, false⟩ _ _ (inside_escaped false 0 s) nofun

theorem spelling_literal {s : List Char} (controls : s.any needsEscape = false)
    (oneLine : '\n' ∉ s) (few : longestRun '\'' s = 0) : Spelling (literal s) s :=
  @Spelling.closed ⟨false, false⟩ _ _
    (inside_self controls (fun listed => absurd listed oneLine) (Nat.le_of_eq few)) nofun

theorem spelling_long {style : Style} (long : style.long = true) {body s : List Char}
    (inside : Inside style 0 body s) :
    Spelling (style.delimiter ++ (opening s ++ (body ++ style.delimiter))) s := by
  unfold opening
  split
  · exact .opened inside long
  · rename_i oneLine
    refine .closed inside fun _ begins => oneLine ?_
    simpa using inside.newline_mem begins

theorem spelling_longBasic (s : List Char) : Spelling (longBasic s) s := by
  have spelled := @spelling_long ⟨true, true⟩ rfl _ _ (inside_escaped true 0 s)
  simpa [longBasic, Style.delimiter, Style.quotes, Style.quote] using spelled

theorem spelling_longLiteral {s : List Char} (controls : s.any needsEscape = false)
    (few : longestRun '\'' s ≤ 2) : Spelling (longLiteral s) s := by
  have spelled := @spelling_long ⟨false, true⟩ rfl _ _ (inside_self controls (fun _ => rfl) few)
  simpa [longLiteral, Style.delimiter, Style.quotes, Style.quote] using spelled

theorem spelling_encode (s : List Char) : Spelling (encode s) s := by
  unfold encode
  dsimp only
  split
  · exact spelling_basic s
  split
  · rename_i plain
    simp only [Bool.and_eq_true, Bool.not_eq_true', decide_eq_true_eq] at plain
    obtain ⟨⟨controls, few⟩, oneLine⟩ := plain
    exact spelling_literal controls (by simpa using oneLine) few
  split
  · exact spelling_longBasic s
  split
  · rename_i plain
    simp only [Bool.and_eq_true, Bool.not_eq_true', decide_eq_true_eq] at plain
    exact spelling_longLiteral plain.1 plain.2
  split
  · exact spelling_longBasic s
  · exact spelling_basic s

end Writing

/-- What is written of a text is read as the text, whatever else comes behind it than a quote. -/
theorem read_encode (s rest : List Char)
    (ends : ∀ style : Style, rest.head? ≠ some style.quote) :
    read (encode s ++ rest) = some (s, rest) :=
  read_spelling (spelling_encode s) ends

end Text

end Toml

end AccessRules
