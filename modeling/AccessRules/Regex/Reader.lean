import AccessRules.Regex.Expression

/-!
How expressions are written. Flags hold for a part of the text; comments, and blanks if a flag says
so, may stand between parts. A group has a number and may have a name; numbers and names are not
mixed in references. Groups lie in each other to a fixed depth.
-/

namespace AccessRules

namespace Expression

/-- What holds for a part of a text: the flags of regular expressions, and that blanks and the rest
of a line after a number sign are skipped. -/
structure Mode where
  flags : Regular.Flags
  spacious : Bool

namespace Mode

def plain : Mode := ⟨.none, false⟩

def set? (mode : Mode) (value : Bool) (letter : Char) : Option Mode :=
  if letter = 'x' then some { mode with spacious := value }
  else (mode.flags.set? value letter).map fun flags => { mode with flags := flags }

end Mode

inductive Gap where
  | blank
  | line
  | comment

/-- Skips comments, and blanks and the rests of lines where the mode is spacious. A comment that is
not closed is refused. -/
def skipped? (spacious : Bool) : Gap → List Char → Option (List Char)
  | .blank, '(' :: '?' :: '#' :: rest => skipped? spacious .comment rest
  | .blank, c :: rest =>
    if spacious && c == '#' then skipped? spacious .line rest
    else if spacious && (c == ' ' || c == '\t' || c == '\n' || c == '\r') then
      skipped? spacious .blank rest
    else some (c :: rest)
  | .line, c :: rest => skipped? spacious (if c = '\n' then .blank else .line) rest
  | .comment, ')' :: rest => skipped? spacious .blank rest
  | .comment, '\\' :: _ :: rest => skipped? spacious .comment rest
  | .comment, _ :: rest => skipped? spacious .comment rest
  | .comment, [] => none
  | _, [] => some []

structure Scan where
  mode : Mode
  groups : Nat
  names : List (List Char × Nat)
  numbered : Bool
  referenced : List Nat
  rest : List Char

namespace Scan

def skip? (scan : Scan) : Option Scan :=
  (skipped? scan.mode.spacious .blank scan.rest).map fun rest => { scan with rest := rest }

def past (scan : Scan) (rest : List Char) : Scan := { scan with rest := rest }

def close? (scan : Scan) : Option Scan :=
  scan.skip?.bind fun scan =>
    match scan.rest with
    | ')' :: rest => some (scan.past rest)
    | _ => none

end Scan

def numberBound : Nat := Nat.pow 2 64

def number? (s : List Char) : Option (Nat × List Char) :=
  (Regular.number? s).bind fun (n, rest) => if n < numberBound then some (n, rest) else none

/-- An upper count, if there is one. The last number stands for none. -/
def upperCount (s : List Char) : Option Nat × List Char :=
  match number? s with
  | some (n, rest) => (if n + 1 = numberBound then none else some n, rest)
  | none => (none, s)

/-- A count after its opening brace. What is not a count is taken literally by the caller. -/
def count? (spacious : Bool) (s : List Char) : Option ((Nat × Option Nat) × List Char) := do
  let s ← skipped? spacious .blank s
  let (least, s) ← match s with
    | ',' :: _ => some (0, s)
    | s => number? s
  let s ← skipped? spacious .blank s
  let (most, s) ← match s with
    | '\x7d' :: _ => some (some least, s)
    | ',' :: rest => (skipped? spacious .blank rest).map upperCount
    | _ => none
  let s ← skipped? spacious .blank s
  match s with
  | '\x7d' :: rest => return ((least, most), rest)
  | _ => none

def repetition? (spacious : Bool) (s : List Char) : Option ((Nat × Option Nat) × List Char) :=
  match s with
  | '?' :: rest => some ((0, some 1), rest)
  | '*' :: rest => some ((0, none), rest)
  | '+' :: rest => some ((1, none), rest)
  | '\x7b' :: rest => count? spacious rest
  | _ => none

/-- A part with its repetition, which a question mark makes prefer fewer turns and a plus sign
after that commits to its preferred match. -/
def repeated? (scan : Scan) (inner : Expression) : Option (Expression × Scan) := do
  let scan ← scan.skip?
  match repetition? scan.mode.spacious scan.rest with
  | none => return (inner, scan)
  | some ((least, most), rest) =>
    if !inner.isRepeatable then none
    else
      let rest ← skipped? scan.mode.spacious .blank rest
      let (preference, rest) := match rest with
        | '?' :: rest => (Preference.fewer, rest)
        | rest => (Preference.more, rest)
      let preference := if scan.mode.flags.swapped then preference.swapped else preference
      let times := Expression.times inner least most preference
      match rest with
      | '+' :: rest => return (.atomic times, scan.past rest)
      | rest => return (times, scan.past rest)

def isNameChar (c : Char) : Bool := isAlphanumeric c || c == '_'

def name? (close : Char) (s : List Char) : Option (List Char × List Char) :=
  match s.takeWhile isNameChar, s.dropWhile isNameChar with
  | [], _ => none
  | name, c :: rest => if c = close then some (name, rest) else none
  | _, [] => none

def named? (names : List (List Char × Nat)) (name : List Char) : Option Nat :=
  match names.find? fun entry => entry.1 == name with
  | some (_, number) => some number
  | none =>
    match number? name with
    | some (number, []) => some number
    | _ => none

def referenceByName? (scan : Scan) (close : Char) (s : List Char) : Option (Nat × Scan) :=
  (name? close s).bind fun (name, rest) =>
    (named? scan.names name).map fun number => (number, scan.past rest)

/-- A reference by number, which is less than half of the size of the whole text. -/
def referenceByNumber? (size : Nat) (scan : Scan) (s : List Char) : Option (Nat × Scan) :=
  (number? s).bind fun (number, rest) =>
    if number < size / 2 then some (number, { scan with numbered := true, rest := rest }) else none

/-- A character by its number: two digits, or up to eight in braces. -/
def charByNumber? (width : Nat) (s : List Char) : Option (Char × List Char) :=
  let ofDigits (digits rest : List Char) : Option (Char × List Char) :=
    (Hex.number? digits).bind fun n =>
      if n < 0xd800 ∨ (0xe000 ≤ n ∧ n ≤ 0x10ffff) then some (Char.ofNat n, rest) else none
  match s with
  | '\x7b' :: more =>
    match more.takeWhile (· != '\x7d'), more.dropWhile (· != '\x7d') with
    | [], _ => none
    | digits, _ :: rest => if digits.length ≤ 8 then ofDigits digits rest else none
    | _, [] => none
  | s => if (s.take width).length = width then ofDigits (s.take width) (s.drop width) else none

inductive Escape where
  | char (c : Char) (caseless : Bool)
  /-- A part that regular expressions know too. -/
  | regular (text : List Char) (size : Nat)
  | reference (number : Nat)
  | beginning
  | searchStart

def propertyText? (s : List Char) : Option (List Char × List Char) :=
  match s with
  | '\x7b' :: rest =>
    match rest.dropWhile (· != '\x7d') with
    | _ :: after => some ('\x7b' :: rest.takeWhile (· != '\x7d') ++ ['\x7d'], after)
    | [] => none
  | c :: rest => some ([c], rest)
  | [] => none

def charOfLetter? (letter : Char) : Option Char :=
  match letter with
  | 'a' => some '\x07'
  | 'e' => some '\x1b'
  | 'f' => some '\x0c'
  | 'n' => some '\n'
  | 'r' => some '\r'
  | 't' => some '\t'
  | 'v' => some '\x0b'
  | _ => none

def escape? (size : Nat) (bracketed : Bool) (scan : Scan) (s : List Char) :
    Option (Escape × Scan) :=
  match s with
  | [] => none
  | c :: rest =>
    let regular (text : List Char) (size : Nat) (rest : List Char) : Option (Escape × Scan) :=
      some (.regular text size, scan.past rest)
    let byNumber (width : Nat) : Option (Escape × Scan) :=
      (charByNumber? width rest).map fun (c, rest) =>
        (.char c scan.mode.flags.caseless, scan.past rest)
    if c.isDigit then
      (referenceByNumber? size scan s).map fun (number, scan) => (.reference number, scan)
    else if c = 'k' ∧ !bracketed then
      let found := match rest with
        | '\'' :: rest => referenceByName? scan '\'' rest
        | '<' :: rest => referenceByName? scan '>' rest
        | _ => none
      found.map fun (number, scan) => (.reference number, scan)
    else if (c = 'A' ∨ c = 'z' ∨ c = 'b' ∨ c = 'B') ∧ !bracketed then regular ['\\', c] 0 rest
    else if c = 'b' then some (.char '\x08' false, scan.past rest)
    else if "dDsSwW".toList.contains c then regular ['\\', c] 1 rest
    else if c = 'h' then regular "[0-9A-Fa-f]".toList 1 rest
    else if c = 'H' then regular "[^0-9A-Fa-f]".toList 1 rest
    else if c = 'x' then byNumber 2
    else if c = 'u' then byNumber 4
    else if c = 'U' then byNumber 8
    else if c = 'p' ∨ c = 'P' then
      (propertyText? rest).bind fun (name, rest) => regular ('\\' :: c :: name) 1 rest
    else if c = 'K' ∧ !bracketed then some (.beginning, scan.past rest)
    else if c = 'G' ∧ !bracketed then some (.searchStart, scan.past rest)
    else
      match charOfLetter? c with
      | some found => some (.char found false, scan.past rest)
      | none =>
        if c.isAlpha then none
        else if ' ' ≤ c ∧ c ≤ '\x7f' then some (.char c false, scan.past rest)
        else regular ['\\', c] 1 rest

def isBracketMark (c : Char) : Bool := isMark c || c == '&' || c == '-' || c == '~'

/-- The text of a bracket after its opening, given how many brackets are open. Escapes are written
as regular expressions know them. -/
def bracketText? (size : Nat) : Nat → Nat → Scan → Option (List Char × Scan)
  | 0, _, _ => none
  | fuel + 1, opened, scan =>
    let goOn (text : List Char) (opened : Nat) (scan : Scan) : Option (List Char × Scan) :=
      (bracketText? size fuel opened scan).map fun (others, scan) => (text ++ others, scan)
    match scan.rest with
    | [] => none
    | '\\' :: rest =>
      (escape? size true scan rest).bind fun (escape, scan) =>
        match escape with
        | .char c _ => goOn (if isBracketMark c then ['\\', c] else [c]) opened scan
        | .regular text _ => goOn text opened scan
        | _ => none
    | '[' :: rest => goOn ['['] (opened + 1) (scan.past rest)
    | ']' :: rest =>
      if opened ≤ 1 then some ([']'], scan.past rest) else goOn [']'] (opened - 1) (scan.past rest)
    | c :: rest => goOn [c] opened (scan.past rest)

/-- A bracket after its opening. A closing bracket that stands first is a member. -/
def bracket? (size : Nat) (scan : Scan) : Option (Expression × Scan) :=
  let (first, rest) := match scan.rest with
    | '^' :: ']' :: rest => (['[', '^', ']'], rest)
    | '^' :: rest => (['[', '^'], rest)
    | ']' :: rest => (['[', ']'], rest)
    | rest => (['['], rest)
  (bracketText? size (rest.length + 1) 1 (scan.past rest)).map fun (text, scan) =>
    (.regular (first ++ text) 1 scan.mode.flags.caseless, scan)

/-- Flags after a question mark, until a closing parenthesis ends them or a colon opens a part.
Tells whether a part follows. -/
def flags? : Nat → Bool → Bool → Scan → Option (Bool × Scan)
  | 0, _, _, _ => none
  | fuel + 1, value, bare, scan =>
    scan.skip?.bind fun scan =>
      match scan.rest with
      | [] => none
      | '-' :: rest => if value then flags? fuel false bare (scan.past rest) else none
      | ')' :: rest => if bare then none else some (false, scan.past rest)
      | ':' :: rest => if bare && !value then none else some (true, scan.past rest)
      | c :: rest =>
        (scan.mode.set? value c).bind fun mode =>
          flags? fuel value false { scan with mode := mode, rest := rest }

def depthLimit : Nat := 63

inductive Opening where
  | look (behind negated : Bool)
  | atomic
  | numbered
  | named (name : List Char)
  | reference
  | condition
  | flags

def opening? (s : List Char) : Option (Opening × List Char) :=
  match s with
  | '?' :: '=' :: rest => some (.look false false, rest)
  | '?' :: '!' :: rest => some (.look false true, rest)
  | '?' :: '<' :: '=' :: rest => some (.look true false, rest)
  | '?' :: '<' :: '!' :: rest => some (.look true true, rest)
  | '?' :: '<' :: rest => (name? '>' rest).map fun (name, rest) => (.named name, rest)
  | '?' :: 'P' :: '<' :: rest => (name? '>' rest).map fun (name, rest) => (.named name, rest)
  | '?' :: 'P' :: '=' :: rest => some (.reference, rest)
  | '?' :: '>' :: rest => some (.atomic, rest)
  | '?' :: '(' :: rest => some (.condition, rest)
  | '?' :: rest => some (.flags, rest)
  | s => some (.numbered, s)

/-- The choice between branches by a condition. A condition that refers to a group asks whether it
was entered. -/
def choice (condition branches : Expression) : Expression :=
  let condition := match condition with
    | .reference number => .entered number
    | condition => condition
  let (yes, no) := match branches with
    | .alternatives [yes, no] => (yes, no)
    | .alternatives (yes :: others) => (yes, .alternatives others)
    | yes => (yes, .empty)
  if yes.isEmpty && no.isEmpty then condition else .conditional condition yes no

mutual

/-- Alternatives up to a closing parenthesis or the end. References by number are refused where
groups have names. -/
def alternatives? (size : Nat) : Nat → Nat → Scan → Option (Expression × Scan)
  | 0, _, _ => none
  | fuel + 1, depth, scan => do
    let (first, scan) ← branch? size fuel depth scan
    let scan ← scan.skip?
    match scan.rest with
    | '|' :: _ =>
      let (others, scan) ← branches? size fuel depth scan
      return (.alternatives (first :: others), scan)
    | _ => if scan.numbered && !scan.names.isEmpty then none else return (first, scan)

def branches? (size : Nat) : Nat → Nat → Scan → Option (List Expression × Scan)
  | 0, _, _ => none
  | fuel + 1, depth, scan =>
    match scan.rest with
    | '|' :: rest => do
      let (first, scan) ← branch? size fuel depth (scan.past rest)
      let scan ← scan.skip?
      let (others, scan) ← branches? size fuel depth scan
      return (first :: others, scan)
    | _ => some ([], scan)

def branch? (size : Nat) : Nat → Nat → Scan → Option (Expression × Scan)
  | 0, _, _ => none
  | fuel + 1, depth, scan =>
    (parts? size fuel depth scan).map fun (parts, scan) =>
      (ofParts (parts.filter fun part => !part.isEmpty), scan)

/-- Parts one after the other, until one takes nothing. -/
def parts? (size : Nat) : Nat → Nat → Scan → Option (List Expression × Scan)
  | 0, _, _ => none
  | fuel + 1, depth, scan =>
    if scan.rest.isEmpty then some ([], scan)
    else do
      let (atom, after) ← atom? size fuel depth scan
      let (part, after) ← repeated? after atom
      if after.rest.length = scan.rest.length then return ([], scan)
      else
        let (others, scan) ← parts? size fuel depth after
        return (part :: others, scan)

def atom? (size : Nat) : Nat → Nat → Scan → Option (Expression × Scan)
  | 0, _, _ => none
  | fuel + 1, depth, scan =>
    scan.skip?.bind fun scan =>
      let flags := scan.mode.flags
      match scan.rest with
      | [] => some (.empty, scan)
      | '.' :: rest => some (.any flags.dotAll, scan.past rest)
      | '^' :: rest => some (.edge (if flags.lines then .lineStart else .textStart), scan.past rest)
      | '$' :: rest => some (.edge (if flags.lines then .lineEnd else .textEnd), scan.past rest)
      | '(' :: rest =>
        if depth < depthLimit then group? size fuel (depth + 1) (scan.past rest) else none
      | '[' :: rest => bracket? size (scan.past rest)
      | '\\' :: rest =>
        (escape? size false scan rest).map fun (escape, scan) =>
          match escape with
          | .char c caseless => (.literal c caseless, scan)
          | .regular text size => (.regular text size flags.caseless, scan)
          | .reference number =>
            (.reference number, { scan with referenced := number :: scan.referenced })
          | .beginning => (.beginning, scan)
          | .searchStart => (.searchStart, scan)
      | c :: rest =>
        if c = '+' ∨ c = '*' ∨ c = '?' ∨ c = '|' ∨ c = ')' then some (.empty, scan)
        else some (.literal c flags.caseless, scan.past rest)

/-- A group after its opening parenthesis. Flags that are set in it hold on after it, unless it
began with flags and a colon. -/
def group? (size : Nat) : Nat → Nat → Scan → Option (Expression × Scan)
  | 0, _, _ => none
  | fuel + 1, depth, scan => do
    let scan ← scan.skip?
    let (opening, rest) ← opening? scan.rest
    let scan := scan.past rest
    let inside (scan : Scan) (make : Expression → Expression) : Option (Expression × Scan) :=
      (alternatives? size fuel depth scan).bind fun (inner, scan) =>
        scan.close?.map fun scan => (make inner, scan)
    let number := scan.groups + 1
    match opening with
    | .look behind negated => inside scan (.around behind negated)
    | .atomic => inside scan .atomic
    | .numbered => inside { scan with groups := number } (.group number)
    | .named name =>
      inside { scan with groups := number, names := (name, number) :: scan.names } (.group number)
    | .reference =>
      (referenceByName? scan ')' scan.rest).map fun (number, scan) => (.reference number, scan)
    | .condition => conditional? size fuel depth scan
    | .flags =>
      let mode := scan.mode
      let (opens, scan) ← flags? (scan.rest.length + 1) true true scan
      if opens then
        (inside scan id).map fun (inner, scan) => (inner, { scan with mode := mode })
      else return (.empty, scan)

/-- A conditional after the opening parenthesis of its condition. Without branches, it asks whether
a group was entered. -/
def conditional? (size : Nat) : Nat → Nat → Scan → Option (Expression × Scan)
  | 0, _, _ => none
  | fuel + 1, depth, scan => do
    let toReference (found : Option (Nat × Scan)) : Option (Expression × Scan) :=
      found.map fun (number, scan) => (.reference number, scan)
    let (condition, scan) ← match scan.rest with
      | [] => none
      | '\'' :: rest => toReference (referenceByName? scan '\'' rest)
      | '<' :: rest => toReference (referenceByName? scan '>' rest)
      | c :: _ =>
        if c.isDigit then toReference (referenceByNumber? size scan scan.rest)
        else alternatives? size fuel depth scan
    let scan ← scan.close?
    let (branches, after) ← alternatives? size fuel depth scan
    let closed ← after.close?
    if after.rest.length = scan.rest.length then
      match condition with
      | .reference number => return (.entered number, closed)
      | _ => none
    else return (choice condition branches, closed)

end

structure Reading where
  expression : Expression
  referenced : List Nat

def ofText? (s : List Char) : Option Reading :=
  let size := s.foldl (fun size c => size + c.utf8Size) 0
  match alternatives? size (7 * s.length + 7) 0 ⟨.plain, 0, [], false, [], s⟩ with
  | some (expression, scan) =>
    if scan.rest.isEmpty then some ⟨expression, scan.referenced⟩ else none
  | none => none

end Expression

end AccessRules
