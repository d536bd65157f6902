import AccessRules.Text.Basic

/-!
The four spellings of strings in TOML: basic and literal ones, on one line or on several. A basic
string has escapes, a literal one has none. `encode` chooses the plainest spelling that a text
allows, and the `read` functions undo every spelling.
-/

namespace AccessRules

namespace Toml

namespace Text

def scalar? (n : Nat) : Option Char :=
  if n.isValidChar then some (Char.ofNat n) else none

def isForbidden (c : Char) : Bool :=
  (decide (c.toNat < 32) && c != '\t') || c.toNat == 127

def shortEscape? (c : Char) : Option Char :=
  match c with
  | 'b' => some '\x08'
  | 'e' => some '\x1b'
  | 't' => some '\t'
  | 'n' => some '\n'
  | 'f' => some '\x0c'
  | 'r' => some '\r'
  | '"' => some '"'
  | '\\' => some '\\'
  | _ => none

abbrev Found := Option (List Char × List Char)

def cons (c : Char) (found : Found) : Found :=
  found.map fun (s, rest) => (c :: s, rest)

def consScalar (digits : List Char) (found : Found) : Found :=
  match (Hex.number? digits).bind scalar? with
  | some c => cons c found
  | none => none

def readBasic : List Char → Found
  | [] => none
  | '"' :: rest => some ([], rest)
  | '\\' :: 'x' :: a :: b :: rest => consScalar [a, b] (readBasic rest)
  | '\\' :: 'u' :: a :: b :: c :: d :: rest => consScalar [a, b, c, d] (readBasic rest)
  | '\\' :: 'U' :: a :: b :: c :: d :: e :: f :: g :: h :: rest =>
    consScalar [a, b, c, d, e, f, g, h] (readBasic rest)
  | '\\' :: e :: rest =>
    match shortEscape? e with
    | some c => cons c (readBasic rest)
    | none => none
  | c :: rest => if isForbidden c || c = '\\' then none else cons c (readBasic rest)

def readLiteral : List Char → Found
  | [] => none
  | '\'' :: rest => some ([], rest)
  | c :: rest => if isForbidden c then none else cons c (readLiteral rest)

def isInlineBlank (c : Char) : Bool := c = ' ' || c = '\t'

def lineEnd? (s : List Char) : Option (List Char) :=
  match s.dropWhile isInlineBlank with
  | '\n' :: rest => some rest
  | '\r' :: '\n' :: rest => some rest
  | _ => none

/-- A basic string on several lines after its quotes. Ends of lines stay as they are. `skipping` is
on after a backslash at the end of a line, until the next character that is no blank. One or two
quotes may stand before the closing ones. -/
def readLongBasic (skipping : Bool) : List Char → Found
  | [] => none
  | '"' :: '"' :: '"' :: '"' :: '"' :: rest => some (['"', '"'], rest)
  | '"' :: '"' :: '"' :: '"' :: rest => some (['"'], rest)
  | '"' :: '"' :: '"' :: rest => some ([], rest)
  | '\\' :: 'x' :: a :: b :: rest => consScalar [a, b] (readLongBasic false rest)
  | '\\' :: 'u' :: a :: b :: c :: d :: rest =>
    consScalar [a, b, c, d] (readLongBasic false rest)
  | '\\' :: 'U' :: a :: b :: c :: d :: e :: f :: g :: h :: rest =>
    consScalar [a, b, c, d, e, f, g, h] (readLongBasic false rest)
  | '\\' :: e :: rest =>
    match shortEscape? e with
    | some c => cons c (readLongBasic false rest)
    | none => if (lineEnd? (e :: rest)).isSome then readLongBasic true (e :: rest) else none
  | '\r' :: '\n' :: rest =>
    if skipping then readLongBasic true rest
    else cons '\r' (cons '\n' (readLongBasic false rest))
  | '\n' :: rest =>
    if skipping then readLongBasic true rest else cons '\n' (readLongBasic false rest)
  | c :: rest =>
    if isForbidden c || c = '\\' then none
    else if skipping && isInlineBlank c then readLongBasic true rest
    else cons c (readLongBasic false rest)

def readLongLiteral : List Char → Found
  | [] => none
  | '\'' :: '\'' :: '\'' :: '\'' :: '\'' :: rest => some (['\'', '\''], rest)
  | '\'' :: '\'' :: '\'' :: '\'' :: rest => some (['\''], rest)
  | '\'' :: '\'' :: '\'' :: rest => some ([], rest)
  | '\r' :: '\n' :: rest => cons '\r' (cons '\n' (readLongLiteral rest))
  | '\n' :: rest => cons '\n' (readLongLiteral rest)
  | c :: rest => if isForbidden c then none else cons c (readLongLiteral rest)

/-- The end of a line directly after the opening quotes does not belong to the string. -/
def skipFirstLineEnd : List Char → List Char
  | '\n' :: rest => rest
  | '\r' :: '\n' :: rest => rest
  | s => s

def read (s : List Char) : Found :=
  match s with
  | '"' :: '"' :: '"' :: rest => readLongBasic false (skipFirstLineEnd rest)
  | '\'' :: '\'' :: '\'' :: rest => readLongLiteral (skipFirstLineEnd rest)
  | '"' :: rest => readBasic rest
  | '\'' :: rest => readLiteral rest
  | _ => none

def longestRun (c : Char) (s : List Char) : Nat :=
  let step (state : Nat × Nat) (d : Char) : Nat × Nat :=
    let run := if d = c then state.1 + 1 else 0
    (run, max state.2 run)
  (s.foldl step (0, 0)).2

/-- A control that a string can hold only through an escape. -/
def needsEscape (c : Char) : Bool :=
  isForbidden c && c != '\n'

def escapeChar (long : Bool) (c : Char) : List Char :=
  match c with
  | '\x08' => ['\\', 'b']
  | '\t' => ['\\', 't']
  | '\n' => if long then ['\n'] else ['\\', 'n']
  | '\x0c' => ['\\', 'f']
  | '\r' => ['\\', 'r']
  | '\\' => ['\\', '\\']
  | c =>
    if needsEscape c then
      ['\\', 'u', '0', '0', Hex.upper (c.toNat / 16), Hex.upper (c.toNat % 16)]
    else [c]

/-- The inside of a basic string. At most `quotes` quotes stand side by side without an escape. -/
def escaped (long : Bool) (quotes : Nat) (before : Nat) : List Char → List Char
  | [] => []
  | '"' :: rest =>
    if before < quotes then '"' :: escaped long quotes (before + 1) rest
    else '\\' :: '"' :: escaped long quotes 0 rest
  | c :: rest => escapeChar long c ++ escaped long quotes 0 rest

def basic (s : List Char) : List Char :=
  '"' :: (escaped false 0 0 s ++ ['"'])

def literal (s : List Char) : List Char :=
  '\'' :: (s ++ ['\''])

/-- What is between the long opening quotes and the text: a text of several lines begins on a line
of its own. -/
def opening (s : List Char) : List Char :=
  if s.contains '\n' then ['\n'] else []

def longBasic (s : List Char) : List Char :=
  ['"', '"', '"'] ++ opening s ++ escaped true 2 0 s ++ ['"', '"', '"']

def longLiteral (s : List Char) : List Char :=
  ['\'', '\'', '\''] ++ opening s ++ s ++ ['\'', '\'', '\'']

/-- The plainest spelling: basic if nothing needs an escape, then literal, each first between short
quotes and then between long ones, and a basic string with escapes in all other cases. -/
def encode (s : List Char) : List Char :=
  let controls := s.any needsEscape
  let backslash := s.contains '\\'
  let newline := s.contains '\n'
  let quotes := longestRun '"' s
  let apostrophes := longestRun '\'' s
  if !controls && !backslash && quotes = 0 && !newline then basic s
  else if !controls && apostrophes = 0 && !newline then literal s
  else if !controls && !backslash && decide (quotes ≤ 2) then longBasic s
  else if !controls && decide (apostrophes ≤ 2) then longLiteral s
  else if newline then longBasic s
  else basic s

end Text

end Toml

end AccessRules
