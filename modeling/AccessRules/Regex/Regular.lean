import AccessRules.Regex.Bracket

/-!
Regular expressions whose matches need no memory of what was matched before: sets of characters,
alternatives, repetition, groups and looks at the place between two characters. Their texts are read
here, with flags for a part of the text, and refused if they are nested too deeply.
-/

namespace AccessRules

inductive Look where
  | textStart
  | textEnd
  | lineStart
  | lineEnd
  | wordEdge
  | noWordEdge
deriving DecidableEq

namespace Look

def isWordAt (text : Array Char) (i : Nat) : Bool :=
  match text[i]? with
  | some c => CharClass.isWord c
  | none => false

def isWordEdge (text : Array Char) (i : Nat) : Bool :=
  (i != 0 && isWordAt text (i - 1)) != isWordAt text i

def holds (look : Look) (text : Array Char) (i : Nat) : Bool :=
  match look with
  | .textStart => i == 0
  | .textEnd => i == text.size
  | .lineStart => i == 0 || text[i - 1]? == some '\n'
  | .lineEnd => i == text.size || text[i]? == some '\n'
  | .wordEdge => isWordEdge text i
  | .noWordEdge => !isWordEdge text i

end Look

inductive Preference where
  | more
  | fewer
deriving DecidableEq

def Preference.swapped : Preference → Preference
  | .more => .fewer
  | .fewer => .more

inductive Regular where
  | empty
  | chars (cls : CharClass)
  | look (look : Look)
  | sequence (first second : Regular)
  | either (first second : Regular)
  | times (inner : Regular) (least : Nat) (most : Option Nat) (preference : Preference)
  | group (number : Nat) (inner : Regular)

namespace Regular

def isNullable : Regular → Bool
  | .empty | .look _ => true
  | .chars _ => false
  | .sequence first second => first.isNullable && second.isNullable
  | .either first second => first.isNullable || second.isNullable
  | .times inner least _ _ => least == 0 || inner.isNullable
  | .group _ inner => inner.isNullable

/-- What holds for a part of a text: case makes no difference, `^` and `$` also stand at the ends of
lines, the dot takes in line feeds, repetitions prefer the other way round. -/
structure Flags where
  caseless : Bool
  lines : Bool
  dotAll : Bool
  swapped : Bool
deriving DecidableEq

namespace Flags

def none : Flags := ⟨false, false, false, false⟩

def set? (flags : Flags) (value : Bool) (letter : Char) : Option Flags :=
  match letter with
  | 'i' => some { flags with caseless := value }
  | 'm' => some { flags with lines := value }
  | 's' => some { flags with dotAll := value }
  | 'U' => some { flags with swapped := value }
  | 'u' => if value then some flags else Option.none
  | _ => Option.none

def read? (flags : Flags) (value : Bool) : List Char → Option Flags
  | [] => some flags
  | '-' :: letter :: rest =>
    if value then (flags.set? false letter).bind fun flags => read? flags false rest
    else Option.none
  | letter :: rest => (flags.set? value letter).bind fun flags => read? flags value rest

end Flags

def number? (s : List Char) : Option (Nat × List Char) :=
  match s.takeWhile Char.isDigit with
  | [] => none
  | ds => some (ds.foldl (fun n d => n * 10 + (d.toNat - '0'.toNat)) 0, s.dropWhile Char.isDigit)

def countBound : Nat := Nat.pow 2 32

def count? (s : List Char) : Option ((Nat × Option Nat) × List Char) :=
  let checked (least : Nat) (most : Option Nat) (rest : List Char) :
      Option ((Nat × Option Nat) × List Char) :=
    if least < countBound ∧ most.getD least < countBound ∧ least ≤ most.getD least then
      some ((least, most), rest)
    else none
  let upper (least : Nat) (s : List Char) : Option ((Nat × Option Nat) × List Char) :=
    match s with
    | '\x7d' :: rest => checked least none rest
    | s =>
      match number? s with
      | some (most, '\x7d' :: rest) => checked least (some most) rest
      | _ => none
  match s with
  | ',' :: rest => upper 0 rest
  | s =>
    match number? s with
    | some (n, '\x7d' :: rest) => checked n (some n) rest
    | some (n, ',' :: rest) => upper n rest
    | _ => none

def repetition? (s : List Char) : Option ((Nat × Option Nat) × List Char) :=
  match s with
  | '*' :: rest => some ((0, none), rest)
  | '+' :: rest => some ((1, none), rest)
  | '?' :: rest => some ((0, some 1), rest)
  | '\x7b' :: rest => count? rest
  | _ => none

/-- A part that is read: the expression, how deep its parts lie in each other, and whether it may be
repeated. -/
structure Part where
  regular : Regular
  depth : Nat
  isRepeatable : Bool

namespace Part

def empty : Part := ⟨.empty, 0, false⟩

def atom (regular : Regular) : Part := ⟨regular, 0, true⟩

def listed (combine : Regular → Regular → Regular) : List Part → Part
  | [] => empty
  | [part] => part
  | part :: rest =>
    ⟨rest.foldl (fun regular part => combine regular part.regular) part.regular,
      (rest.foldl (fun depth part => max depth part.depth) part.depth) + 1, true⟩

end Part

structure Scan where
  flags : Flags
  nextGroup : Nat
  rest : List Char

def repeated? (swapped : Bool) : Nat → Part → List Char → Option (Part × List Char)
  | 0, _, _ => none
  | fuel + 1, part, s =>
    match s with
    | c :: _ =>
      if c = '*' ∨ c = '+' ∨ c = '?' ∨ c = '\x7b' then
        if !part.isRepeatable then none
        else do
          let ((least, most), rest) ← repetition? s
          let (preference, rest) := match rest with
            | '?' :: rest => (Preference.fewer, rest)
            | rest => (Preference.more, rest)
          let preference := if swapped then preference.swapped else preference
          repeated? swapped fuel
            ⟨.times part.regular least most preference, part.depth + 1, true⟩ rest
      else some (part, s)
    | [] => some (part, s)

def escaped? (flags : Flags) (s : List Char) : Option (Part × List Char) :=
  match s with
  | 'A' :: rest => some (.atom (.look .textStart), rest)
  | 'z' :: rest => some (.atom (.look .textEnd), rest)
  | 'b' :: rest => some (.atom (.look .wordEdge), rest)
  | 'B' :: rest => some (.atom (.look .noWordEdge), rest)
  | s =>
    (CharClass.escape? flags.caseless s).map fun (found, rest) =>
      match found with
      | .char c => (.atom (.chars (CharClass.caselessIf flags.caseless (.single c))), rest)
      | .set cls => (.atom (.chars cls), rest)

def plain (flags : Flags) (c : Char) : Regular :=
  match c with
  | '^' => .look (if flags.lines then .lineStart else .textStart)
  | '$' => .look (if flags.lines then .lineEnd else .textEnd)
  | '.' => .chars (if flags.dotAll then .anything else .notLineFeed)
  | c => .chars (CharClass.caselessIf flags.caseless (.single c))

mutual

def alternatives? : Nat → Scan → Option (List Part × Scan)
  | 0, _ => none
  | fuel + 1, scan => do
    let (parts, scan) ← parts? fuel scan
    let first := Part.listed .sequence parts
    match scan.rest with
    | '|' :: rest =>
      let (others, scan) ← alternatives? fuel { scan with rest := rest }
      return (first :: others, scan)
    | _ => return ([first], scan)

/-- Parts one after the other. Flags hold from where they are set to the end of the group. -/
def parts? : Nat → Scan → Option (List Part × Scan)
  | 0, _ => none
  | fuel + 1, scan =>
    match scan.rest with
    | [] => some ([], scan)
    | '|' :: _ => some ([], scan)
    | ')' :: _ => some ([], scan)
    | s => do
      let (part, scan) ← part? fuel scan
      let (part, rest) ← repeated? scan.flags.swapped (s.length + 1) part scan.rest
      let (others, scan) ← parts? fuel { scan with rest := rest }
      return (part :: others, scan)

def part? : Nat → Scan → Option (Part × Scan)
  | 0, _ => none
  | fuel + 1, scan =>
    let atFront (found : Part × List Char) : Part × Scan :=
      (found.1, { scan with rest := found.2 })
    match scan.rest with
    | [] => none
    | '[' :: rest =>
      (CharClass.ofBracket? scan.flags.caseless rest).map fun ((cls, depth), rest) =>
        atFront (⟨.chars cls, depth, true⟩, rest)
    | '\\' :: rest => (escaped? scan.flags rest).map atFront
    | '(' :: '?' :: rest =>
      let letters := rest.takeWhile fun c => c != ':' && c != ')'
      (scan.flags.read? true letters).bind fun flags =>
        match rest.drop letters.length with
        | ':' :: rest => group? fuel none { scan with flags := flags, rest := rest } scan.flags
        | ')' :: rest =>
          if letters.isEmpty then none
          else some (Part.empty, { scan with flags := flags, rest := rest })
        | _ => none
    | '(' :: rest =>
      group? fuel (some scan.nextGroup)
        { scan with nextGroup := scan.nextGroup + 1, rest := rest } scan.flags
    | c :: rest =>
      if c = '*' ∨ c = '+' ∨ c = '?' ∨ c = '\x7b' then none
      else some (atFront (.atom (plain scan.flags c), rest))

/-- A group after its opening, with the number that it is counted under, up to its closing
parenthesis. The flags around it hold again after it. -/
def group? : Nat → Option Nat → Scan → Flags → Option (Part × Scan)
  | 0, _, _, _ => none
  | fuel + 1, number, scan, outside => do
    let (branches, scan) ← alternatives? fuel scan
    let inner := Part.listed .either branches
    match scan.rest with
    | ')' :: rest =>
      let regular := match number with
        | some number => .group number inner.regular
        | none => inner.regular
      return (⟨regular, inner.depth + 1, true⟩, { scan with flags := outside, rest := rest })
    | _ => none

end

/-- How deep the parts of an expression may lie in each other. -/
def depthLimit : Nat := 250

/-- The expression that a text spells, its groups counted from zero. -/
def ofText? (s : List Char) : Option Regular :=
  match alternatives? (4 * s.length + 4) ⟨.none, 0, s⟩ with
  | some (branches, ⟨_, _, []⟩) =>
    let part := Part.listed .either branches
    if part.depth ≤ depthLimit then some part.regular else none
  | _ => none

end Regular

end AccessRules
