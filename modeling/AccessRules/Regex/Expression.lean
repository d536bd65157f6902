import AccessRules.Regex.Regular

/-!
Expressions beyond the regular ones: looks ahead and behind, references to what a group matched,
parts that are matched once and for all, and choices that depend on a condition. Each has a least
size, and some match texts of one size only. A part without such features is spelled as a regular
expression.
-/

namespace AccessRules

inductive Expression where
  | empty
  /-- Any character, with or without the line feed. -/
  | any (withLineFeed : Bool)
  | literal (c : Char) (caseless : Bool)
  | edge (look : Look)
  /-- The text of a regular expression whose matches have one size. -/
  | regular (text : List Char) (size : Nat) (caseless : Bool)
  | sequence (parts : List Expression)
  | alternatives (branches : List Expression)
  | times (inner : Expression) (least : Nat) (most : Option Nat) (preference : Preference)
  | group (number : Nat) (inner : Expression)
  /-- A match that begins, or ends, at the place and does not take it further. -/
  | around (behind negated : Bool) (inner : Expression)
  | reference (number : Nat)
  /-- The preferred match of the inner expression and no other. -/
  | atomic (inner : Expression)
  | beginning
  /-- The search began here. -/
  | searchStart
  | entered (number : Nat)
  | conditional (condition yes no : Expression)

namespace Expression

def isEmpty : Expression → Bool
  | .empty => true
  | _ => false

def ofParts : List Expression → Expression
  | [] => .empty
  | [part] => part
  | parts => .sequence parts

/-- An edge of the text or a line, a look around and nothing at all are not repeated. -/
def isRepeatable : Expression → Bool
  | .empty | .edge _ | .around _ _ _ => false
  | _ => true

mutual

def leastSize : Expression → Nat
  | .any _ | .literal _ _ => 1
  | .regular _ size _ => size
  | .sequence parts => (leastSizes parts).foldl (· + ·) 0
  | .alternatives branches => (leastSizes branches).min?.getD 0
  | .times inner least _ _ => inner.leastSize * least
  | .group _ inner | .atomic inner => inner.leastSize
  | .conditional condition yes no => condition.leastSize + min yes.leastSize no.leastSize
  | .empty | .edge _ | .around _ _ _ | .reference _ | .beginning | .searchStart | .entered _ => 0
termination_by structural x => x

def leastSizes : List Expression → List Nat
  | [] => []
  | part :: rest => part.leastSize :: leastSizes rest
termination_by structural x => x

end

def allEqual (sizes : List Nat) : Bool :=
  sizes.all fun size => decide (some size = sizes.head?)

mutual

def hasOneSize : Expression → Bool
  | .sequence parts => haveOneSize parts
  | .alternatives branches => haveOneSize branches && allEqual (leastSizes branches)
  | .times inner least most _ => inner.hasOneSize && decide (most = some least)
  | .group _ inner | .atomic inner => inner.hasOneSize
  | .conditional condition yes no =>
    condition.hasOneSize && yes.hasOneSize && no.hasOneSize &&
      condition.leastSize + yes.leastSize == no.leastSize
  | .reference _ => false
  | .empty | .any _ | .literal _ _ | .edge _ | .regular _ _ _ | .around _ _ _ | .beginning
  | .searchStart | .entered _ => true
termination_by structural x => x

def haveOneSize : List Expression → Bool
  | [] => true
  | part :: rest => part.hasOneSize && haveOneSize rest
termination_by structural x => x

end

mutual

/-- The expression is a regular one and holds none of the groups that are referred to. -/
def isPlain (referenced : List Nat) : Expression → Bool
  | .sequence parts => arePlain referenced parts
  | .alternatives branches => arePlain referenced branches
  | .times inner _ _ _ => inner.isPlain referenced
  | .group number inner => inner.isPlain referenced && !referenced.contains number
  | .empty | .any _ | .literal _ _ | .edge _ | .regular _ _ _ => true
  | .around _ _ _ | .reference _ | .atomic _ | .beginning | .searchStart | .entered _
  | .conditional _ _ _ => false
termination_by structural x => x

def arePlain (referenced : List Nat) : List Expression → Bool
  | [] => true
  | part :: rest => part.isPlain referenced && arePlain referenced rest
termination_by structural x => x

end

mutual

def groups : Expression → List Nat
  | .sequence parts => groupsOf parts
  | .alternatives branches => groupsOf branches
  | .times inner _ _ _ | .around _ _ inner | .atomic inner => inner.groups
  | .group number inner => number :: inner.groups
  | .conditional condition yes no => condition.groups ++ yes.groups ++ no.groups
  | .empty | .any _ | .literal _ _ | .edge _ | .regular _ _ _ | .reference _ | .beginning
  | .searchStart | .entered _ => []
termination_by structural x => x

def groupsOf : List Expression → List Nat
  | [] => []
  | part :: rest => part.groups ++ groupsOf rest
termination_by structural x => x

end

mutual

/-- Every reference comes after the opening of its group, given how many groups were opened before;
then tells how many there are after the expression. The whole match is group zero. -/
def opened? (before : Nat) : Expression → Option Nat
  | .sequence parts => openedBy? before parts
  | .alternatives branches => openedBy? before branches
  | .times inner _ _ _ | .around _ _ inner | .atomic inner => inner.opened? before
  | .group _ inner => inner.opened? (before + 1)
  | .reference number | .entered number => if number < before then some before else none
  | .conditional condition yes no => do
    let before ← condition.opened? before
    let before ← yes.opened? before
    no.opened? before
  | .empty | .any _ | .literal _ _ | .edge _ | .regular _ _ _ | .beginning | .searchStart =>
    some before
termination_by structural x => x

def openedBy? (before : Nat) : List Expression → Option Nat
  | [] => some before
  | part :: rest => (part.opened? before).bind fun before => openedBy? before rest
termination_by structural x => x

end

def isMark (c : Char) : Bool :=
  "\\.+*?()|[]\x7b\x7d^$#".toList.contains c

def quoted (c : Char) : List Char := if isMark c then ['\\', c] else [c]

/-- Puts an expression in a group that does not count. -/
def enclosed (flags : List Char) (text : List Char) : List Char :=
  ['(', '?'] ++ flags ++ [':'] ++ text ++ [')']

def enclosedIf (needed : Bool) (flags : List Char) (text : List Char) : List Char :=
  if needed then enclosed flags text else text

def spelledEdge : Look → List Char
  | .textStart => ['^']
  | .textEnd => ['$']
  | .lineStart => enclosed ['m'] ['^']
  | .lineEnd => enclosed ['m'] ['$']
  | .wordEdge => ['\\', 'b']
  | .noWordEdge => ['\\', 'B']

def spelledCount (least : Nat) (most : Option Nat) (preference : Preference) : List Char :=
  let count := match least, most with
    | 0, some 1 => ['?']
    | 0, none => ['*']
    | 1, none => ['+']
    | least, none => '\x7b' :: Nat.toDigits 10 least ++ [',', '\x7d']
    | least, some most =>
      if least = most then '\x7b' :: Nat.toDigits 10 least ++ ['\x7d']
      else '\x7b' :: Nat.toDigits 10 least ++ ',' :: Nat.toDigits 10 most ++ ['\x7d']
  match preference with
  | .more => count
  | .fewer => count ++ ['?']

/-- Where an expression stands, from the widest place to the narrowest. -/
inductive Place where
  | whole
  | branch
  | part
  | repeated
deriving DecidableEq

def Place.rank : Place → Nat
  | .whole => 0
  | .branch => 1
  | .part => 2
  | .repeated => 3

mutual

/-- The text of a plain expression as a regular one. Parts that are not plain have none. -/
def spelled (place : Place) : Expression → List Char
  | .any withLineFeed => if withLineFeed then enclosed ['s'] ['.'] else ['.']
  | .literal c caseless => enclosedIf caseless ['i'] (quoted c)
  | .edge look => spelledEdge look
  | .regular text _ caseless => enclosedIf caseless ['i'] text
  | .sequence parts =>
    enclosedIf (decide (Place.branch.rank < place.rank)) [] (spelledAll .part parts).flatten
  | .alternatives branches =>
    enclosedIf (decide (Place.whole.rank < place.rank)) []
      (List.intercalate ['|'] (spelledAll .branch branches))
  | .times inner least most preference =>
    enclosedIf (decide (Place.part.rank < place.rank)) []
      (inner.spelled .repeated ++ spelledCount least most preference)
  | .group _ inner => '(' :: inner.spelled .whole ++ [')']
  | .empty | .around _ _ _ | .reference _ | .atomic _ | .beginning | .searchStart | .entered _
  | .conditional _ _ _ => []
termination_by structural x => x

def spelledAll (place : Place) : List Expression → List (List Char)
  | [] => []
  | part :: rest => part.spelled place :: spelledAll place rest
termination_by structural x => x

end

mutual

def letters? : Expression → Option (List Char)
  | .literal c false => some [c]
  | .sequence parts => lettersOf? parts
  | _ => none
termination_by structural x => x

def lettersOf? : List Expression → Option (List Char)
  | [] => some []
  | part :: rest =>
    part.letters?.bind fun first => (lettersOf? rest).map fun others => first ++ others
termination_by structural x => x

end

end Expression

end AccessRules
