/-!
Shorthands of patterns in schemas that are spelled out before a pattern is read: control characters
by their letters, and the sets of digits, of word characters and of blanks, which are narrower here
than in regular expressions at large.
-/

namespace AccessRules

namespace Shorthand

/-- The character that a letter after `\c` stands for lies so far below the letter. -/
def controlDistance : Nat := 64

def controlsExpanded : List Char → List Char
  | [] => []
  | '\\' :: 'c' :: letter :: rest =>
    if letter.isAlpha then Char.ofNat (letter.toNat - controlDistance) :: controlsExpanded rest
    else '\\' :: controlsExpanded ('c' :: letter :: rest)
  | c :: rest => c :: controlsExpanded rest

def blanks : List Char :=
  [' ', '\t', '\n', '\r', '\x0b', '\x0c', '\u2003', '\ufeff', '\u2029', '\u00a0']

def setOf? (letter : Char) : Option (List Char) :=
  match letter with
  | 'd' => some "[0-9]".toList
  | 'D' => some "[^0-9]".toList
  | 'w' => some "[A-Za-z0-9_]".toList
  | 'W' => some "[^A-Za-z0-9_]".toList
  | 's' => some ('[' :: blanks ++ [']'])
  | 'S' => some ('[' :: '^' :: blanks ++ [']'])
  | _ => none

def setsExpanded : List Char → List Char
  | '\\' :: c :: rest => (setOf? c).getD ['\\', c] ++ setsExpanded rest
  | c :: rest => c :: setsExpanded rest
  | [] => []

def expanded (pattern : List Char) : List Char := setsExpanded (controlsExpanded pattern)

end Shorthand

end AccessRules
