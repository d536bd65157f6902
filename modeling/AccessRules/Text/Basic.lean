import AccessRules.Text.Combining
import AccessRules.Text.Unprintable

/-!
Characters and short spellings. Sets of code points are lists of intervals; from them come the
characters that show by themselves on a page, so that they can be told from each other without being
named by their numbers. Blanks are those of Unicode, every character with the property
`White_Space`. In a text in double quotes the quote, the backslash and the usual controls have short
escapes, and any other character that does not show by itself is given by its number.
-/

namespace AccessRules

def inRanges (ranges : List (Nat × Nat)) (n : Nat) : Bool :=
  ranges.any fun (low, high) => decide (low ≤ n) && decide (n ≤ high)

/-- The number is one of those from the first to the second, at steps of the third. -/
def inSteps (runs : List (Nat × Nat × Nat)) (n : Nat) : Bool :=
  runs.any fun (low, high, step) =>
    decide (low ≤ n) && decide (n ≤ high) && (n - low) % step == 0

def isUnicodeBlank (c : Char) : Bool :=
  let n := c.toNat
  (decide (9 ≤ n) && decide (n ≤ 13)) || n == 0x20 || n == 0x85 || n == 0xA0 || n == 0x1680 ||
    (decide (0x2000 ≤ n) && decide (n ≤ 0x200A)) || n == 0x2028 || n == 0x2029 || n == 0x202F ||
    n == 0x205F || n == 0x3000

def showsByItself (c : Char) : Bool :=
  if c.toNat < 128 then decide (32 ≤ c.toNat) && decide (c.toNat < 127)
  else !inRanges unprintableRanges c.toNat && !inRanges combiningRanges c.toNat

def trimStart (s : List Char) : List Char :=
  s.dropWhile isUnicodeBlank

/-- The pieces before, between and after the marks, of which there is one at least. -/
def piecesBetween (isMark : Char → Bool) : List Char → List (List Char)
  | [] => [[]]
  | c :: rest =>
    if isMark c then [] :: piecesBetween isMark rest
    else
      match piecesBetween isMark rest with
      | first :: others => (c :: first) :: others
      | [] => [[c]]

namespace Hex

def value? (c : Char) : Option Nat :=
  if '0' ≤ c ∧ c ≤ '9' then some (c.toNat - '0'.toNat)
  else if 'a' ≤ c ∧ c ≤ 'f' then some (c.toNat - 'a'.toNat + 10)
  else if 'A' ≤ c ∧ c ≤ 'F' then some (c.toNat - 'A'.toNat + 10)
  else none

def number? (digits : List Char) : Option Nat :=
  digits.foldl (fun n c => do return (← n) * 16 + (← value? c)) (some 0)

def lower (n : Nat) : Char :=
  if n < 10 then Char.ofNat (48 + n) else Char.ofNat (87 + n)

def upper (n : Nat) : Char :=
  if n < 10 then Char.ofNat (48 + n) else Char.ofNat (55 + n)

end Hex

namespace Quoted

def escapeChar (c : Char) : List Char :=
  match c with
  | '"' => ['\\', '"']
  | '\\' => ['\\', '\\']
  | '\n' => ['\\', 'n']
  | '\r' => ['\\', 'r']
  | '\t' => ['\\', 't']
  | '\x00' => ['\\', '0']
  | c =>
    if showsByItself c then [c]
    else '\\' :: 'u' :: '\x7b' :: (Nat.toDigits 16 c.toNat ++ ['\x7d'])

def encode (s : List Char) : List Char :=
  '"' :: (s.flatMap escapeChar ++ ['"'])

end Quoted

end AccessRules
