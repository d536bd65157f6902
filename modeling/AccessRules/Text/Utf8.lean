/-!
UTF-8 read octet by octet. What is no UTF-8 is found in pieces: an octet that begins no character,
or the front of a character up to the first octet that cannot go on.
-/

namespace AccessRules

namespace Utf8

/-- A character that is read in part: its number so far, how many octets were read and how many are
missing, and the bounds of the next one. -/
structure Front where
  number : Nat
  read : Nat
  missing : Nat
  low : Nat
  high : Nat

inductive Piece where
  | character (c : Char)
  /-- So many octets that are no character. -/
  | broken (length : Nat)
  /-- The front of a character at the end of the octets. -/
  | cut (length : Nat)

def first (b : Nat) : List Piece × Option Front :=
  if b < 0x80 then ([.character (Char.ofNat b)], none)
  else if 0xc2 ≤ b ∧ b < 0xe0 then ([], some ⟨b % 0x20, 1, 1, 0x80, 0xbf⟩)
  else if 0xe0 ≤ b ∧ b < 0xf0 then
    let low := if b = 0xe0 then 0xa0 else 0x80
    let high := if b = 0xed then 0x9f else 0xbf
    ([], some ⟨b % 0x10, 1, 2, low, high⟩)
  else if 0xf0 ≤ b ∧ b < 0xf5 then
    let low := if b = 0xf0 then 0x90 else 0x80
    let high := if b = 0xf4 then 0x8f else 0xbf
    ([], some ⟨b % 0x08, 1, 3, low, high⟩)
  else ([.broken 1], none)

/-- The next octet after a front. If it does not go on, it begins anew. -/
def next (front : Front) (b : Nat) : List Piece × Option Front :=
  if front.low ≤ b ∧ b ≤ front.high then
    let number := front.number * 0x40 + b % 0x40
    if front.missing = 1 then ([.character (Char.ofNat number)], none)
    else ([], some ⟨number, front.read + 1, front.missing - 1, 0x80, 0xbf⟩)
  else
    let (pieces, front') := first b
    (.broken front.read :: pieces, front')

def piecesFrom : Option Front → List UInt8 → List Piece
  | none, [] => []
  | some front, [] => [.cut front.read]
  | none, b :: rest =>
    let (pieces, front) := first b.toNat
    pieces ++ piecesFrom front rest
  | some front, b :: rest =>
    let (pieces, front) := next front b.toNat
    pieces ++ piecesFrom front rest

def pieces (octets : List UInt8) : List Piece := piecesFrom none octets

def replacement : Char := '\ufffd'

def Piece.char : Piece → Char
  | .character c => c
  | .broken _ | .cut _ => replacement

def text (octets : List UInt8) : List Char := (pieces octets).map Piece.char

/-- Where octets cease to be UTF-8, and the length of the piece there unless it is cut off. -/
structure Flaw where
  position : Nat
  length : Option Nat

def flawFrom (position : Nat) : List Piece → Option Flaw
  | [] => none
  | .character c :: rest => flawFrom (position + c.utf8Size) rest
  | .broken length :: _ => some ⟨position, some length⟩
  | .cut _ :: _ => some ⟨position, none⟩

def flaw? (octets : List UInt8) : Option Flaw := flawFrom 0 (pieces octets)

def Flaw.message (flaw : Flaw) : String :=
  match flaw.length with
  | some length =>
    "invalid utf-8 sequence of " ++ toString length ++ " bytes from index " ++
      toString flaw.position
  | none => "incomplete utf-8 byte sequence from index " ++ toString flaw.position

end Utf8

end AccessRules
