import AccessRules.Json.Value
import AccessRules.Text.Basic
import AccessRules.Text.Utf8

/-!
JSON pointers: the value that a path of tokens leads to, and the path that a fragment of a reference
spells, with percent escapes and the two escapes of pointers undone.
-/

namespace AccessRules

namespace Pointer

/-- An array index without a sign or a leading zero. -/
def index? (token : List Char) : Option Nat :=
  if token.isEmpty || !token.all Char.isDigit then none
  else if token.head? = some '0' && token.length != 1 then none
  else some (token.foldl (fun n d => n * 10 + (d.toNat - '0'.toNat)) 0)

def step? (value : Json) (token : List Char) : Option Json :=
  match value with
  | .obj fields => Fields.get? fields (String.ofList token)
  | .arr items => (index? token).bind fun i => items[i]?
  | _ => none

def follow? (value : Json) : List (List Char) → Option Json
  | [] => some value
  | token :: rest => (step? value token).bind fun part => follow? part rest

/-- Undoes the escapes of a token: a slash first, then a tilde. -/
def unescape : List Char → List Char
  | '~' :: '1' :: rest => '/' :: unescape rest
  | '~' :: '0' :: rest => '~' :: unescape rest
  | c :: rest => c :: unescape rest
  | [] => []

def segments : List Char → List (List Char)
  | [] => [[]]
  | '/' :: rest => [] :: segments rest
  | c :: rest =>
    match segments rest with
    | first :: others => (c :: first) :: others
    | [] => [[c]]

def tokens? (pointer : List Char) : Option (List (List Char)) :=
  match pointer with
  | [] => some []
  | '/' :: rest => some ((segments rest).map unescape)
  | _ => none

def percentDecoded : List UInt8 → List UInt8
  | 37 :: a :: b :: rest =>
    match Hex.value? (Char.ofNat a.toNat), Hex.value? (Char.ofNat b.toNat) with
    | some high, some low => UInt8.ofNat (high * 16 + low) :: percentDecoded rest
    | _, _ => 37 :: percentDecoded (a :: b :: rest)
  | b :: rest => b :: percentDecoded rest
  | [] => []

def decodedFragment (fragment : String) : Except Utf8.Flaw (List Char) :=
  let octets := percentDecoded fragment.toUTF8.toList
  match Utf8.flaw? octets with
  | some flaw => .error flaw
  | none => .ok (Utf8.text octets)

end Pointer

end AccessRules
