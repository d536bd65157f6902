import AccessRules.Json.Pointer
import AccessRules.Text.Basic
import AccessRules.Text.LowerCase
import AccessRules.Text.Punycode

/-!
The hosts of addresses: names, and numbers of the fourth and the sixth version of the internet
protocol. Under a scheme with fixed rules a host is a name in ASCII, and a name that ends in a
number is a number as a whole; under any other scheme it is taken as it stands.
-/

namespace AccessRules

inductive AddressFault where
  | emptyHost
  | domain
  | port
  | ipv4
  | ipv6
  | hostCharacter
  | relative
deriving DecidableEq

def AddressFault.message : AddressFault → String
  | .emptyHost => "empty host"
  | .domain => "invalid international domain name"
  | .port => "invalid port number"
  | .ipv4 => "invalid IPv4 address"
  | .ipv6 => "invalid IPv6 address"
  | .hostCharacter => "invalid domain character"
  | .relative => "relative URL without a base"

def numeral? (base : Nat) (digits : List Char) : Option Nat :=
  let append (n : Nat) (c : Char) : Option Nat :=
    (Hex.value? c).bind fun d => if d < base then some (n * base + d) else none
  digits.foldlM append 0

namespace Ipv4

/-- One of four parts: at most three digits, without a zero in front. -/
def octet? (part : List Char) : Option Nat :=
  let needless := decide (1 < part.length) && part.head? == some '0'
  if part.isEmpty || decide (3 < part.length) || needless then none
  else (numeral? 10 part).bind fun n => if n < 256 then some n else none

/-- Four numbers between dots, the first one first. -/
def ofText? (s : List Char) : Option (List Nat) :=
  let parts := piecesBetween (· == '.') s
  if parts.length = 4 then parts.mapM octet? else none

/-- A number that may be octal, with a zero in front, or hexadecimal, with `0x`. -/
def number? (s : List Char) : Option Nat :=
  match s with
  | [] => none
  | '0' :: 'x' :: rest | '0' :: 'X' :: rest => numeral? 16 rest
  | '0' :: c :: rest => numeral? 8 (c :: rest)
  | s => numeral? 10 s

def lastPart (name : List Char) : List Char :=
  match (piecesBetween (· == '.') name).reverse with
  | [] :: before :: _ => before
  | last :: _ => last
  | [] => []

/-- The name ends in a number, so that it must be one. -/
def endsName (name : List Char) : Bool :=
  let last := lastPart name
  (!last.isEmpty && last.all Char.isDigit) || (number? last).isSome

/-- Up to four numbers between dots: the last one fills what the others leave. -/
def ofName? (name : List Char) : Option Nat :=
  let parts := match (piecesBetween (· == '.') name).reverse with
    | [] :: before => before
    | parts => parts
  match parts.mapM number? with
  | some (last :: others) =>
    if others.length < 4 ∧ last < Nat.pow 256 (4 - others.length) ∧ others.all (· < 256) then
      some (others.reverse.zipIdx.foldl (fun n (octet, i) => n + octet * Nat.pow 256 (3 - i)) last)
    else none
  | _ => none

def text (n : Nat) : List Char :=
  List.intercalate ['.']
    ([16777216, 65536, 256, 1].map fun unit => Nat.toDigits 10 (n / unit % 256))

end Ipv4

namespace Ipv6

def group? (part : List Char) : Option Nat :=
  if part.isEmpty || decide (4 < part.length) then none else numeral? 16 part

/-- Groups between colons. If it is allowed, the last two may be written in the older form. -/
def groups? (older : Bool) (s : List Char) : Option (List Nat) :=
  if s.isEmpty then some []
  else
    let parts := piecesBetween (· == ':') s
    let last := parts.getLastD []
    match if older then Ipv4.ofText? last else none with
    | some [a, b, c, d] =>
      (parts.dropLast.mapM group?).map fun groups => groups ++ [a * 256 + b, c * 256 + d]
    | _ => parts.mapM group?

def aroundGap? : List Char → Option (List Char × List Char)
  | ':' :: ':' :: rest => some ([], rest)
  | c :: rest => (aroundGap? rest).map fun (before, after) => (c :: before, after)
  | [] => none

/-- Eight groups, of which two colons may stand for some that are zero. -/
def ofText? (s : List Char) : Option (List Nat) :=
  match aroundGap? s with
  | none => (groups? true s).bind fun groups => if groups.length = 8 then some groups else none
  | some (before, after) => do
    let first ← groups? false before
    let last ← groups? true after
    let missing := 8 - (first.length + last.length)
    if missing = 0 then none else return first ++ List.replicate missing 0 ++ last

def zeros (groups : List Nat) : Nat := (groups.takeWhile (· = 0)).length

/-- The place and the length of the longest run of zeros, the first one of several. -/
def longestGap (groups : List Nat) : Nat × Nat :=
  (List.range groups.length).foldl (fun best i =>
    if best.2 < zeros (groups.drop i) then (i, zeros (groups.drop i)) else best) (0, 0)

def groupsText (groups : List Nat) : List Char :=
  List.intercalate [':'] (groups.map (Nat.toDigits 16))

def text (groups : List Nat) : List Char :=
  let (start, length) := longestGap groups
  if length < 2 then groupsText groups
  else groupsText (groups.take start) ++ [':', ':'] ++ groupsText (groups.drop (start + length))

end Ipv6

namespace Host

def percentEncoded (isPlain : Char → Bool) (s : List Char) : List Char :=
  s.flatMap fun c =>
    if isPlain c then [c]
    else (String.ofList [c]).toUTF8.toList.flatMap fun b =>
      ['%', Hex.upper (b.toNat / 16), Hex.upper (b.toNat % 16)]

def isVisible (c : Char) : Bool := ' ' ≤ c && c ≤ '~'

def isForbidden (c : Char) : Bool :=
  c ≤ ' ' || c == '\x7f' || "%#/:<>?@[\\]^|".toList.contains c

def bracketed? (s : List Char) : Except AddressFault (List Char) :=
  match s.reverse with
  | ']' :: inner =>
    match Ipv6.ofText? inner.reverse with
    | some groups => .ok ('[' :: Ipv6.text groups ++ [']'])
    | none => .error .ipv6
  | _ => .error .ipv6

def label (s : List Char) : List Char :=
  if s.all Punycode.isBasic then s else "xn--".toList ++ Punycode.encode s

/-- The host of an address with fixed rules. -/
def ofName? (s : List Char) : Except AddressFault (List Char) :=
  match s with
  | '[' :: rest => bracketed? rest
  | s =>
    let decoded := Utf8.text (Pointer.percentDecoded (String.ofList s).toUTF8.toList)
    let small := lowerCase decoded
    let name := List.intercalate ['.'] ((piecesBetween (· == '.') small).map label)
    if small.any isUnicodeBlank || name.any isForbidden then .error .domain
    else if name.isEmpty then .error .emptyHost
    else if Ipv4.endsName name then
      match Ipv4.ofName? name with
      | some n => .ok (Ipv4.text n)
      | none => .error .ipv4
    else .ok name

/-- The host of an address without fixed rules. -/
def ofText? (s : List Char) : Except AddressFault (List Char) :=
  match s with
  | '[' :: rest => bracketed? rest
  | s =>
    if s.any fun c => c == '\x00' || "\t\n\r #/:<>?@[\\]^|".toList.contains c then
      .error .hostCharacter
    else .ok (percentEncoded isVisible s)

end Host

end AccessRules
