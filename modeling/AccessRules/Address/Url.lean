import AccessRules.Address.Host

/-!
Addresses of documents and of places in them, read as a browser reads them: blanks at the ends, tabs
and ends of lines do not count, dots in a path are resolved, and what may not stand in an address is
escaped. An address can be given from another one on.
-/

namespace AccessRules

inductive AddressPath where
  | text (s : List Char)
  | steps (steps : List (List Char))
deriving DecidableEq

structure Url where
  scheme : List Char
  /-- What stands after two slashes: a user, a host and a port. -/
  authority : Option (List Char)
  path : AddressPath
  query : Option (List Char)
  fragment : Option (List Char)
deriving DecidableEq

namespace Url

def ports : List (String × Option Nat) :=
  [("http", some 80), ("https", some 443), ("ws", some 80), ("wss", some 443), ("ftp", some 21),
    ("file", none)]

def isSpecial (scheme : List Char) : Bool :=
  ports.any fun entry => entry.1.toList == scheme

def isFile (scheme : List Char) : Bool := scheme == "file".toList

def usualPort? (scheme : List Char) : Option Nat :=
  (ports.find? fun entry => entry.1.toList == scheme).bind (·.2)

def isSlash (special : Bool) (c : Char) : Bool := c == '/' || (special && c == '\\')

def plainInFragment (c : Char) : Bool := Host.isVisible c && !" \"<>\x60".toList.contains c

def plainInPath (c : Char) : Bool := plainInFragment c && !"#?\x7b\x7d".toList.contains c

def plainInUser (c : Char) : Bool := plainInPath c && !"/:;=@[\\]^|".toList.contains c

def plainInQuery (special : Bool) (c : Char) : Bool :=
  Host.isVisible c && !" \"#<>".toList.contains c && !(special && c == '\'')

namespace Path

def isHere (step : List Char) : Bool :=
  step == ['.'] || step.map Char.toLower == "%2e".toList

def isUp (step : List Char) : Bool :=
  ["..", ".%2e", "%2e.", "%2e%2e"].any fun text => step.map Char.toLower == text.toList

/-- The steps after others. Up takes the last step away; a path that ends in dots ends in an empty
step. -/
def follow (before : List (List Char)) : List (List Char) → List (List Char)
  | [] => before
  | [step] =>
    if isUp step then before.dropLast ++ [[]]
    else if isHere step then before ++ [[]]
    else before ++ [step]
  | step :: rest =>
    if isUp step then follow before.dropLast rest
    else if isHere step then follow before rest
    else follow (before ++ [step]) rest

def extend (special : Bool) (before : List (List Char)) (s : List Char) : List (List Char) :=
  follow before ((piecesBetween (isSlash special) s).map (Host.percentEncoded plainInPath))

end Path

def cutAt (mark : Char) (s : List Char) : List Char × Option (List Char) :=
  match s.dropWhile (· != mark) with
  | [] => (s, none)
  | _ :: rest => (s.takeWhile (· != mark), some rest)

def cutParts (s : List Char) : List Char × Option (List Char) × Option (List Char) :=
  let (rest, fragment) := cutAt '#' s
  let (rest, query) := cutAt '?' rest
  (rest, query, fragment)

def ended (url : Url) (query fragment : Option (List Char)) : Url :=
  { url with
    query := query.map (Host.percentEncoded (plainInQuery (isSpecial url.scheme)))
    fragment := fragment.map (Host.percentEncoded plainInFragment) }

/-- The user before the last at sign, with the sign, and the text after it. Nobody is left out. -/
def user? (special : Bool) (s : List Char) : Except AddressFault (List Char × List Char) :=
  match s.reverse.dropWhile (· != '@') with
  | [] => .ok ([], s)
  | _ :: reversed =>
    let name := reversed.reverse
    let rest := s.drop (name.length + 1)
    if name.isEmpty then
      if rest.isEmpty && special then .error .emptyHost else .ok ([], rest)
    else
      let (first, password) := cutAt ':' name
      let secret := match password with
        | some (c :: more) => ':' :: Host.percentEncoded plainInUser (c :: more)
        | _ => []
      let text := Host.percentEncoded plainInUser first ++ secret
      .ok (if text.isEmpty then [] else text ++ ['@'], rest)

/-- A port in digits, unless it is the usual one. -/
def port? (usual : Option Nat) (s : List Char) : Except AddressFault (List Char) :=
  if s.isEmpty then .ok []
  else
    match numeral? 10 s with
    | some n =>
      if 65535 < n then .error .port
      else .ok (if usual = some n then [] else ':' :: Nat.toDigits 10 n)
    | none => .error .port

def hostLength (bracketed : Bool) : List Char → Nat
  | [] => 0
  | c :: rest =>
    if c = ':' ∧ !bracketed then 0
    else hostLength (if c = '[' then true else if c = ']' then false else bracketed) rest + 1

def authority? (scheme s : List Char) : Except AddressFault (List Char) := do
  let special := isSpecial scheme
  let (user, rest) ← user? special s
  let length := hostLength false rest
  let host := rest.take length
  let port := rest.drop length
  if host.isEmpty && (special || !port.isEmpty || !user.isEmpty) then .error .emptyHost
  else
    let host ← if special then Host.ofName? host else Host.ofText? host
    let port ← port? (usualPort? scheme) (port.drop 1)
    return user ++ host ++ port

def afterSlashes? (scheme s : List Char) : Except AddressFault Url :=
  let special := isSpecial scheme
  let (s, query, fragment) := cutParts s
  let authority := s.takeWhile fun c => !isSlash special c
  let steps := match s.drop authority.length with
    | _ :: rest => Path.extend special [] rest
    | [] => if special then [[]] else []
  (authority? scheme authority).map fun authority =>
    ended ⟨scheme, some authority, .steps steps, none, none⟩ query fragment

/-- An address of a file after its scheme. A host of one's own is left out. -/
def ofFile? (s : List Char) : Except AddressFault Url :=
  let scheme := "file".toList
  let (s, query, fragment) := cutParts s
  let url (host : List Char) (steps : List (List Char)) : Url :=
    ended ⟨scheme, some host, .steps steps, none, none⟩ query fragment
  match s with
  | a :: b :: rest =>
    if isSlash true a && isSlash true b then
      let host := rest.takeWhile fun c => !isSlash true c
      let steps := Path.extend true [] ((rest.drop host.length).drop 1)
      if host.isEmpty then .ok (url [] steps)
      else (Host.ofName? host).map fun host =>
        url (if host == "localhost".toList then [] else host) steps
    else .ok (url [] (Path.extend true [] (if isSlash true a then b :: rest else s)))
  | s => .ok (url [] (Path.extend true [] (s.dropWhile (isSlash true))))

def afterScheme? (scheme s : List Char) : Except AddressFault Url :=
  if isFile scheme then ofFile? s
  else if isSpecial scheme then afterSlashes? scheme (s.dropWhile (isSlash true))
  else
    match s with
    | '/' :: '/' :: rest => afterSlashes? scheme rest
    | s =>
      let (s, query, fragment) := cutParts s
      let path := match s with
        | '/' :: rest => AddressPath.steps (Path.extend false [] rest)
        | s => .text (Host.percentEncoded (fun c => ' ' ≤ c && c ≤ '~') s)
      .ok (ended ⟨scheme, none, path, none, none⟩ query fragment)

def relative? (base : Url) (s : List Char) : Except AddressFault Url :=
  let special := isSpecial base.scheme
  let steps := match base.path with
    | .steps steps => steps
    | .text _ => []
  match s with
  | [] => .ok { base with fragment := none }
  | '#' :: fragment => .ok (ended { base with query := none } none (some fragment)
      |> fun url => { url with query := base.query })
  | '?' :: _ =>
    let (_, query, fragment) := cutParts s
    .ok (ended base query fragment)
  | c :: more =>
    let slash (c : Char) : Bool := c == '/' || c == '\\'
    if slash c && (more.head?.any slash) then afterSlashes? base.scheme (more.drop 1)
    else
      let (text, query, fragment) := cutParts s
      let steps := if slash c then Path.extend special [] (text.drop 1)
        else Path.extend special steps.dropLast text
      .ok (ended { base with path := .steps steps } query fragment)

def scheme? (s : List Char) : Option (List Char × List Char) :=
  match cutAt ':' s with
  | (c :: rest, some after) =>
    if c.isAlpha && rest.all fun c => c.isAlphanum || c == '+' || c == '-' || c == '.' then
      some ((c :: rest).map Char.toLower, after)
    else none
  | _ => none

/-- A text without controls and blanks at its ends, and without tabs and ends of lines inside. -/
def cleaned (s : List Char) : List Char :=
  let isEdge (c : Char) : Bool := decide (c.toNat ≤ 32)
  let trimmed := ((s.dropWhile isEdge).reverse.dropWhile isEdge).reverse
  trimmed.filter fun c => c != '\t' && c != '\n' && c != '\r'

/-- The address that a text spells, from a base on if there is one. -/
def ofText? (base : Option Url) (text : String) : Except AddressFault Url :=
  let s := cleaned text.toList
  match scheme? s, base with
  | some (scheme, rest), base =>
    match base with
    | some base =>
      if isSpecial scheme && base.scheme == scheme && !((rest.takeWhile (isSlash true)).length ≥ 2)
      then relative? base rest
      else afterScheme? scheme rest
    | none => afterScheme? scheme rest
  | none, some base => relative? base s
  | none, none => .error .relative

/-- The path as text. Without a host it does not begin with two slashes. -/
def pathText (url : Url) : List Char :=
  match url.path with
  | .text s => s
  | .steps steps =>
    let text := steps.flatMap fun step => '/' :: step
    if url.authority.isNone && steps.head? == some [] && decide (1 < steps.length) then
      '/' :: '.' :: text
    else text

def markedIf (mark : Char) : Option (List Char) → List Char
  | some s => mark :: s
  | none => []

def text (url : Url) : String :=
  let authority := match url.authority with
    | some s => '/' :: '/' :: s
    | none => []
  String.ofList (url.scheme ++ ':' :: authority ++ url.pathText ++ markedIf '?' url.query ++
    markedIf '#' url.fragment)

def document (url : Url) : Url := { url with fragment := none }

/-- The base address of documents without a name. -/
def unnamed : Url := ⟨"json-schema".toList, some [], .steps [[]], none, none⟩

end Url

end AccessRules
