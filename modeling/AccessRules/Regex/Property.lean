import AccessRules.Regex.CharClass
import AccessRules.Text.Cased
import AccessRules.Text.Script

/-!
The names that characters' properties go by in regular expressions: general categories and groups of
them, scripts, and a few properties with two values. Capital letters, blanks, hyphens, low lines and
a leading `is` make no difference.
-/

namespace AccessRules

namespace CharClass

def categoryNames : Category → List String
  | .uppercaseLetter => ["lu", "uppercaseletter"]
  | .lowercaseLetter => ["ll", "lowercaseletter"]
  | .titlecaseLetter => ["lt", "titlecaseletter"]
  | .modifierLetter => ["lm", "modifierletter"]
  | .otherLetter => ["lo", "otherletter"]
  | .nonspacingMark => ["mn", "nonspacingmark"]
  | .spacingMark => ["mc", "spacingmark"]
  | .enclosingMark => ["me", "enclosingmark"]
  | .decimalNumber => ["nd", "decimalnumber", "digit"]
  | .letterNumber => ["nl", "letternumber"]
  | .otherNumber => ["no", "othernumber"]
  | .connectorPunctuation => ["pc", "connectorpunctuation"]
  | .dashPunctuation => ["pd", "dashpunctuation"]
  | .openPunctuation => ["ps", "openpunctuation"]
  | .closePunctuation => ["pe", "closepunctuation"]
  | .initialPunctuation => ["pi", "initialpunctuation"]
  | .finalPunctuation => ["pf", "finalpunctuation"]
  | .otherPunctuation => ["po", "otherpunctuation"]
  | .mathSymbol => ["sm", "mathsymbol"]
  | .currencySymbol => ["sc", "currencysymbol"]
  | .modifierSymbol => ["sk", "modifiersymbol"]
  | .otherSymbol => ["so", "othersymbol"]
  | .spaceSeparator => ["zs", "spaceseparator"]
  | .lineSeparator => ["zl", "lineseparator"]
  | .paragraphSeparator => ["zp", "paragraphseparator"]
  | .control => ["cc", "control", "cntrl"]
  | .format => ["cf", "format"]
  | .privateUse => ["co", "privateuse"]

def numbers : List Category := [.decimalNumber, .letterNumber, .otherNumber]

def punctuation : List Category :=
  [.connectorPunctuation, .dashPunctuation, .openPunctuation, .closePunctuation,
    .initialPunctuation, .finalPunctuation, .otherPunctuation]

def symbols : List Category := [.mathSymbol, .currencySymbol, .modifierSymbol, .otherSymbol]

def separators : List Category := [.spaceSeparator, .lineSeparator, .paragraphSeparator]

def assigned : CharClass := ofCategories Category.all

def unassigned : CharClass := assigned.complement

def category? (name : String) : Option CharClass :=
  match name with
  | "any" => some anything
  | "assigned" => some assigned
  | "ascii" => some (range '\x00' '\x7f')
  | "cn" | "unassigned" => some unassigned
  | "cs" | "surrogate" => some empty
  | "c" | "other" => some (union unassigned (ofCategories [.control, .format, .privateUse]))
  | "l" | "letter" => some (ofCategories letters)
  | "lc" | "casedletter" =>
    some (ofCategories [.uppercaseLetter, .lowercaseLetter, .titlecaseLetter])
  | "m" | "mark" | "combiningmark" => some (ofCategories marks)
  | "n" | "number" => some (ofCategories numbers)
  | "p" | "punctuation" | "punct" => some (ofCategories punctuation)
  | "s" | "symbol" => some (ofCategories symbols)
  | "z" | "separator" => some (ofCategories separators)
  | name =>
    (Category.all.find? fun category => (categoryNames category).contains name).map ofCategory

def script? (name : String) : Option CharClass :=
  (Script.ranges? name).map ofIntervals

def lowercase : CharClass :=
  union (ofCategory .lowercaseLetter) (ofIntervals [
    (0xaa, 0xaa), (0xba, 0xba), (0x2b0, 0x2b8), (0x2c0, 0x2c1), (0x2e0, 0x2e4), (0x345, 0x345),
    (0x37a, 0x37a), (0x10fc, 0x10fc), (0x1d2c, 0x1d6a), (0x1d78, 0x1d78), (0x1d9b, 0x1dbf),
    (0x2071, 0x2071), (0x207f, 0x207f), (0x2090, 0x209c), (0x2170, 0x217f), (0x24d0, 0x24e9),
    (0x2c7c, 0x2c7d), (0xa69c, 0xa69d), (0xa770, 0xa770), (0xa7f2, 0xa7f4), (0xa7f8, 0xa7f9),
    (0xab5c, 0xab5f), (0xab69, 0xab69), (0x10780, 0x10780), (0x10783, 0x10785),
    (0x10787, 0x107b0), (0x107b2, 0x107ba), (0x1e030, 0x1e06d)])

def uppercase : CharClass :=
  union (ofCategory .uppercaseLetter) (ofIntervals [
    (0x2160, 0x216f), (0x24b6, 0x24cf), (0x1f130, 0x1f149), (0x1f150, 0x1f169),
    (0x1f170, 0x1f189)])

def property? (name : String) : Option CharClass :=
  match name with
  | "alphabetic" | "alpha" => some alphabetic
  | "lowercase" | "lower" => some lowercase
  | "uppercase" | "upper" => some uppercase
  | "whitespace" | "wspace" | "space" => some blank
  | "cased" => some (ofIntervals casedRanges)
  | "caseignorable" | "ci" => some (ofIntervals caseIgnorableRanges)
  | "hexdigit" | "hex" =>
    some (ofIntervals [(0x30, 0x39), (0x41, 0x46), (0x61, 0x66), (0xff10, 0xff19),
      (0xff21, 0xff26), (0xff41, 0xff46)])
  | "asciihexdigit" | "ahex" => some (ofIntervals [(0x30, 0x39), (0x41, 0x46), (0x61, 0x66)])
  | "joincontrol" | "joinc" => some (range '\u200c' '\u200d')
  | _ => none

def looseName (name : List Char) : List Char :=
  let small := (name.filter fun c => c != ' ' && c != '-' && c != '_').map Char.toLower
  match small with
  | 'i' :: 's' :: c :: rest => if c = 'c' && rest.isEmpty then small else c :: rest
  | small => small

def ofName? (name : List Char) : Option CharClass :=
  let name := String.ofList (looseName name)
  let property := if name = "cf" || name = "sc" || name = "lc" then none else property? name
  (property.or (category? name)).or (script? name)

def ofPair? (property value : List Char) : Option CharClass :=
  let value := String.ofList (looseName value)
  match String.ofList (looseName property) with
  | "gc" | "generalcategory" => category? value
  | "sc" | "script" | "scx" | "scriptextensions" => script? value
  | _ => none

/-- The set that is written between the braces after the letter of a property: a name, or a property
and its value, which may have to differ. -/
def ofProperty? (s : List Char) : Option CharClass :=
  let isMark (c : Char) : Bool := c = '=' || c = ':' || c = '!'
  let name := s.takeWhile fun c => !isMark c
  match s.dropWhile fun c => !isMark c with
  | [] => ofName? name
  | '!' :: '=' :: value => (ofPair? name value).map complement
  | '=' :: value => ofPair? name value
  | ':' :: value => ofPair? name value
  | _ => none

end CharClass

end AccessRules
