import AccessRules.Decimal.Reading

/-!
Settings, the values of configuration sources, and how one source is laid over another: tables are
joined name by name, and any other value takes the place of what it meets. A key of a source is a
path of names and of places in lists.
-/

namespace AccessRules

inductive Setting where
  /-- A place in a list to which nothing was given. -/
  | nothing
  | bool (value : Bool)
  | integer (value : Int)
  | float (value : FloatValue)
  | text (value : String)
  | list (items : List Setting)
  | table (entries : List (String × Setting))

abbrev Settings := List (String × Setting)

namespace Settings

def get? (settings : Settings) (name : String) : Option Setting :=
  match settings with
  | [] => none
  | (key, value) :: rest => if key = name then some value else get? rest name

def put (settings : Settings) (name : String) (value : Setting) : Settings :=
  match settings with
  | [] => [(name, value)]
  | (key, old) :: rest =>
    if key = name then (key, value) :: rest else (key, old) :: put rest name value

end Settings

namespace Setting

instance : Inhabited Setting := ⟨.table []⟩

def entriesOf : Option Setting → Settings
  | some (.table entries) => entries
  | _ => []

mutual

def onto (under : Option Setting) : Setting → Setting
  | .table entries => .table (ontoEntries (entriesOf under) entries)
  | value => value
termination_by structural setting => setting

def ontoEntries (under : Settings) : List (String × Setting) → Settings
  | [] => under
  | (name, value) :: rest =>
    ontoEntries (Settings.put under name (onto (Settings.get? under name) value)) rest

end

end Setting

/-- A step of a key: to a name in a table, or to a place in a list, counted from its end if it is
negative. -/
inductive KeyStep where
  | name (name : String)
  | place (index : Int)

namespace Setting

def itemsOf : Option Setting → List Setting
  | some (.list items) => items
  | _ => []

/-- A list with room for a place, and how many items stand before it. -/
def withPlace (items : List Setting) (index : Int) : List Setting × Nat :=
  let missing := index.natAbs - items.length
  if 0 ≤ index then
    (items ++ List.replicate (index.toNat + 1 - items.length) .nothing, index.toNat)
  else (List.replicate missing .nothing ++ items, items.length - index.natAbs)

def ontoAt (under : Option Setting) (value : Setting) : List KeyStep → Setting
  | [] => onto under value
  | .name name :: rest =>
    let entries := entriesOf under
    .table (Settings.put entries name (ontoAt (Settings.get? entries name) value rest))
  | .place index :: rest =>
    let (items, before) := withPlace (itemsOf under) index
    .list (items.set before (ontoAt items[before]? value rest))

end Setting

namespace KeyPath

def isNameChar (c : Char) : Bool :=
  c.isAlphanum || c = '_' || c = '-'

def isBlank (c : Char) : Bool := c = ' ' || c = '\t'

def place? (s : List Char) : Option Int :=
  let s := (s.dropWhile isBlank).reverse.dropWhile isBlank |>.reverse
  if s.head? = some '+' then none else integerOfChars? s

def steps? : Nat → List Char → Option (List KeyStep)
  | 0, _ => none
  | fuel + 1, s =>
    match s with
    | [] => some []
    | '.' :: rest =>
      match rest.takeWhile isNameChar with
      | [] => none
      | name =>
        (steps? fuel (rest.dropWhile isNameChar)).map (.name (String.ofList name) :: ·)
    | '[' :: rest =>
      match place? (rest.takeWhile (· != ']')), rest.dropWhile (· != ']') with
      | some index, ']' :: rest => (steps? fuel rest).map (.place index :: ·)
      | _, _ => none
    | _ => none

/-- The path that a key spells, which begins with a name. A key of any other form is one name. -/
def ofKey (key : String) : List KeyStep :=
  (steps? (key.length + 2) ('.' :: key.toList)).getD [.name key]

end KeyPath

namespace Settings

/-- Lays one source over the settings. Its keys are paths. -/
def overlay (settings : Settings) : List (String × Setting) → Settings
  | [] => settings
  | (key, value) :: rest =>
    overlay (Setting.entriesOf (some (Setting.ontoAt (some (.table settings)) value
      (KeyPath.ofKey key)))) rest

def overlayAll (settings : Settings) (sources : List Settings) : Settings :=
  sources.foldl overlay settings

end Settings

end AccessRules
