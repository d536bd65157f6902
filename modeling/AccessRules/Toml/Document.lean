import AccessRules.Config.Setting

/-!
The tables of a TOML document while it is read. A table remembers how it came about, because that
decides who may add to it: a header opens a table once, dotted keys add only to tables that no
header has opened and close them to headers, and nothing adds to a value.
-/

namespace AccessRules

namespace Toml

inductive Origin where
  /-- On the way to another header. -/
  | implied
  | header
  | dotted
deriving DecidableEq

inductive Node where
  | value (setting : Setting)
  | table (origin : Origin) (entries : List (String × Node))
  | tables (elements : List (List (String × Node)))

abbrev Entries := List (String × Node)

namespace Entries

def get? (entries : Entries) (name : String) : Option Node :=
  match entries with
  | [] => none
  | (key, node) :: rest => if key = name then some node else get? rest name

def put (entries : Entries) (name : String) (node : Node) : Entries :=
  match entries with
  | [] => [(name, node)]
  | (key, old) :: rest =>
    if key = name then (key, node) :: rest else (key, old) :: put rest name node

def changeLast (change : Entries → Option Entries) (elements : List Entries) :
    Option (List Entries) :=
  match elements.getLast? with
  | some last => (change last).map fun changed => elements.dropLast ++ [changed]
  | none => none

/-- Changes the table that a path of names leads to, the last element standing for an array of
tables. -/
def changeAt (change : Entries → Option Entries) (entries : Entries) :
    List String → Option Entries
  | [] => change entries
  | name :: rest =>
    match get? entries name with
    | some (.table origin inner) => do
      return put entries name (.table origin (← changeAt change inner rest))
    | some (.tables elements) =>
      (changeLast (fun last => changeAt change last rest) elements).map fun elements =>
        put entries name (.tables elements)
    | _ => none

/-- Changes the node at the end of a header's path. Tables on the way that are missing are
implied. -/
def changeHeader (change : Option Node → Option Node) (entries : Entries) :
    List String → Option Entries
  | [] => none
  | [name] => (change (get? entries name)).map (put entries name)
  | name :: rest =>
    match get? entries name with
    | none => do
      return put entries name (.table .implied (← changeHeader change [] rest))
    | some (.table origin inner) => do
      return put entries name (.table origin (← changeHeader change inner rest))
    | some (.tables elements) =>
      (changeLast (fun last => changeHeader change last rest) elements).map fun elements =>
        put entries name (.tables elements)
    | some (.value _) => none

/-- Opens a table for a header, which may only have been implied before. -/
def openTable : Option Node → Option Node
  | none => some (.table .header [])
  | some (.table .implied entries) => some (.table .header entries)
  | _ => none

def openElement : Option Node → Option Node
  | none => some (.tables [[]])
  | some (.tables elements) => some (.tables (elements ++ [[]]))
  | _ => none

/-- Sets a new name, or a new dotted path of names, in a table. Tables on the way count as dotted
from then on, so that no header opens them. The way may lead through the last element of an array of
tables, but not end there. -/
def setNew (value : Setting) (entries : Entries) : List String → Option Entries
  | [] => none
  | [name] =>
    match get? entries name with
    | none => some (put entries name (.value value))
    | some _ => none
  | name :: next :: rest =>
    match get? entries name with
    | none => do
      return put entries name (.table .dotted (← setNew value [] (next :: rest)))
    | some (.table origin inner) =>
      if origin = .header then none
      else do
        return put entries name (.table .dotted (← setNew value inner (next :: rest)))
    | some (.tables elements) =>
      if rest.isEmpty then none
      else
        (changeLast (fun last => setNew value last (next :: rest)) elements).map fun elements =>
          put entries name (.tables elements)
    | some (.value _) => none

end Entries

mutual

def settingOf : Node → Setting
  | .value setting => setting
  | .table _ entries => .table (settingsOf entries)
  | .tables elements => .list (settingsOfElements elements)
termination_by structural node => node

def settingsOf : List (String × Node) → List (String × Setting)
  | [] => []
  | (name, node) :: rest => (name, settingOf node) :: settingsOf rest

def settingsOfElements : List (List (String × Node)) → List Setting
  | [] => []
  | entries :: rest => .table (settingsOf entries) :: settingsOfElements rest

end

end Toml

end AccessRules
