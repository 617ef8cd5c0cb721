import StorageTyping.Toml.Value

/-!
# Assembling tables

Tables of a document are put together from headers and assignments that name them by paths of
keys. A table may come into being in three ways, and what may be added to it later depends on
the way: a table opened by its own header is complete when the next header comes; a table that
a longer header implies may still be opened, once; a table made by a dotted key can be extended
by further dotted keys. No key is assigned twice.

Every function here answers `none` when the rules are broken.
-/

namespace StorageTyping.Toml

/-- How a table came into being. -/
inductive Origin where
  /-- By a header of its own. -/
  | header
  /-- By the header of a table inside it. -/
  | implied
  /-- By a dotted key. -/
  | dotted
deriving DecidableEq, Repr

/-- What stands at a key while a document is read. -/
inductive Item where
  | value (value : Value)
  | table (origin : Origin) (entries : List (String × Item))
  /-- The tables of an array that is written with a header for each, the last one last. -/
  | tables (elements : List (List (String × Item)))

/-- The keys of a table with what stands there, in order of appearance. -/
abbrev Entries := List (String × Item)

/-- Change what stands at a key, be it nothing. -/
def alter (key : String) (change : Option Item → Option Item) : Entries → Option Entries
  | [] => (change none).map fun item => [(key, item)]
  | (other, item) :: rest =>
    if other = key then (change (some item)).map fun item => (other, item) :: rest
    else (alter key change rest).map ((other, item) :: ·)

/-- Change the last table of an array. -/
def alterLast (change : Entries → Option Entries) : List Entries → Option (List Entries)
  | [] => none
  | [last] => (change last).map ([·])
  | element :: rest => (alterLast change rest).map (element :: ·)

/-- Change the table that stands at a key: an implied one if there is none, and the last one of
an array of tables. Plain values have no table to change. -/
def changeTable (change : Entries → Option Entries) : Option Item → Option Item
  | none => (change []).map (.table .implied)
  | some (.table origin entries) => (change entries).map (.table origin)
  | some (.tables elements) => (alterLast change elements).map .tables
  | some (.value _) => none

/-- Change the table at the end of a path. -/
def changeAt (change : Entries → Option Entries) : List String → Entries → Option Entries
  | [], entries => change entries
  | key :: path, entries => alter key (changeTable (changeAt change path)) entries

/-- Change what stands at the last key of a path. -/
def changeEntry (change : Option Item → Option Item) (path : List String) (entries : Entries) :
    Option Entries := do
  let key ← path.getLast?
  changeAt (alter key change) path.dropLast entries

/-- Open a table by its header, which must be new or only implied so far. -/
def openTable : List String → Entries → Option Entries :=
  changeEntry fun
    | none => some (.table .header [])
    | some (.table .implied entries) => some (.table .header entries)
    | _ => none

/-- Open one more table of an array of tables. -/
def openElement : List String → Entries → Option Entries :=
  changeEntry fun
    | none => some (.tables [[]])
    | some (.tables elements) => some (.tables (elements ++ [[]]))
    | _ => none

/-- Assign a value to a key, which may be dotted. The table that receives the value must have
been made by dotted keys as well, unless the key has no dot. On the way there, a dotted key
passes through tables that were never opened themselves and through the last table of an
array. -/
def assign (value : Value) : List String → Entries → Option Entries
  | [], _ => none
  | [key], entries =>
    alter key
      (fun
        | none => some (.value value)
        | some _ => none)
      entries
  | key :: path, entries =>
    alter key
      (fun
        | none => (assign value path []).map (.table .dotted)
        | some (.table .dotted inner) => (assign value path inner).map (.table .dotted)
        | some (.table .implied inner) =>
          if path.length = 1 then none else (assign value path inner).map (.table .implied)
        | some (.tables elements) =>
          if path.length = 1 then none else (alterLast (assign value path) elements).map .tables
        | _ => none)
      entries

mutual

/-- The value that stands at a key once the document is read. -/
def Item.toValue : Item → Value
  | .value value => value
  | .table _ entries => .table (valuesOf entries)
  | .tables elements => .array (tablesOf elements)

/-- The keys of a table with their values. -/
def valuesOf : List (String × Item) → List (String × Value)
  | [] => []
  | (key, item) :: rest => (key, item.toValue) :: valuesOf rest

/-- The tables of an array as values. -/
def tablesOf : List (List (String × Item)) → List Value
  | [] => []
  | entries :: rest => .table (valuesOf entries) :: tablesOf rest

end

/-- The table that some assignments make, one after the other. -/
def assignAll (assignments : List (List String × Value)) : Option Entries :=
  assignments.foldlM (fun entries assignment => assign assignment.2 assignment.1 entries) []

end StorageTyping.Toml
