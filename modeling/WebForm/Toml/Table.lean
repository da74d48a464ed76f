import WebForm.Toml.Value

/-!
# Tables in the making

A definition builds its tables line by line. A table comes about by a header of its own, by a header
of a table below it, or by a key with points; which of these decides what may still be added to it
from elsewhere. What stands in brackets or braces is closed: nothing is added to it later.

* No key is given a value twice, and no header names a table twice.
* A header may complete a table that only headers below it have implied. The table then takes its
  place anew, as the last of its parent.
* Keys with points add to tables that such keys have made, and to no others.
-/

namespace WebForm.Toml

/-- How a table came about. -/
inductive Origin where
  /-- By its own header. -/
  | defined
  /-- By the header of a table below it. -/
  | implied
  /-- By a key with points. -/
  | dotted
  deriving DecidableEq, Repr

/-- A part of a definition in the making. -/
inductive Node where
  /-- A finished value. -/
  | closed (value : Value)
  /-- A table. -/
  | table (origin : Origin) (entries : List (String × Node))
  /-- Tables under one name, each with a header in double brackets. -/
  | tables (items : List (List (String × Node)))

/-- The entries of a table in the making. -/
abbrev Entries := List (String × Node)

namespace Entries

/-- Put a node in the place of one that has the key. -/
def replace (key : String) (node : Node) (entries : Entries) : Entries :=
  entries.map fun e => if e.1 = key then (key, node) else e

/-- The entries without a key. -/
def remove (key : String) (entries : Entries) : Entries := entries.filter fun e => e.1 ≠ key

/-- Give a key its value in the table that a path of keys with points leads to. -/
def define : List String → String → Value → Entries → Option Entries
  | [], key, value, entries =>
    match entries.lookup key with
    | none => some (entries ++ [(key, .closed value)])
    | some _ => none
  | first :: path, key, value, entries =>
    match entries.lookup first with
    | none => (define path key value []).map fun below => entries ++ [(first, .table .dotted below)]
    | some (.closed _) => none
    | some (.table origin below) =>
      if origin = .defined ∨ (path = [] ∧ origin ≠ .dotted) then none
      else (define path key value below).map fun below =>
        replace first (.table origin below) entries
    | some (.tables items) =>
      match path, items.getLast? with
      | _ :: _, some below => (define path key value below).map fun below =>
        replace first (.tables (items.dropLast ++ [below])) entries
      | _, _ => none

/-- Change the table that a path of a header leads to: the last one of several under one name, and
a new one where there is none. -/
def change (f : Entries → Option Entries) : List String → Entries → Option Entries
  | [], entries => f entries
  | first :: path, entries =>
    match entries.lookup first with
    | none => (change f path []).map fun below => entries ++ [(first, .table .implied below)]
    | some (.closed _) => none
    | some (.table origin below) =>
      (change f path below).map fun below => replace first (.table origin below) entries
    | some (.tables items) =>
      match items.getLast? with
      | some below => (change f path below).map fun below =>
        replace first (.tables (items.dropLast ++ [below])) entries
      | none => none

/-- Start the table of a header. -/
def openTable (key : String) (entries : Entries) : Option Entries :=
  match entries.lookup key with
  | none => some (entries ++ [(key, .table .defined [])])
  | some (.table .implied below) => some (remove key entries ++ [(key, .table .defined below)])
  | some _ => none

/-- Start one more table of a header in double brackets. -/
def openItem (key : String) (entries : Entries) : Option Entries :=
  match entries.lookup key with
  | none => some (entries ++ [(key, .tables [[]])])
  | some (.tables items) => some (replace key (.tables (items ++ [[]])) entries)
  | some _ => none

end Entries

/-! ## Finished tables -/

mutual

/-- The value of a node. -/
def Node.value : Node → Value
  | .closed value => value
  | .table _ entries => .table (entryValues entries)
  | .tables items => .array (itemValues items)

/-- The values of entries. -/
def entryValues : Entries → List (String × Value)
  | [] => []
  | (key, node) :: entries => (key, node.value) :: entryValues entries

/-- The values of tables under one name. -/
def itemValues : List Entries → List Value
  | [] => []
  | entries :: items => .table (entryValues entries) :: itemValues items

end

/-! ## Statements -/

/-- A line of a definition. -/
inductive Statement where
  /-- The header of a table. -/
  | header (path : List String)
  /-- The header of one of several tables. -/
  | itemHeader (path : List String)
  /-- A key, with points or without, and its value. -/
  | pair (path : List String) (value : Value)

/-- What has been built, and the header that key-value lines belong to. -/
structure Builder where
  entries : Entries
  current : List String

namespace Builder

/-- Nothing built. -/
def empty : Builder := ⟨[], []⟩

/-- Take one more line. -/
def add (builder : Builder) : Statement → Option Builder
  | .header path => do
    let key ← path.getLast?
    let entries ← Entries.change (Entries.openTable key) path.dropLast builder.entries
    pure ⟨entries, path⟩
  | .itemHeader path => do
    let key ← path.getLast?
    let entries ← Entries.change (Entries.openItem key) path.dropLast builder.entries
    pure ⟨entries, path⟩
  | .pair path value => do
    let key ← path.getLast?
    let entries ←
      Entries.change (Entries.define path.dropLast key value) builder.current builder.entries
    pure ⟨entries, builder.current⟩

end Builder

/-- The entries that lines build. -/
def entriesOf? (statements : List Statement) : Option (List (String × Value)) :=
  (statements.foldlM Builder.add Builder.empty).map fun builder => entryValues builder.entries

end WebForm.Toml
