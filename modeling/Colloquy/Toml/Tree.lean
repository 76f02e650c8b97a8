import Colloquy.Toml.Basic

/-!
# Tables in the making

A TOML document defines its tables bit by bit. A tree remembers how each table came about, since
that decides what may still be added to it: a table with a header of its own is complete but for
tables under it; a table that only stands on the way to another may still get its header; a table
made by a dotted key may be extended by further dotted keys alone.
-/

namespace Colloquy.Toml

/-- How a table came about. -/
inductive Origin where
  /-- By its own header. -/
  | header
  /-- On the way to the table of some header. -/
  | path
  /-- By a dotted key. -/
  | dotted
deriving DecidableEq, Repr

/-- A value, a table in the making, or an array of such tables. -/
inductive Tree where
  | leaf (v : Toml)
  | table (origin : Origin) (entries : List (String × Tree))
  | tables (elements : List Tree)

namespace Tree

/-- The entries of a table in the making. -/
abbrev Entries := List (String × Tree)

/-- Entries with the value of a key replaced. -/
def replace (key : String) (value : Tree) (entries : Entries) : Entries :=
  entries.map fun e => if e.1 = key then (key, value) else e

/-- An array of tables with its last table changed. -/
def changeLast? (f : Entries → Option Entries) (elements : List Tree) : Option (List Tree) :=
  match elements.getLast? with
  | some (.table origin entries) =>
    (f entries).map fun entries => elements.dropLast ++ [.table origin entries]
  | _ => none

/-! ## Dotted keys -/

/-- Entries with a value under a dotted key, whose last part is `key`. Parts before it lead through
tables made by dotted keys, or past tables that have no header. -/
def insert? (key : String) (v : Toml) : List String → Entries → Option Entries
  | [], entries =>
    match entries.lookup key with
    | none => some (entries ++ [(key, .leaf v)])
    | some _ => none
  | part :: parts, entries =>
    match entries.lookup part with
    | none => (insert? key v parts []).map fun inner => entries ++ [(part, .table .dotted inner)]
    | some (.table .dotted inner) =>
      (insert? key v parts inner).map fun inner => replace part (.table .dotted inner) entries
    | some (.table .path inner) =>
      if parts = [] then none
      else (insert? key v parts inner).map fun inner => replace part (.table .path inner) entries
    | some (.tables elements) =>
      if parts = [] then none
      else
        (changeLast? (insert? key v parts) elements).map fun elements =>
          replace part (.tables elements) entries
    | some _ => none

/-! ## Headers -/

/-- Entries with those of the table at a path changed. Tables on the way that are missing are made;
in an array of tables the last one counts. -/
def changeAt? (f : Entries → Option Entries) : List String → Entries → Option Entries
  | [], entries => f entries
  | part :: parts, entries =>
    match entries.lookup part with
    | none => (changeAt? f parts []).map fun inner => entries ++ [(part, .table .path inner)]
    | some (.table origin inner) =>
      (changeAt? f parts inner).map fun inner => replace part (.table origin inner) entries
    | some (.tables elements) =>
      (changeLast? (changeAt? f parts) elements).map fun elements =>
        replace part (.tables elements) entries
    | some (.leaf _) => none

/-- Entries with a table that has a header. -/
def openTable? (key : String) (entries : Entries) : Option Entries :=
  match entries.lookup key with
  | none => some (entries ++ [(key, .table .header [])])
  | some (.table .path inner) => some (replace key (.table .header inner) entries)
  | some _ => none

/-- Entries with one more table in an array of tables. -/
def openElement? (key : String) (entries : Entries) : Option Entries :=
  match entries.lookup key with
  | none => some (entries ++ [(key, .tables [.table .header []])])
  | some (.tables elements) =>
    some (replace key (.tables (elements ++ [.table .header []])) entries)
  | some _ => none

/-! ## The value of a tree -/

mutual

/-- The value that a tree has become. -/
def value : Tree → Toml
  | .leaf v => v
  | .table _ entries => .table (entryValues entries)
  | .tables elements => .arr (values elements)

/-- The values of trees. -/
def values : List Tree → List Toml
  | [] => []
  | t :: rest => t.value :: values rest

/-- The entries of a table by their values. -/
def entryValues : Entries → List (String × Toml)
  | [] => []
  | (k, t) :: rest => (k, t.value) :: entryValues rest

end

end Tree

end Colloquy.Toml
