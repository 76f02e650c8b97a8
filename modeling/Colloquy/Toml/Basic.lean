import Colloquy.Json.Basic

/-!
# TOML values

A TOML value with the entries of tables in the order of the text. Floats and date-times are kept as
they are written. Integers have 64 bits with a sign.
-/

namespace Colloquy

inductive Toml where
  | str (s : String)
  | int (n : Int)
  | float (text : String)
  | bool (b : Bool)
  | time (text : String)
  | arr (items : List Toml)
  | table (entries : List (String × Toml))
deriving Inhabited

namespace Toml

/-- The integers that TOML can write. -/
def isInt64 (n : Int) : Bool :=
  -0x8000000000000000 ≤ n && n < 0x8000000000000000

/-! ## As JSON -/

mutual

/-- A TOML value as data: floats lose their value, and a date-time becomes an object with its text
as the one member. -/
def toJson : Toml → Json
  | .str s => .str s
  | .int n => .int n
  | .float _ => .float 0
  | .bool b => .bool b
  | .time text => .obj [("datetime", .str text)]
  | .arr items => .arr (itemsToJson items)
  | .table entries => .obj (entriesToJson entries)

/-- The items of an array as data. -/
def itemsToJson : List Toml → List Json
  | [] => []
  | v :: rest => v.toJson :: itemsToJson rest

/-- The entries of a table as data. -/
def entriesToJson : List (String × Toml) → List (String × Json)
  | [] => []
  | (k, v) :: rest => (k, v.toJson) :: entriesToJson rest

end

mutual

/-- The TOML value of data that holds no `null`, no float and no integer outside 64 bits. -/
def ofJson? : Json → Option Toml
  | .null => none
  | .bool b => some (.bool b)
  | .int n => if isInt64 n then some (.int n) else none
  | .float _ => none
  | .str s => some (.str s)
  | .arr items => (itemsOfJson? items).map .arr
  | .obj members => (entriesOfJson? members).map .table

/-- The TOML values of the items of an array. -/
def itemsOfJson? : List Json → Option (List Toml)
  | [] => some []
  | v :: rest =>
    match ofJson? v, itemsOfJson? rest with
    | some v, some rest => some (v :: rest)
    | _, _ => none

/-- The entries of a table from the members of an object. -/
def entriesOfJson? : List (String × Json) → Option (List (String × Toml))
  | [] => some []
  | (k, v) :: rest =>
    match ofJson? v, entriesOfJson? rest with
    | some v, some rest => some ((k, v) :: rest)
    | _, _ => none

end

end Toml

end Colloquy
