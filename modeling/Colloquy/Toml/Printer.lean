import Colloquy.Toml.Basic
import Colloquy.Toml.Reader

/-!
# Writing TOML

A table is written with its plain entries first, one on a line, and then the tables in it, each
under a header after an empty line. A nonempty array of tables alone becomes an array of tables with
headers; any other array is written in brackets, over several lines when it has two items or more.

A string takes the plainest form that fits it: quotation marks without escapes, apostrophes, three
quotation marks without backslashes, three apostrophes, and at last quotation marks with escapes.
-/

namespace Colloquy.Toml

/-! ## Strings -/

/-- Whether a character needs an escape in every form: a control other than tab and line feed. -/
def isControl (c : Char) : Bool :=
  (c.toNat < 0x20 || c.toNat == 0x7f) && c != '\t' && c != '\n'

/-- The length of the longest run of a character, where a run of `run` characters has just been
passed and `best` is the longest before it. -/
def longestRunFrom (mark : Char) : Nat → Nat → List Char → Nat
  | run, best, [] => max run best
  | run, best, c :: cs =>
    if c = mark then longestRunFrom mark (run + 1) best cs
    else longestRunFrom mark 0 (max run best) cs

/-- The length of the longest run of a character. -/
def longestRun (mark : Char) (s : List Char) : Nat :=
  longestRunFrom mark 0 0 s

/-- A form of a string. -/
inductive Style where
  | basic
  | literal
  | longBasic
  | longLiteral
deriving DecidableEq, Repr

/-- The form of a string: the first that needs no escape, or else one with escapes. -/
def styleOf (s : List Char) : Style :=
  let controls := s.any isControl
  let backslash := s.contains '\\'
  let lines := s.contains '\n'
  if !controls && !backslash && !s.contains '"' && !lines then .basic
  else if !controls && !s.contains '\x27' && !lines then .literal
  else if !controls && !backslash && longestRun '"' s ≤ 2 then .longBasic
  else if !controls && longestRun '\x27' s ≤ 2 then .longLiteral
  else if lines then .longBasic
  else .basic

/-- A character of a string with escapes, other than the quotation mark and the line feed. -/
def escape (c : Char) : List Char :=
  if c = '\x08' then ['\\', 'b']
  else if c = '\t' then ['\\', 't']
  else if c = '\x0c' then ['\\', 'f']
  else if c = '\r' then ['\\', 'r']
  else if c = '\\' then ['\\', '\\']
  else if isControl c then
    ['\\', 'u', '0', '0'] ++ (Nat.toDigits 16 (c.toNat / 16) ++ Nat.toDigits 16 (c.toNat % 16)).map
      Char.toUpper
  else [c]

/-- The characters of a string between quotation marks. -/
def escapeShort (s : List Char) : List Char :=
  s.flatMap fun c =>
    if c = '"' then ['\\', '"'] else if c = '\n' then ['\\', 'n'] else escape c

/-- The characters of a string between three quotation marks, where `run` quotation marks have just
been passed since the last escape. The third one in a row is escaped. -/
def escapeLong : Nat → List Char → List Char
  | _, [] => []
  | run, c :: cs =>
    if c = '"' then
      if run = 2 then '\\' :: '"' :: escapeLong 0 cs else '"' :: escapeLong (run + 1) cs
    else if c = '\n' then '\n' :: escapeLong 0 cs
    else escape c ++ escapeLong 0 cs

/-- The line break after three marks, which a string of several lines has. -/
def openingBreak (s : List Char) : List Char :=
  if s.contains '\n' then ['\n'] else []

/-- A string. -/
def writeText (s : List Char) : List Char :=
  match styleOf s with
  | .basic => '"' :: escapeShort s ++ ['"']
  | .literal => '\x27' :: s ++ ['\x27']
  | .longBasic => ['"', '"', '"'] ++ openingBreak s ++ escapeLong 0 s ++ ['"', '"', '"']
  | .longLiteral =>
    ['\x27', '\x27', '\x27'] ++ openingBreak s ++ s ++ ['\x27', '\x27', '\x27']

/-- A key: as it is when it may stand without quotes. -/
def writeKey (key : String) : List Char :=
  if !key.isEmpty && key.toList.all isBare then key.toList else writeText key.toList

/-! ## Values -/

/-- An integer. -/
def writeInt (n : Int) : List Char :=
  if n < 0 then '-' :: Nat.toDigits 10 n.natAbs else Nat.toDigits 10 n.natAbs

mutual

/-- A value on the right of a key. -/
def writeValue : Toml → List Char
  | .str s => writeText s.toList
  | .int n => writeInt n
  | .float text => text.toList
  | .bool b => if b then "true".toList else "false".toList
  | .time text => text.toList
  | .arr [] => ['[', ']']
  | .arr [v] => '[' :: v.writeValue ++ [']']
  | .arr (v :: w :: rest) =>
    '[' :: '\n' :: "    ".toList ++ v.writeValue ++ ',' :: '\n' :: "    ".toList ++ w.writeValue ++
      ',' :: '\n' :: writeItems rest ++ [']']
  | .table [] => ['\x7b', '\x7d']
  | .table ((k, v) :: rest) =>
    '\x7b' :: ' ' :: writeKey k ++ " = ".toList ++ v.writeValue ++ writeEntries rest ++
      [' ', '\x7d']

/-- Items of an array, each on a line of its own. -/
def writeItems : List Toml → List Char
  | [] => []
  | v :: rest => "    ".toList ++ v.writeValue ++ ',' :: '\n' :: writeItems rest

/-- The entries of an inline table after the first. -/
def writeEntries : List (String × Toml) → List Char
  | [] => []
  | (k, v) :: rest => ", ".toList ++ writeKey k ++ " = ".toList ++ v.writeValue ++ writeEntries rest

end

/-! ## Tables -/

/-- A dotted key. -/
def writePath (path : List String) : List Char :=
  ['.'].intercalate (path.map writeKey)

/-- Whether a value is a table. -/
def isTable : Toml → Bool
  | .table _ => true
  | _ => false

/-- Whether a value is written under headers: a table, or a nonempty array of tables. -/
def hasHeaders : Toml → Bool
  | .table _ => true
  | .arr items => !items.isEmpty && items.all isTable
  | _ => false

/-- The entries that are written in lines of their own. -/
def writePlain (entries : List (String × Toml)) : List Char :=
  (entries.filter fun e => !hasHeaders e.2).flatMap fun e =>
    writeKey e.1 ++ " = ".toList ++ writeValue e.2 ++ ['\n']

mutual

/-- A value at a path, as far as it is written under headers. -/
def writeSection (path : List String) : Toml → List Char
  | .table entries =>
    "\n[".toList ++ writePath path ++ "]\n".toList ++ writePlain entries ++
      writeSections path entries
  | .arr items =>
    if hasHeaders (.arr items) then writeElements path items else []
  | _ => []

/-- The entries of a table that are written under headers. -/
def writeSections (path : List String) : List (String × Toml) → List Char
  | [] => []
  | (k, v) :: rest => v.writeSection (path ++ [k]) ++ writeSections path rest

/-- The tables of an array. -/
def writeElements (path : List String) : List Toml → List Char
  | [] => []
  | .table entries :: rest =>
    "\n[[".toList ++ writePath path ++ "]]\n".toList ++ writePlain entries ++
      writeSections path entries ++ writeElements path rest
  | _ :: rest => writeElements path rest

end

/-- A whole document. -/
def write (entries : List (String × Toml)) : String :=
  String.ofList (writePlain entries ++ writeSections [] entries)

end Colloquy.Toml
