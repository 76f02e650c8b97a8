import Colloquy.Toml.Number
import Colloquy.Toml.Tree

/-!
# Reading TOML

A document is a list of lines that set keys, open tables and open elements of arrays of tables.
`Statement.readAll?` reads the lines, and `Toml.parse?` carries them out one after the other.

Values are read with a counter that every call lowers. Each call that goes on with the same text
is followed by one that takes a character, so three times the length of the text is enough.
-/

namespace Colloquy.Toml

/-- The number of arrays and inline tables that may nest. -/
def maxNesting : Nat := 79

/-- The number of parts that a dotted key may have. -/
def maxParts : Nat := 79

/-! ## Keys -/

/-- The characters of a key without quotes. -/
def isBare (c : Char) : Bool :=
  c.isAlphanum || c == '_' || c == '-'

/-- One part of a key. -/
def readKeyPart? (s : List Char) : Option (String × List Char) :=
  match s with
  | c :: _ =>
    if c = '"' ∨ c = '\x27' then (readShort? s).map fun (t, rest) => (String.ofList t, rest)
    else if isBare c then some (String.ofList (s.takeWhile isBare), s.dropWhile isBare)
    else none
  | [] => none

/-- The parts of a dotted key after those in `done`, the latest first. -/
def readParts? : Nat → List String → List Char → Option (List String × List Char)
  | 0, _, _ => none
  | n + 1, done, s =>
    match readKeyPart? (skipGap s) with
    | some (part, rest) =>
      match skipGap rest with
      | '.' :: rest => readParts? n (part :: done) rest
      | rest => some ((part :: done).reverse, rest)
    | none => none

/-- A dotted key: the parts before the last one, and the last one. -/
def readKey? (s : List Char) : Option ((List String × String) × List Char) :=
  match readParts? (s.length + 1) [] s with
  | some (parts, rest) =>
    match parts.getLast? with
    | some key => if parts.length ≤ maxParts then some ((parts.dropLast, key), rest) else none
    | none => none
  | none => none

/-! ## Comments -/

/-- What follows the rest of a comment on its line. -/
def afterComment? (s : List Char) : Option (List Char) :=
  match s.dropWhile isPlain with
  | [] => some []
  | rest => if (afterBreak? rest).isSome then some rest else none

/-- A text without the blanks, comments and line breaks it starts with, where a comment may be going
on. Comments end at a line break. -/
def skipLines? (inComment : Bool) : List Char → Option (List Char)
  | [] => if inComment then none else some []
  | '\n' :: rest => skipLines? false rest
  | '\r' :: '\n' :: rest => skipLines? false rest
  | c :: rest =>
    if inComment then
      if isPlain c then skipLines? true rest else none
    else if isGap c then skipLines? false rest
    else if c = '#' then skipLines? true rest
    else some (c :: rest)

/-- What follows the rest of a line that may only hold a comment. -/
def afterLine? (s : List Char) : Option (List Char) :=
  match skipGap s with
  | [] => some []
  | '#' :: rest =>
    match afterComment? rest with
    | some [] => some []
    | some rest => afterBreak? rest
    | none => none
  | rest => afterBreak? rest

/-! ## Values -/

mutual

/-- The value that a text starts with, where arrays and tables have `room` to nest. -/
def readValue? : Nat → Nat → List Char → Option (Toml × List Char)
  | 0, _, _ => none
  | n + 1, room, s =>
    match s with
    | '[' :: rest =>
      if room = 0 then none
      else
        match skipLines? false rest with
        | some (']' :: rest) => some (.arr [], rest)
        | some rest => readItems? n (room - 1) [] rest
        | none => none
    | '\x7b' :: rest =>
      if room = 0 then none
      else
        match skipGap rest with
        | '\x7d' :: rest => some (.table [], rest)
        | rest => readEntries? n (room - 1) [] rest
    | 't' :: 'r' :: 'u' :: 'e' :: rest => some (.bool true, rest)
    | 'f' :: 'a' :: 'l' :: 's' :: 'e' :: rest => some (.bool false, rest)
    | c :: rest =>
      if c = '"' ∨ c = '\x27' then
        (readText? (c :: rest)).map fun (t, rest) => (.str (String.ofList t), rest)
      else readNumeric? (c :: rest)
    | [] => none

/-- The items of an array up to its closing bracket, after those in `done`, the latest first. -/
def readItems? : Nat → Nat → List Toml → List Char → Option (Toml × List Char)
  | 0, _, _, _ => none
  | n + 1, room, done, s =>
    match readValue? n room s with
    | some (item, rest) =>
      match skipLines? false rest with
      | some (',' :: rest) =>
        match skipLines? false rest with
        | some (']' :: rest) => some (.arr (item :: done).reverse, rest)
        | some rest => readItems? n room (item :: done) rest
        | none => none
      | some (']' :: rest) => some (.arr (item :: done).reverse, rest)
      | _ => none
    | none => none

/-- The entries of an inline table up to its closing brace, put into those that are there. -/
def readEntries? : Nat → Nat → Tree.Entries → List Char → Option (Toml × List Char)
  | 0, _, _, _ => none
  | n + 1, room, entries, s =>
    match readKey? s with
    | some ((parts, key), '=' :: rest) =>
      match readValue? n room (skipGap rest) with
      | some (v, rest) =>
        match Tree.insert? key v parts entries with
        | some entries =>
          match skipGap rest with
          | ',' :: rest => readEntries? n room entries rest
          | '\x7d' :: rest => some (.table (Tree.entryValues entries), rest)
          | _ => none
        | none => none
      | none => none
    | _ => none

end

/-! ## Documents -/

/-- What one line of a document does. -/
inductive Statement where
  /-- Sets a dotted key in the table at hand. -/
  | set (parts : List String) (key : String) (value : Toml)
  /-- Opens a table. -/
  | openTable (parts : List String) (key : String)
  /-- Opens one more element of an array of tables. -/
  | openElement (parts : List String) (key : String)

namespace Statement

/-- The statement that a line starts with. -/
def read? : List Char → Option (Statement × List Char)
  | '[' :: '[' :: rest =>
    match readKey? rest with
    | some ((parts, key), ']' :: ']' :: rest) => some (.openElement parts key, rest)
    | _ => none
  | '[' :: rest =>
    match readKey? rest with
    | some ((parts, key), ']' :: rest) => some (.openTable parts key, rest)
    | _ => none
  | s =>
    match readKey? s with
    | some ((parts, key), '=' :: rest) =>
      (readValue? (3 * rest.length + 3) maxNesting (skipGap rest)).map fun (v, rest) =>
        (.set parts key v, rest)
    | _ => none

/-- The statements of a document after those in `done`, the latest first. -/
def readAll? : Nat → List Statement → List Char → Option (List Statement)
  | 0, _, _ => none
  | n + 1, done, s =>
    match skipGap s with
    | [] => some done.reverse
    | '#' :: rest =>
      match afterLine? ('#' :: rest) with
      | some rest => readAll? n done rest
      | none => none
    | rest =>
      match afterBreak? rest with
      | some rest => readAll? n done rest
      | none =>
        match read? rest with
        | some (statement, rest) =>
          match afterLine? rest with
          | some rest => readAll? n (statement :: done) rest
          | none => none
        | none => none

/-- What statements make of entries, where keys are set in the table at a path. -/
def run? (path : List String) (entries : Tree.Entries) : List Statement → Option Tree.Entries
  | [] => some entries
  | .set parts key v :: rest =>
    match Tree.changeAt? (Tree.insert? key v parts) path entries with
    | some entries => run? path entries rest
    | none => none
  | .openTable parts key :: rest =>
    match Tree.changeAt? (Tree.openTable? key) parts entries with
    | some entries => run? (parts ++ [key]) entries rest
    | none => none
  | .openElement parts key :: rest =>
    match Tree.changeAt? (Tree.openElement? key) parts entries with
    | some entries => run? (parts ++ [key]) entries rest
    | none => none

end Statement

/-- A text without the byte order mark it may start with. -/
def skipMark : List Char → List Char
  | '\ufeff' :: rest => rest
  | s => s

/-- The table that a whole document defines. -/
def parse? (s : String) : Option Toml :=
  let cs := skipMark s.toList
  match Statement.readAll? (cs.length + 1) [] cs with
  | some statements => (Statement.run? [] [] statements).map fun es => .table (Tree.entryValues es)
  | none => none

end Colloquy.Toml
