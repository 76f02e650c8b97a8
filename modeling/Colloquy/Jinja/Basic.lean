/-!
# Jinja programs

The part of the Jinja language in which chat templates are written: expressions over texts and the
messages of a dialogue, and the statements `set`, `if`, `for` and output. `Jinja.write` writes a
program as the text of a template, with nothing between its tags.
-/

namespace Colloquy.Jinja

/-- An expression. -/
inductive Expr where
  | text (s : String)
  | number (n : Nat)
  | var (name : String)
  /-- An item of a sequence, or the value under a key. -/
  | item (of key : Expr)
  /-- A field with a fixed name. -/
  | field (of : Expr) (name : String)
  /-- Two texts joined. -/
  | join (a b : Expr)
  | equal (a b : Expr)
  | both (a b : Expr)
  | isDefined (a : Expr)
  /-- The first expression if the second holds, otherwise the third. -/
  | choose (yes test no : Expr)
deriving DecidableEq, Repr

/-- A statement. -/
inductive Stmt where
  | set (name : String) (value : Expr)
  | output (value : Expr)
  /-- The body of the first test that holds, if any: the test, its body, and the further tests with
  their bodies. -/
  | cond (test : Expr) (body : List Stmt) (others : List (Expr × List Stmt))
  /-- The body for each item of a sequence. -/
  | each (name : String) (sequence : Expr) (body : List Stmt)

/-- Texts joined from left to right; the empty text when there are none. -/
def Expr.joinAll : List Expr → Expr
  | [] => .text ""
  | e :: rest => rest.foldl .join e

/-! ## Writing -/

/-- A character as it stands in a string. -/
def escape (c : Char) : List Char :=
  if c = '\\' then ['\\', '\\']
  else if c = '\'' then ['\\', '\'']
  else [c]

/-- A text as a string. -/
def quote (s : List Char) : List Char :=
  '\'' :: s.flatMap escape ++ ['\'']

/-- An expression. -/
def Expr.write : Expr → List Char
  | text s => quote s.toList
  | number n => Nat.toDigits 10 n
  | var name => name.toList
  | item e key => e.write ++ '[' :: key.write ++ [']']
  | field e name => e.write ++ '.' :: name.toList
  | join a b => a.write ++ " + ".toList ++ b.write
  | equal a b => a.write ++ " == ".toList ++ b.write
  | both a b => a.write ++ " and ".toList ++ b.write
  | isDefined a => a.write ++ " is defined".toList
  | choose yes test no =>
    '(' :: yes.write ++ " if ".toList ++ test.write ++ " else ".toList ++ no.write ++ [')']

/-- A tag that holds a statement. -/
def tag (s : List Char) : List Char :=
  "\x7b% ".toList ++ s ++ " %\x7d".toList

mutual

/-- A statement. -/
def Stmt.write : Stmt → List Char
  | .set name value => tag ("set ".toList ++ name.toList ++ " = ".toList ++ value.write)
  | .output value => "\x7b\x7b ".toList ++ value.write ++ " \x7d\x7d".toList
  | .cond test body others =>
    tag ("if ".toList ++ test.write) ++ writeAll body ++ writeOthers others ++ tag "endif".toList
  | .each name sequence body =>
    tag ("for ".toList ++ name.toList ++ " in ".toList ++ sequence.write) ++ writeAll body ++
      tag "endfor".toList

/-- Statements one after the other. -/
def writeAll : List Stmt → List Char
  | [] => []
  | s :: rest => s.write ++ writeAll rest

/-- The further tests of a condition with their bodies. -/
def writeOthers : List (Expr × List Stmt) → List Char
  | [] => []
  | (test, body) :: rest =>
    tag ("elif ".toList ++ test.write) ++ writeAll body ++ writeOthers rest

end

/-- The text of a program. -/
def write (program : List Stmt) : String :=
  String.ofList (writeAll program)

end Colloquy.Jinja
