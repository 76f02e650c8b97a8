import Colloquy.Error

/-!
# Files and environment

What a program sees of the world around it: the files under given paths, and a few variables of its
environment.
-/

namespace Colloquy

/-- What is found under a path: nothing, a text, or something that cannot be read as text. -/
inductive FileEntry where
  | missing
  | unreadable
  | text (s : String)
deriving DecidableEq, Repr

/-- The files that a program sees. -/
abbrev Files := String → FileEntry

/-- The text of a file that has to be there. -/
def Files.read (files : Files) (path : String) : Except Fault String :=
  match files path with
  | .missing => .error .missing
  | .unreadable => .error .unreadable
  | .text s => .ok s

/-! ## Paths -/

namespace Path

/-- A name under a directory. -/
def join (directory name : String) : String :=
  if directory.isEmpty then name
  else if directory.toList.getLast? = some '/' then directory ++ name
  else directory ++ "/" ++ name

/-- A path, given backwards, without the slashes and the steps `.` at its end. -/
def dropTail : List Char → List Char
  | ['/'] => ['/']
  | '/' :: rest => dropTail rest
  | '.' :: '/' :: rest => dropTail ('/' :: rest)
  | s => s

/-- The path of a file with another name in the same directory. A path that does not end in a name
is a directory itself. -/
def sibling (path name : String) : String :=
  let trimmed := dropTail path.toList.reverse
  let last := trimmed.takeWhile (· != '/')
  if last = [] ∨ last = ['.'] ∨ last = ['.', '.'] then join path name
  else
    let directory := dropTail (trimmed.dropWhile (· != '/'))
    join (String.ofList directory.reverse) name

end Path

/-! ## Environment -/

/-- The variables of the environment that count. -/
structure Environment where
  home : Option String
  /-- The template to use. -/
  template : Option String
  /-- The cutoff to use. -/
  cutoff : Option String
  /-- The configuration file to use. -/
  config : Option String
deriving DecidableEq, Repr

/-- The configuration file when none is chosen. -/
def Environment.configPath (env : Environment) : String :=
  Path.join (Path.join (env.home.getD "/tmp") ".promptloom") "config.toml"

end Colloquy
