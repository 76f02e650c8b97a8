import Mathlib.Data.List.Forall2
import Colloquy.Proofs.Jinja.Reader

/-!
# Statements and strings of a template

What can be seen of a template without reading its expressions: which statement each of its tags is,
by the word it begins with (`outline?`), and the texts of the strings in them (`strings?`). A text
between two tags is no statement.

What is written for a program shows the statements of the program and the strings of its
expressions, whatever stands in them (`outline?_writeAll`, `strings?_writeAll`).
-/

namespace Colloquy.Jinja

/-- The statements that a tag may be. -/
inductive Statement where
  | set
  | output
  | cond
  | other
  | endCond
  | each
  | endEach
deriving DecidableEq, Repr

/-- The statements by the words that their tags begin with. -/
def statements : List (Token × Statement) :=
  [(keyword "set", .set), (keyword "if", .cond), (keyword "elif", .other),
    (keyword "endif", .endCond), (keyword "for", .each), (keyword "endfor", .endEach)]

/-- The statement that a part of a template is. A text outside of tags is none. -/
def Chunk.statement? : Chunk → Option Statement
  | .text _ => none
  | .output _ => some .output
  | .tag tokens => tokens.head?.bind fun t => statements.lookup t

/-- The statements of a template that has nothing between them. -/
def outline? (s : List Char) : Option (List Statement) :=
  (chunks? s).bind fun chunks => chunks.mapM Chunk.statement?

/-- The text of a string. -/
def Token.str? : Token → Option (List Char)
  | .str s => some s
  | _ => none

/-- The texts of the strings in a part of a template, in order. -/
def Chunk.strings : Chunk → List (List Char)
  | .text _ => []
  | .tag tokens => tokens.filterMap Token.str?
  | .output tokens => tokens.filterMap Token.str?

/-- The texts of the strings in a template, in order. -/
def strings? (s : List Char) : Option (List (List Char)) :=
  (chunks? s).map fun chunks => chunks.flatMap Chunk.strings

/-! ## Strings of expressions -/

/-- The texts in an expression, in order. -/
def Expr.strings : Expr → List (List Char)
  | text s => [s.toList]
  | number _ => []
  | var _ => []
  | item e key => e.strings ++ key.strings
  | field e _ => e.strings
  | join a b => a.strings ++ b.strings
  | equal a b => a.strings ++ b.strings
  | both a b => a.strings ++ b.strings
  | isDefined a => a.strings
  | choose yes test no => yes.strings ++ test.strings ++ no.strings

theorem filterMap_str?_tokens (e : Expr) : e.tokens.filterMap Token.str? = e.strings := by
  induction e with
  | text s => rfl
  | number n => rfl
  | var name => rfl
  | item e key ihe ihk =>
    simp [Expr.tokens, Expr.strings, List.filterMap_cons, Token.str?, ihe, ihk]
  | field e name ih => simp [Expr.tokens, Expr.strings, Token.str?, ih]
  | join a b iha ihb =>
    simp [Expr.tokens, Expr.strings, List.filterMap_cons, Token.str?, iha, ihb]
  | equal a b iha ihb =>
    simp [Expr.tokens, Expr.strings, List.filterMap_cons, Token.str?, iha, ihb]
  | both a b iha ihb =>
    simp [Expr.tokens, Expr.strings, List.filterMap_cons, Token.str?, keyword, iha, ihb]
  | isDefined a ih => simp [Expr.tokens, Expr.strings, Token.str?, keyword, ih]
  | choose yes test no ihy iht ihn =>
    simp [Expr.tokens, Expr.strings, List.filterMap_cons, Token.str?, keyword, ihy, iht, ihn]

theorem strings_foldl_join (rest : List Expr) (e : Expr) :
    (rest.foldl .join e).strings = e.strings ++ rest.flatMap Expr.strings := by
  induction rest generalizing e with
  | nil => simp
  | cons f rest ih =>
    rw [List.foldl_cons, ih, Expr.strings, List.flatMap_cons, List.append_assoc]

/-- Joined expressions have their strings one after the other; joining none makes an empty one. -/
theorem strings_joinAll (items : List Expr) :
    (Expr.joinAll items).strings = if items = [] then [[]] else items.flatMap Expr.strings := by
  cases items with
  | nil => rfl
  | cons e rest => exact strings_foldl_join rest e

/-! ## Statements and strings of programs -/

namespace Tag

/-- The statement of a tag. -/
def statement : Tag → Statement
  | set _ _ => .set
  | output _ => .output
  | cond _ => .cond
  | other _ => .other
  | endCond => .endCond
  | each _ _ => .each
  | endEach => .endEach

/-- The texts in a tag, in order. -/
def strings : Tag → List (List Char)
  | set _ value => value.strings
  | output value => value.strings
  | cond test => test.strings
  | other test => test.strings
  | endCond => []
  | each _ sequence => sequence.strings
  | endEach => []

end Tag

/-- The texts in a program, in order. -/
def stringsOfAll (p : List Stmt) : List (List Char) :=
  (tagsOfAll p).flatMap Tag.strings

theorem stringsOfAll_append (p q : List Stmt) :
    stringsOfAll (p ++ q) = stringsOfAll p ++ stringsOfAll q := by
  induction p with
  | nil => rfl
  | cons s p ih =>
    unfold stringsOfAll at ih ⊢
    rw [List.cons_append, tagsOfAll, tagsOfAll, List.flatMap_append, List.flatMap_append, ih,
      List.append_assoc]

theorem stringsOfAll_cons (s : Stmt) (p : List Stmt) :
    stringsOfAll (s :: p) = s.tags.flatMap Tag.strings ++ stringsOfAll p := by
  rw [stringsOfAll, tagsOfAll, List.flatMap_append]
  rfl

theorem strings_cond (test : Expr) (body : List Stmt) :
    (Stmt.cond test body []).tags.flatMap Tag.strings = test.strings ++ stringsOfAll body := by
  simp [Stmt.tags, tagsOfOthers, Tag.strings, stringsOfAll]

theorem strings_each (name : String) (sequence : Expr) (body : List Stmt) :
    (Stmt.each name sequence body).tags.flatMap Tag.strings =
      sequence.strings ++ stringsOfAll body := by
  simp [Stmt.tags, Tag.strings, stringsOfAll]

/-- A part of a template shows the statement and the texts of a tag. -/
structure Shows (chunk : Chunk) (tag : Tag) : Prop where
  statement : chunk.statement? = some tag.statement
  strings : chunk.strings = tag.strings

/-- A part that shows a tag, ahead of parts that show tags. -/
theorem shows_cons {chunk : Chunk} {tag : Tag} {chunks : List Chunk} {tags : List Tag}
    (statement : chunk.statement? = some tag.statement) (strings : chunk.strings = tag.strings)
    (rest : List.Forall₂ Shows chunks tags) : List.Forall₂ Shows (chunk :: chunks) (tag :: tags) :=
  .cons ⟨statement, strings⟩ rest

mutual

theorem shows_stmt : ∀ s : Stmt, List.Forall₂ Shows s.chunks s.tags
  | .set _ value => shows_cons rfl (filterMap_str?_tokens value) .nil
  | .output value => shows_cons rfl (filterMap_str?_tokens value) .nil
  | .cond test body others =>
    shows_cons rfl (filterMap_str?_tokens test)
      (List.rel_append (List.rel_append (shows_all body) (shows_others others))
        (shows_cons rfl rfl .nil))
  | .each _ sequence body =>
    shows_cons rfl (filterMap_str?_tokens sequence)
      (List.rel_append (shows_all body) (shows_cons rfl rfl .nil))

theorem shows_all : ∀ p : List Stmt, List.Forall₂ Shows (chunksOfAll p) (tagsOfAll p)
  | [] => .nil
  | s :: rest => List.rel_append (shows_stmt s) (shows_all rest)

theorem shows_others : ∀ others : List (Expr × List Stmt),
    List.Forall₂ Shows (chunksOfOthers others) (tagsOfOthers others)
  | [] => .nil
  | (test, body) :: rest =>
    shows_cons rfl (filterMap_str?_tokens test)
      (List.rel_append (shows_all body) (shows_others rest))

end

theorem mapM_statement? {chunks : List Chunk} {tags : List Tag}
    (h : List.Forall₂ Shows chunks tags) :
    chunks.mapM Chunk.statement? = some (tags.map Tag.statement) := by
  induction h with
  | nil => rfl
  | cons first _ ih =>
    rw [List.mapM_cons, first.statement, ih]
    rfl

theorem flatMap_strings {chunks : List Chunk} {tags : List Tag}
    (h : List.Forall₂ Shows chunks tags) :
    chunks.flatMap Chunk.strings = tags.flatMap Tag.strings := by
  induction h with
  | nil => rfl
  | cons first _ ih => rw [List.flatMap_cons, List.flatMap_cons, first.strings, ih]

/-- What is written for a program shows its statements. -/
theorem outline?_writeAll {p : List Stmt} (h : AllHaveWords p) :
    outline? (writeAll p) = some ((tagsOfAll p).map Tag.statement) := by
  rw [outline?, chunks?_writeAll h, Option.bind_some, mapM_statement? (shows_all p)]

/-- What is written for a program has the texts of its expressions as strings. -/
theorem strings?_writeAll {p : List Stmt} (h : AllHaveWords p) :
    strings? (writeAll p) = some (stringsOfAll p) := by
  rw [strings?, chunks?_writeAll h, Option.map_some, flatMap_strings (shows_all p), stringsOfAll]

end Colloquy.Jinja
