import Colloquy.Text.Search

/-!
# Placeholders

A placeholder is a name between two pairs of braces. The name consists of ASCII letters, digits and
low lines and does not start with a digit. `Placeholder.names` lists the placeholders of a text;
no two of them overlap, since a name holds no brace.
-/

namespace Colloquy.Placeholder

/-- The placeholder with a given name. -/
def mark (name : String) : List Char :=
  ['\x7b', '\x7b'] ++ name.toList ++ ['\x7d', '\x7d']

/-- What a turn says. -/
def content : List Char := mark "content"

/-- The number of a round. -/
def idx : List Char := mark "idx"

/-- The name of a called tool. -/
def name : List Char := mark "name"

/-- The arguments of a call. -/
def arguments : List Char := mark "arguments"

/-- The characters that a name starts with. -/
def isNameStart (c : Char) : Bool :=
  c.isAlpha || c == '_'

/-- The characters of a name. -/
def isNameChar (c : Char) : Bool :=
  c.isAlphanum || c == '_'

/-- The name of the placeholder that a text starts with. -/
def nameAt? : List Char → Option (List Char)
  | '\x7b' :: '\x7b' :: c :: cs =>
    if isNameStart c && (Text.afterStart? ['\x7d', '\x7d'] (cs.dropWhile isNameChar)).isSome then
      some (c :: cs.takeWhile isNameChar)
    else none
  | _ => none

/-- The names of the placeholders in a text, in order. -/
def names : List Char → List (List Char)
  | [] => []
  | c :: cs =>
    match nameAt? (c :: cs) with
    | some n => n :: names cs
    | none => names cs

/-- Whether a text holds a placeholder. -/
def occurs (s : List Char) : Bool :=
  !(names s).isEmpty

end Colloquy.Placeholder
