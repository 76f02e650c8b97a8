import Colloquy.Text.Blank
import Colloquy.Text.Search

/-!
# Action blocks

A model that uses a tool answers with a block `Action: name`, then anything, then `Action Input:`
and the input, which runs to the end of the answer. `find?` looks for the first place where such a
block starts: after the mark `Action:` and ASCII blanks stands a name of ASCII letters, digits and
low lines. Of the word there the longest beginning is the name after which the mark `Action Input:`
still follows; the input starts at the first such mark.
-/

namespace Colloquy.Tool.ActionBlock

/-- The mark before a name. -/
def nameMark : List Char := "Action:".toList

/-- The mark before an input. -/
def inputMark : List Char := "Action Input:".toList

/-- The characters of a name. -/
def isNameChar (c : Char) : Bool :=
  c.isAlphanum || c == '_'

/-- The longest beginning of a word after which the input mark follows, and what follows that mark
and the blanks after it. The word is given backwards; `after` is what follows it. -/
def shrink? : List Char → List Char → Option (List Char × List Char)
  | [], _ => none
  | c :: word, after =>
    match Text.cut? inputMark after with
    | some (_, input) => some ((c :: word).reverse, input.dropWhile Text.isAsciiBlank)
    | none => shrink? word (c :: after)

/-- The name and the input of a block that starts with what follows the name mark. -/
def afterMark? (s : List Char) : Option (List Char × List Char) :=
  let s := s.dropWhile Text.isAsciiBlank
  shrink? (s.takeWhile isNameChar).reverse (s.dropWhile isNameChar)

/-- The name and the input of a block at the start of a text. -/
def at? (s : List Char) : Option (List Char × List Char) :=
  (Text.afterStart? nameMark s).bind afterMark?

/-- The name and the input of the first block in a text. -/
def find? : List Char → Option (List Char × List Char)
  | [] => none
  | c :: cs =>
    match at? (c :: cs) with
    | some block => some block
    | none => find? cs

end Colloquy.Tool.ActionBlock
