import Colloquy.Budget
import Colloquy.Text.Search

/-!
# Cutting tokens out of a text

Some tokens are recognised wherever they occur in a text. `cutTokens` goes through a text from left
to right; where tokens occur it takes the longest one and goes on behind it.
-/

namespace Colloquy.Tokenizer

/-- A token and its id. -/
abbrev Entry := List Char × TokenId

/-- A part of a text: a token, or the text between two of them. -/
inductive Part where
  | token (id : TokenId)
  | text (s : List Char)
deriving DecidableEq, Repr

/-- The longer of two tokens. -/
def longer (a b : Entry) : Entry :=
  if a.1.length < b.1.length then b else a

/-- Whether a text starts with a token. The empty token is not recognised. -/
def startsWith (s : List Char) (e : Entry) : Bool :=
  !e.1.isEmpty && (Text.afterStart? e.1 s).isSome

/-- The longest token that a text starts with. -/
def longestAt? (entries : List Entry) (s : List Char) : Option Entry :=
  match entries.filter (startsWith s) with
  | [] => none
  | e :: rest => some (rest.foldl longer e)

/-- The parts of a text after those in `done`, the latest first. `skip` characters still belong to
the last token, and `piece` holds the characters since it, the latest first. -/
def cutFrom (entries : List Entry) : Nat → List Part → List Char → List Char → List Part
  | _, done, piece, [] => (Part.text piece.reverse :: done).reverse
  | skip + 1, done, piece, _ :: cs => cutFrom entries skip done piece cs
  | 0, done, piece, c :: cs =>
    match longestAt? entries (c :: cs) with
    | some (t, id) =>
      cutFrom entries (t.length - 1) (.token id :: .text piece.reverse :: done) [] cs
    | none => cutFrom entries 0 done (c :: piece) cs

/-- The parts of a text: tokens and what stands between them. -/
def cutTokens (entries : List Entry) (s : List Char) : List Part :=
  cutFrom entries 0 [] [] s

/-- Tokens with one more at the end, unless it is among them. -/
def appendNew (tokens : List String) (token : String) : List String :=
  if token ∈ tokens then tokens else tokens ++ [token]

end Colloquy.Tokenizer
