import Colloquy.Text.Blank
import Colloquy.Text.Word
import Colloquy.Tokenizer.Configured

/-!
# Word tokenizers

A tokenizer that splits a text into words and looks each of them up in a vocabulary. Tokens that
were added are cut out of the text first; at each place the longest one counts. A word that is not
in the vocabulary gives the id of the token for unknown words, if the vocabulary has that.
-/

namespace Colloquy

/-- How a text is split into words. -/
inductive Splitting where
  /-- It is one word. -/
  | whole
  /-- Words stand between blanks. -/
  | blanks
  /-- Words are runs of word characters and runs of other characters that are not blank. -/
  | words
deriving DecidableEq, Repr

/-- A vocabulary of words. -/
structure Words where
  /-- The words with their ids. -/
  vocab : List (String × TokenId)
  /-- The word whose id unknown words get. -/
  unknownWord : String
  splitting : Splitting
  /-- The added tokens with their ids. -/
  added : List (String × TokenId)
deriving DecidableEq, Repr

/-- A tokenizer that looks words up in a vocabulary. -/
abbrev WordLevel := Configured Words

namespace WordLevel

-- A word tokenizer is asked for its chat template by the name of its own kind, too.
export Configured (chatTemplate)

end WordLevel

namespace Words

/-! ## The vocabulary -/

/-- The ids are the numbers below this one. -/
def idLimit : Nat := 0x100000000

/-- The id of a token, if it has one. -/
def id? (words : Words) (token : String) : Option TokenId :=
  (words.added.lookup token).or (words.vocab.lookup token)

/-- The number of different tokens. -/
def size (words : Words) : Nat :=
  words.vocab.length + (words.added.filter fun t => (words.vocab.lookup t.1).isNone).length

/-- The id for a token that has none yet: the number of words, or the id after the largest one of an
added token if that is more. The id after the largest of all is 0, so from there on tokens may share
an id. -/
def nextId (words : Words) : TokenId :=
  let afterAdded := match (words.added.map (·.2)).max? with
    | none => 0
    | some top => top + 1
  max words.vocab.length afterAdded % idLimit

/-- A vocabulary with one more added token. An empty one and one that was added before change
nothing; a word of the vocabulary keeps its id. -/
def add (words : Words) (token : String) : Words :=
  if token.isEmpty ∨ (words.added.lookup token).isSome then words
  else { words with added := words.added ++ [(token, (words.vocab.lookup token).getD words.nextId)] }

/-- A vocabulary with more added tokens. -/
def addAll (words : Words) (tokens : List String) : Words :=
  tokens.foldl add words

/-! ## Encoding -/

/-- The added tokens with their ids. -/
def entries (words : Words) : List Tokenizer.Entry :=
  words.added.map fun t => (t.1.toList, t.2)

/-- The class of a character: blanks part words, and characters of different classes belong to
different words. -/
def charClass (splitting : Splitting) (c : Char) : Nat :=
  match splitting with
  | .whole => 1
  | .blanks => if Text.isBlank c then 0 else 1
  | .words => if Text.isBlank c then 0 else if Text.isWord c then 1 else 2

/-- The words of a text. -/
def wordsOf (splitting : Splitting) (s : List Char) : List (List Char) :=
  (s.splitBy fun a b => charClass splitting a == charClass splitting b).filter fun run =>
    run.any (charClass splitting · != 0)

/-- The id of a word. -/
def wordId (words : Words) (word : List Char) : Except TokenizerError TokenId :=
  match (words.vocab.lookup (String.ofList word)).or (words.vocab.lookup words.unknownWord) with
  | some id => .ok id
  | none => .error .noUnknownToken

/-- The ids of a part. -/
def partIds (words : Words) : Tokenizer.Part → Except TokenizerError (List TokenId)
  | .token id => .ok [id]
  | .text s => (wordsOf words.splitting s).mapM words.wordId

/-- The ids of a text. -/
def encode (words : Words) (s : String) : Except TokenizerError (List TokenId) :=
  return (← (Tokenizer.cutTokens words.entries s.toList).mapM words.partIds).flatten

instance : Vocabulary Words where
  encode := encode
  id? := id?
  size := size
  addAll := addAll

end Words

end Colloquy
