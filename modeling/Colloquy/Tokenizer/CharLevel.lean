import Colloquy.Tokenizer.Basic
import Colloquy.Tokenizer.Cutting

/-!
# Character tokenizers

A tokenizer with a small vocabulary of special tokens, numbered from 1 in the order in which they
came. Where a text has a token of the vocabulary, the longest one gives its id; any other character
gives an id of its own. `decode` turns ids back into text.
-/

namespace Colloquy

/-- A tokenizer that takes a text character by character, save for special tokens. -/
structure CharLevel where
  /-- The special tokens in the order of their ids. -/
  vocab : List String
  /-- The tokens that were added after the tokenizer was made. -/
  additional : List String
  bosToken : Option String
  eosToken : Option String
  padToken : Option String
  chatTemplate : Option String
  /-- Whether chat templates are refused. -/
  refusesTemplates : Bool
deriving DecidableEq, Repr

namespace CharLevel

/-- A tokenizer without special tokens. -/
def empty : CharLevel := ⟨[], [], none, none, none, none, false⟩

/-- The id of a token that is not in the vocabulary. -/
def unknownId : TokenId := 0

/-- The id of the character with code point 0. -/
def charBase : TokenId := 10000

/-! ## The vocabulary -/

/-- A tokenizer with one more token, unless it has it already. -/
def intern (tok : CharLevel) (token : String) : CharLevel :=
  if token ∈ tok.vocab then tok else { tok with vocab := tok.vocab ++ [token] }

/-- A tokenizer with more tokens. -/
def internAll (tok : CharLevel) (tokens : List String) : CharLevel :=
  tokens.foldl intern tok

/-- The id of a token, or that of unknown tokens. -/
def idOf (tok : CharLevel) (token : String) : TokenId :=
  match tok.vocab.idxOf? token with
  | some i => i + 1
  | none => unknownId

/-- A tokenizer with a token that begins a sequence. -/
def withBos (tok : CharLevel) (token : String) : CharLevel :=
  { tok.intern token with bosToken := some token }

/-- A tokenizer with a token that ends a sequence. -/
def withEos (tok : CharLevel) (token : String) : CharLevel :=
  { tok.intern token with eosToken := some token }

/-- A tokenizer with a token that pads. -/
def withPad (tok : CharLevel) (token : String) : CharLevel :=
  { tok.intern token with padToken := some token }

/-! ## Encoding -/

/-- The tokens of the vocabulary with their ids. -/
def entries (tok : CharLevel) : List Tokenizer.Entry :=
  tok.vocab.zipIdx.map fun t => (t.1.toList, t.2 + 1)

/-- The ids of a part of a text. -/
def partIds : Tokenizer.Part → List TokenId
  | .token id => [id]
  | .text s => s.map fun c => charBase + c.toNat

/-- The ids of a text. -/
def encode (tok : CharLevel) (s : String) : List TokenId :=
  (Tokenizer.cutTokens tok.entries s.toList).flatMap partIds

/-! ## Decoding -/

/-- The text of an id: a token, a character, nothing for what is no code point, or a mark for an id
that stands for no text. -/
def decodeId (tok : CharLevel) (id : TokenId) : List Char :=
  match if id = 0 then none else tok.vocab[id - 1]? with
  | some token => token.toList
  | none =>
    if charBase ≤ id then
      if (id - charBase).isValidChar then [Char.ofNat (id - charBase)] else []
    else "<unk>".toList

/-- The text of ids. -/
def decode (tok : CharLevel) (ids : List TokenId) : String :=
  String.ofList (ids.flatMap tok.decodeId)

/-! ## Changes -/

/-- A tokenizer with further special tokens, in place of the earlier ones or after them, and the
growth of its vocabulary. -/
def addSpecials (tok : CharLevel) (tokens : List String) (replace : Bool) : CharLevel × Nat :=
  let grown := tok.internAll tokens
  ({ grown with
      additional := tokens.foldl Tokenizer.appendNew (if replace then [] else tok.additional) },
    grown.vocab.length - tok.vocab.length)

/-- A tokenizer with another token that ends a sequence, and the growth of its vocabulary. -/
def setEos (tok : CharLevel) (token : String) : CharLevel × Nat :=
  (tok.withEos token, (tok.intern token).vocab.length - tok.vocab.length)

/-- A tokenizer with another chat template. -/
def setChatTemplate (tok : CharLevel) (text : String) : Except TokenizerError CharLevel :=
  if tok.refusesTemplates then .error .templatesDisabled
  else .ok { tok with chatTemplate := some text }

instance : Tokenizer CharLevel where
  encode tok s := .ok (tok.encode s)
  tokenId := idOf
  bos := bosToken
  bosId tok := tok.bosToken.map tok.idOf
  eos := eosToken
  eosId tok := tok.eosToken.map tok.idOf
  padId tok := tok.padToken.map tok.idOf
  addSpecials := addSpecials
  setEos := setEos
  setPad tok token := { tok with padToken := some token }
  setChatTemplate := setChatTemplate

end CharLevel

end Colloquy
