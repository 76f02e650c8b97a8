import Colloquy.Budget
import Colloquy.Error

/-!
# Tokenizers

What the encoder asks of a tokenizer. `encode` turns a text into ids, `tokenId` finds the id of one
token, and a tokenizer names the tokens that begin and end a sequence and the one that pads it.
Such a token may be named without having an id. The other operations give the tokenizer with the
change made; adding tokens also tells by how many the vocabulary has grown.
-/

namespace Colloquy

class Tokenizer (τ : Type) where
  /-- The ids of a text. -/
  encode : τ → String → Except TokenizerError (List TokenId)
  /-- The id of a token, or that of unknown tokens. -/
  tokenId : τ → String → TokenId
  /-- The token that begins a sequence. -/
  bos : τ → Option String
  bosId : τ → Option TokenId
  /-- The token that ends a sequence. -/
  eos : τ → Option String
  eosId : τ → Option TokenId
  padId : τ → Option TokenId
  /-- More special tokens, in place of the earlier ones or after them. -/
  addSpecials : τ → List String → Bool → τ × Nat
  setEos : τ → String → τ × Nat
  setPad : τ → String → τ
  setChatTemplate : τ → String → Except TokenizerError τ

namespace Slot

variable {τ : Type} [Tokenizer τ]

/-- The ids of a slot. An empty text has none, nor has a token without id. -/
def encode (tok : τ) : Slot → Except TokenizerError (List TokenId)
  | text s => if s.isEmpty then .ok [] else Tokenizer.encode tok s
  | token name => .ok [Tokenizer.tokenId tok name]
  | bos => .ok (Tokenizer.bosId tok).toList
  | eos => .ok (Tokenizer.eosId tok).toList

/-- The ids of slots one after the other. -/
def encodeAll (tok : τ) (slots : List Slot) : Except TokenizerError (List TokenId) :=
  return (← slots.mapM (encode tok)).flatten

end Slot

end Colloquy
