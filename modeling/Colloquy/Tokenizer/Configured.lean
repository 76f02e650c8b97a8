import Colloquy.Tokenizer.Basic
import Colloquy.Tokenizer.Cutting

/-!
# Tokenizers with named special tokens

A tokenizer over some vocabulary, which encodes texts and gives tokens their ids. The names of the
special tokens and the chat template are kept beside it. A token may be named that the vocabulary
does not have; the token that ends a sequence is added to it when it is named.
-/

namespace Colloquy

/-- A vocabulary that tokens can be added to. -/
class Vocabulary (ν : Type) where
  /-- The ids of a text. -/
  encode : ν → String → Except TokenizerError (List TokenId)
  /-- The id of a token, if it has one. -/
  id? : ν → String → Option TokenId
  /-- The number of different tokens. -/
  size : ν → Nat
  /-- A vocabulary with more tokens. -/
  addAll : ν → List String → ν

/-- The tokens with a special role, by name. -/
structure SpecialTokens where
  bos : Option String
  eos : Option String
  pad : Option String
  unk : Option String
  additional : List String
deriving DecidableEq, Repr

namespace SpecialTokens

/-- No special tokens. -/
def none : SpecialTokens := ⟨.none, .none, .none, .none, []⟩

/-- The name of a token: a string, or the string under `content` of an object. -/
def tokenText? : Json → Option String
  | .str s => some s
  | .obj members => (members.lookup "content").bind Json.asStr?
  | _ => .none

/-- The special tokens that a configuration names. -/
def ofJson (config : Json) : SpecialTokens where
  bos := (config.get? "bos_token").bind tokenText?
  eos := (config.get? "eos_token").bind tokenText?
  pad := (config.get? "pad_token").bind tokenText?
  unk := (config.get? "unk_token").bind tokenText?
  additional :=
    (((config.get? "additional_special_tokens").bind Json.asArr?).getD []).filterMap tokenText?

end SpecialTokens

/-- A vocabulary with the names of special tokens and a chat template. -/
structure Configured (ν : Type) where
  vocabulary : ν
  special : SpecialTokens
  chatTemplate : Option String
deriving DecidableEq, Repr

namespace Configured

variable {ν : Type} [Vocabulary ν]

/-- The id of a token, if it has one. -/
def id? (tok : Configured ν) (token : String) : Option TokenId :=
  Vocabulary.id? tok.vocabulary token

/-- The id of a token, or that of the token for unknown ones, or 0. -/
def idOf (tok : Configured ν) (token : String) : TokenId :=
  ((tok.id? token).or (tok.special.unk.bind tok.id?)).getD 0

/-- The number of different tokens. -/
def vocabSize (tok : Configured ν) : Nat :=
  Vocabulary.size tok.vocabulary

/-- A tokenizer with more tokens in its vocabulary. -/
def grow (tok : Configured ν) (tokens : List String) : Configured ν :=
  { tok with vocabulary := Vocabulary.addAll tok.vocabulary tokens }

/-- A tokenizer with further special tokens, in place of the earlier ones or after them, and the
growth of its vocabulary. -/
def addSpecials (tok : Configured ν) (tokens : List String) (replace : Bool) :
    Configured ν × Nat :=
  let old := if replace then [] else tok.special.additional
  let special := { tok.special with additional := tokens.foldl Tokenizer.appendNew old }
  let grown := tok.grow tokens
  ({ grown with special := special }, grown.vocabSize - tok.vocabSize)

/-- A tokenizer with another token that ends a sequence, and the growth of its vocabulary. -/
def setEos (tok : Configured ν) (token : String) : Configured ν × Nat :=
  let grown := tok.grow [token]
  ({ grown with special := { tok.special with eos := some token } },
    grown.vocabSize - tok.vocabSize)

instance : Tokenizer (Configured ν) where
  encode tok := Vocabulary.encode tok.vocabulary
  tokenId := idOf
  bos tok := tok.special.bos
  bosId tok := tok.special.bos.bind tok.id?
  eos tok := tok.special.eos
  eosId tok := tok.special.eos.bind tok.id?
  padId tok := tok.special.pad.bind tok.id?
  addSpecials := addSpecials
  setEos := setEos
  setPad tok token := { tok with special := { tok.special with pad := some token } }
  setChatTemplate tok text := .ok { tok with chatTemplate := some text }

end Configured

end Colloquy
