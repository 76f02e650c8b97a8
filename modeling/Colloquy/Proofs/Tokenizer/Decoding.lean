import Colloquy.Proofs.Tokenizer.Cutting
import Colloquy.Proofs.Tokenizer.Growth

/-!
# Decoding what was encoded

Whatever is done to a character tokenizer, it only puts new tokens at the end of its vocabulary
(`vocab_apply`), so that none comes twice (`nodup_vocab_made`). The ids of a text are then told
apart when they are decoded: those of tokens are smaller than those of characters, as long as there
are fewer tokens than the smallest of those (`Segments.flatMap_decodeId`).
-/

namespace Colloquy

namespace Tokenizer

theorem nodup_appendNew {tokens : List String} (h : tokens.Nodup) (token : String) :
    (appendNew tokens token).Nodup := by
  unfold appendNew
  split
  · exact h
  · rename_i new
    rw [List.nodup_append]
    refine ⟨h, List.pairwise_singleton _ _, fun a ha b hb same => ?_⟩
    rw [List.mem_singleton.1 hb] at same
    exact new (same ▸ ha)

theorem nodup_foldl_appendNew {old : List String} (h : old.Nodup) (tokens : List String) :
    (tokens.foldl appendNew old).Nodup := by
  induction tokens generalizing old with
  | nil => exact h
  | cons token tokens ih => exact ih (nodup_appendNew h token)

end Tokenizer

namespace CharLevel

/-! ## Changes -/

/-- What is done to a tokenizer, be it while it is made or later on. -/
inductive Change where
  | special (token : String)
  | bos (token : String)
  | eos (token : String)
  | pad (token : String)
  | refuseTemplates
  | addSpecials (tokens : List String) (replace : Bool)
  | setEos (token : String)
  | setPad (token : String)
  | setChatTemplate (text : String)
deriving DecidableEq, Repr

namespace Change

/-- A tokenizer with a change made. A chat template that is refused changes nothing. -/
def apply (tok : CharLevel) : Change → CharLevel
  | special token => tok.intern token
  | bos token => tok.withBos token
  | eos token => tok.withEos token
  | pad token => tok.withPad token
  | refuseTemplates => { tok with refusesTemplates := true }
  | addSpecials tokens replace => (tok.addSpecials tokens replace).1
  | setEos token => (tok.setEos token).1
  | setPad token => Tokenizer.setPad tok token
  | setChatTemplate text => (tok.setChatTemplate text).toOption.getD tok

/-- The tokens that a change puts into the vocabulary, unless they are there. -/
def tokens : Change → List String
  | special token | bos token | eos token | pad token | setEos token => [token]
  | addSpecials tokens _ => tokens
  | refuseTemplates | setPad _ | setChatTemplate _ => []

theorem vocab_apply (change : Change) (tok : CharLevel) :
    (change.apply tok).vocab = change.tokens.foldl Tokenizer.appendNew tok.vocab := by
  cases change with
  | special token | bos token | eos token | pad token | setEos token => exact vocab_intern tok token
  | addSpecials tokens replace => exact vocab_internAll tok tokens
  | refuseTemplates | setPad => rfl
  | setChatTemplate text =>
    show ((tok.setChatTemplate text).toOption.getD tok).vocab = tok.vocab
    unfold CharLevel.setChatTemplate
    split <;> rfl

end Change

/-- The tokenizer that some changes one after the other lead to. -/
def made (changes : List Change) : CharLevel :=
  changes.foldl Change.apply empty

theorem nodup_vocab_foldl {tok : CharLevel} (h : tok.vocab.Nodup) (changes : List Change) :
    (changes.foldl Change.apply tok).vocab.Nodup := by
  induction changes generalizing tok with
  | nil => exact h
  | cons change changes ih =>
    refine ih ?_
    rw [Change.vocab_apply]
    exact Tokenizer.nodup_foldl_appendNew h _

theorem nodup_vocab_made (changes : List Change) : (made changes).vocab.Nodup := by
  have start : empty.vocab.Nodup := List.Pairwise.nil
  exact nodup_vocab_foldl start changes

/-! ## Decoding -/

section

variable {tok : CharLevel}

theorem decodeId_idOf {token : String} (h : token ∈ tok.vocab) :
    tok.decodeId (tok.idOf token) = token.toList := by
  obtain ⟨i, id, here⟩ := getElem?_idOf h
  rw [id, decodeId, if_neg (Nat.succ_ne_zero i), Nat.add_sub_cancel, here]

variable (few : tok.vocab.length < charBase)
include few

/-- The id of a character is that of no token. -/
theorem decodeId_char (c : Char) : tok.decodeId (charBase + c.toNat) = [c] := by
  have above : charBase ≤ charBase + c.toNat := Nat.le_add_right _ _
  have pos : charBase + c.toNat ≠ 0 := Nat.ne_of_gt (Nat.lt_of_lt_of_le (by decide) above)
  have none : tok.vocab[charBase + c.toNat - 1]? = none := List.getElem?_eq_none (by omega)
  have valid : c.toNat.isValidChar := c.valid
  rw [decodeId, if_neg pos, none]
  dsimp only
  rw [if_pos above, Nat.add_sub_cancel_left, if_pos valid, Char.ofNat_toNat]

theorem Segments.flatMap_decodeId {s : List Char} {ids : List TokenId} (h : Segments tok s ids) :
    ids.flatMap tok.decodeId = s := by
  induction h with
  | nil => rfl
  | token longest cut _ ih => rw [List.flatMap_cons, decodeId_idOf longest.mem, ih, cut]
  | char none _ ih => rw [List.flatMap_cons, decodeId_char few, ih, List.singleton_append]

end

/-- Whatever was done to a tokenizer, if the empty token is not in its vocabulary, taking the
longest tokens off a text comes to an end, and the ids are those that the text is encoded to. If
there are not too many tokens either, decoding them gives back the text. -/
theorem decode_encode (changes : List Change) (nonempty : "" ∉ (made changes).vocab)
    (few : (made changes).vocab.length < charBase) (s : String) :
    (∀ ids, Segments (made changes) s.toList ids ↔ ids = (made changes).encode s) ∧
      (made changes).decode ((made changes).encode s) = s := by
  have ends : ∀ ids, Segments (made changes) s.toList ids ↔ ids = (made changes).encode s := by
    intro ids
    rw [encode_eq]
    exact segments_iff (nodup_vocab_made changes) nonempty
  refine ⟨ends, ?_⟩
  rw [decode, ((ends _).2 rfl).flatMap_decodeId few, String.ofList_toList]

/-- Changes that lead to tokens that begin with others. -/
def nested : List Change :=
  [.bos "<a>", .special "<a><b>", .refuseTemplates, .addSpecials ["<b>", "<a>", "<b>"] true,
    .setPad "<pad>", .setChatTemplate "refused", .setEos "a"]

/-- The longest tokens are taken, and decoded. -/
theorem decode_encode_nested :
    "" ∉ (made nested).vocab ∧ (made nested).vocab.length < charBase ∧
      (made nested).encode "<a><b>a<a>é" = [2, 4, 1, 10233] ∧
      Segments (made nested) "<a><b>a<a>é".toList [2, 4, 1, 10233] ∧
      (made nested).decode [2, 4, 1, 10233] = "<a><b>a<a>é" := by
  have nonempty : "" ∉ (made nested).vocab := by decide
  have few : (made nested).vocab.length < charBase := by decide
  have ids : (made nested).encode "<a><b>a<a>é" = [2, 4, 1, 10233] := by decide
  obtain ⟨ends, back⟩ := decode_encode nested nonempty few "<a><b>a<a>é"
  exact ⟨nonempty, few, ids, (ends _).2 ids.symm, ids ▸ back⟩

end CharLevel

end Colloquy
