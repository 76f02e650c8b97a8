import Colloquy.Tokenizer.CharLevel
import Colloquy.Tokenizer.WordLevel

/-!
# Changes of tokenizers

What a change of a tokenizer leaves as it was. A vocabulary is expected to give an id to every token
that is added to it, unless it is empty, and to keep the ids it has given (`LawfulVocabulary`),
which a vocabulary of words does. Every change of a tokenizer then leads to one with the special
tokens and the chat template that it is meant to have, and with all ids of before (`Becomes`).
Changes one after the other are one change (`Becomes.trans`).
-/

namespace Colloquy

/-! ## Vocabularies -/

/-- A vocabulary in which added tokens have ids and ids stay. -/
class LawfulVocabulary (ν : Type) [Vocabulary ν] : Prop where
  id?_addAll : ∀ (v : ν) (tokens : List String) {token : String} {id : TokenId},
    Vocabulary.id? v token = some id →
      Vocabulary.id? (Vocabulary.addAll v tokens) token = some id
  isSome_id?_addAll : ∀ (v : ν) {tokens : List String} {token : String}, token ∈ tokens →
    token ≠ "" → (Vocabulary.id? (Vocabulary.addAll v tokens) token).isSome

namespace Words

theorem id?_add {words : Words} {token other : String} {id : TokenId}
    (h : words.id? token = some id) : (words.add other).id? token = some id := by
  unfold add
  split
  · exact h
  · unfold id? at h ⊢
    rw [List.lookup_append, List.lookup_cons]
    by_cases same : token = other
    · -- A word of the vocabulary that is added keeps the id that it has there.
      subst same
      cases ha : words.added.lookup token with
      | some i => simpa [ha] using h
      | none =>
        rw [ha, Option.none_or] at h
        simp [h]
    · rw [beq_eq_false_iff_ne.2 same]
      simpa using h

theorem isSome_id?_add {words : Words} {token : String} (h : token ≠ "") :
    ((words.add token).id? token).isSome := by
  unfold add
  split
  · rename_i known
    have added : (words.added.lookup token).isSome := known.resolve_left (by simpa using h)
    rw [id?, Option.isSome_or, added, Bool.true_or]
  · rw [id?, List.lookup_append, List.lookup_cons_self]
    simp

theorem id?_addAll {words : Words} {tokens : List String} {token : String} {id : TokenId}
    (h : words.id? token = some id) : (words.addAll tokens).id? token = some id := by
  induction tokens generalizing words with
  | nil => exact h
  | cons other tokens ih => exact ih (id?_add h)

theorem isSome_id?_addAll {words : Words} {tokens : List String} {token : String}
    (mem : token ∈ tokens) (h : token ≠ "") : ((words.addAll tokens).id? token).isSome := by
  induction tokens generalizing words with
  | nil => cases mem
  | cons other tokens ih =>
    rcases List.mem_cons.1 mem with rfl | later
    · have added : ((words.add token).id? token).isSome := isSome_id?_add h
      obtain ⟨id, known⟩ := Option.isSome_iff_exists.1 added
      have kept : ((words.add token).addAll tokens).id? token = some id := id?_addAll known
      exact Option.isSome_of_eq_some kept
    · exact ih later

instance : LawfulVocabulary Words where
  id?_addAll _ _ := id?_addAll
  isSome_id?_addAll _ := isSome_id?_addAll

end Words

/-! ## New tokens -/

namespace Tokenizer

/-- Appending the new ones of some tokens one by one leaves each of them once. -/
theorem foldl_appendNew (old tokens : List String) :
    tokens.foldl appendNew old = old ++ (tokens.filter (· ∉ old)).eraseDups := by
  induction tokens generalizing old with
  | nil => simp
  | cons token tokens ih =>
    rw [List.foldl_cons, ih, appendNew]
    by_cases known : token ∈ old
    · rw [if_pos known, List.filter_cons_of_neg (by simpa using known)]
    · have rest : tokens.filter (· ∉ old ++ [token]) =
          (tokens.filter (· ∉ old)).filter fun other => !other == token := by
        rw [List.filter_filter]
        refine List.filter_congr fun other _ => ?_
        rw [Bool.eq_iff_iff]
        simp [and_comm]
      rw [if_neg known, List.filter_cons_of_pos (by simpa using known), List.eraseDups_cons, rest,
        List.append_assoc, List.singleton_append]

end Tokenizer

/-! ## Tokenizers and their changes -/

/-- What is known of a tokenizer besides what an encoder asks of it. -/
class Inspect (τ : Type) where
  special : τ → SpecialTokens
  chatTemplate : τ → Option String
  /-- Whether chat templates are taken. -/
  takes : τ → Bool
  /-- The id of a token in the vocabulary. -/
  known? : τ → String → Option TokenId
  /-- The id that a token with a special role has. -/
  roleId? : τ → String → Option TokenId

namespace Tokenizer

open Inspect

/-- A tokenizer with other special tokens and another chat template. Its vocabulary may have
grown. -/
structure Becomes {τ : Type} [Inspect τ] (tok tok' : τ) (tokens : SpecialTokens)
    (template : Option String) : Prop where
  special_eq : special tok' = tokens
  chatTemplate_eq : chatTemplate tok' = template
  takes_eq : takes tok' = takes tok
  known?_eq : ∀ {token id}, known? tok token = some id → known? tok' token = some id
  isSome_roleId? : ∀ {token}, (roleId? tok token).isSome → (roleId? tok' token).isSome

section

variable {τ : Type} [Inspect τ] {a b c : τ} {tokens tokens' : SpecialTokens}
  {template template' : Option String}

theorem Becomes.refl (tok : τ) : Becomes tok tok (special tok) (chatTemplate tok) where
  special_eq := rfl
  chatTemplate_eq := rfl
  takes_eq := rfl
  known?_eq := id
  isSome_roleId? := id

theorem Becomes.trans (h : Becomes a b tokens template) (h' : Becomes b c tokens' template') :
    Becomes a c tokens' template' where
  special_eq := h'.special_eq
  chatTemplate_eq := h'.chatTemplate_eq
  takes_eq := h'.takes_eq.trans h.takes_eq
  known?_eq known := h'.known?_eq (h.known?_eq known)
  isSome_roleId? known := h'.isSome_roleId? (h.isSome_roleId? known)

/-- A token with a special role keeps having an id. -/
theorem Becomes.isSome_bind_roleId? (h : Becomes a b tokens template) {token : Option String}
    (known : (token.bind (roleId? a)).isSome) : (token.bind (roleId? b)).isSome := by
  cases token with
  | none => cases known
  | some token => exact h.isSome_roleId? known

end

/-- What an encoder is told of the special tokens is what they are, and a change of a tokenizer
changes nothing else. -/
class Lawful (τ : Type) [Tokenizer τ] [Inspect τ] : Prop where
  bos_eq : ∀ tok : τ, bos tok = (special tok).bos
  bosId_eq : ∀ tok : τ, bosId tok = (special tok).bos.bind (roleId? tok)
  eos_eq : ∀ tok : τ, eos tok = (special tok).eos
  eosId_eq : ∀ tok : τ, eosId tok = (special tok).eos.bind (roleId? tok)
  padId_eq : ∀ tok : τ, padId tok = (special tok).pad.bind (roleId? tok)
  tokenId_eq : ∀ {tok : τ} {token id}, known? tok token = some id → tokenId tok token = id
  setEos_becomes : ∀ (tok : τ) (token : String),
    Becomes tok (setEos tok token).1 { special tok with eos := some token } (chatTemplate tok)
  isSome_roleId?_setEos : ∀ (tok : τ) {token : String}, token ≠ "" →
    (roleId? (setEos tok token).1 token).isSome
  setPad_becomes : ∀ (tok : τ) (token : String),
    Becomes tok (setPad tok token) { special tok with pad := some token } (chatTemplate tok)
  addSpecials_becomes : ∀ (tok : τ) (tokens : List String),
    Becomes tok (addSpecials tok tokens false).1
      { special tok with additional := tokens.foldl appendNew (special tok).additional }
      (chatTemplate tok)
  setChatTemplate_becomes : ∀ {tok : τ} (text : String), takes tok = true →
    ∃ tok', setChatTemplate tok text = .ok tok' ∧
      Becomes tok tok' (special tok) (some text) ∧ roleId? tok' = roleId? tok
  setChatTemplate_refused : ∀ {tok : τ} (text : String), takes tok = false →
    ∃ e, setChatTemplate tok text = .error e

end Tokenizer

/-! ## Character tokenizers -/

namespace CharLevel

open Tokenizer (Becomes)

/-- The id of a token in the vocabulary. -/
def known? (tok : CharLevel) (token : String) : Option TokenId :=
  (tok.vocab.idxOf? token).map (· + 1)

/-- The special tokens. None stands for unknown ones. -/
def special (tok : CharLevel) : SpecialTokens :=
  ⟨tok.bosToken, tok.eosToken, tok.padToken, none, tok.additional⟩

instance : Inspect CharLevel where
  special := special
  chatTemplate := chatTemplate
  takes tok := !tok.refusesTemplates
  known? := known?
  roleId? tok token := some (tok.idOf token)

theorem idOf_eq_of_known? {tok : CharLevel} {token : String} {id : TokenId}
    (h : tok.known? token = some id) : tok.idOf token = id := by
  rw [known?, Option.map_eq_some_iff] at h
  obtain ⟨i, hi, rfl⟩ := h
  rw [idOf, hi]

theorem known?_intern {tok : CharLevel} {token other : String} {id : TokenId}
    (h : tok.known? token = some id) : (tok.intern other).known? token = some id := by
  unfold intern
  split
  · exact h
  · unfold known? at h ⊢
    rw [Option.map_eq_some_iff] at h
    obtain ⟨i, hi, rfl⟩ := h
    rw [List.idxOf?, List.findIdx?_append, ← List.idxOf?, hi]
    rfl

theorem intern_becomes (tok : CharLevel) (token : String) :
    Becomes tok (tok.intern token) tok.special tok.chatTemplate where
  special_eq := by unfold intern; split <;> rfl
  chatTemplate_eq := by unfold intern; split <;> rfl
  takes_eq := by unfold intern; split <;> rfl
  known?_eq := known?_intern
  isSome_roleId? _ := rfl

theorem internAll_becomes (tok : CharLevel) (tokens : List String) :
    Becomes tok (tok.internAll tokens) tok.special tok.chatTemplate := by
  induction tokens generalizing tok with
  | nil => exact .refl tok
  | cons token tokens ih =>
    have first := intern_becomes tok token
    have later := ih (tok.intern token)
    rw [show (tok.intern token).special = _ from first.special_eq,
      show (tok.intern token).chatTemplate = _ from first.chatTemplate_eq] at later
    exact first.trans later

theorem setEos_becomes (tok : CharLevel) (token : String) :
    Becomes tok (tok.setEos token).1 { tok.special with eos := some token } tok.chatTemplate := by
  have interned := intern_becomes tok token
  have named : Becomes (tok.intern token) (tok.setEos token).1
      { (tok.intern token).special with eos := some token } (tok.intern token).chatTemplate :=
    ⟨rfl, rfl, rfl, id, fun _ => rfl⟩
  rw [show (tok.intern token).special = _ from interned.special_eq,
    show (tok.intern token).chatTemplate = _ from interned.chatTemplate_eq] at named
  exact interned.trans named

theorem addSpecials_becomes (tok : CharLevel) (tokens : List String) :
    Becomes tok (tok.addSpecials tokens false).1
      { tok.special with additional := tokens.foldl Tokenizer.appendNew tok.additional }
      tok.chatTemplate := by
  have interned := internAll_becomes tok tokens
  have listed : Becomes (tok.internAll tokens) (tok.addSpecials tokens false).1
      { (tok.internAll tokens).special with
        additional := tokens.foldl Tokenizer.appendNew tok.additional }
      (tok.internAll tokens).chatTemplate :=
    ⟨rfl, rfl, rfl, id, fun _ => rfl⟩
  rw [show (tok.internAll tokens).special = _ from interned.special_eq,
    show (tok.internAll tokens).chatTemplate = _ from interned.chatTemplate_eq] at listed
  exact interned.trans listed

theorem map_idOf_eq_bind (tok : CharLevel) (token : Option String) :
    token.map tok.idOf = token.bind (Inspect.roleId? tok) := by
  cases token <;> rfl

instance : Tokenizer.Lawful CharLevel where
  bos_eq _ := rfl
  bosId_eq tok := tok.map_idOf_eq_bind tok.bosToken
  eos_eq _ := rfl
  eosId_eq tok := tok.map_idOf_eq_bind tok.eosToken
  padId_eq tok := tok.map_idOf_eq_bind tok.padToken
  tokenId_eq := idOf_eq_of_known?
  setEos_becomes := setEos_becomes
  isSome_roleId?_setEos _ _ _ := rfl
  setPad_becomes _ _ := ⟨rfl, rfl, rfl, id, fun _ => rfl⟩
  addSpecials_becomes := addSpecials_becomes
  setChatTemplate_becomes := by
    intro tok text takes
    have open' : tok.refusesTemplates = false := by simpa [Inspect.takes] using takes
    refine ⟨{ tok with chatTemplate := some text }, ?_, ⟨rfl, rfl, rfl, id, fun _ => rfl⟩, rfl⟩
    show tok.setChatTemplate text = _
    simp [setChatTemplate, open']
  setChatTemplate_refused := by
    intro tok text refuses
    have closed : tok.refusesTemplates = true := by simpa [Inspect.takes] using refuses
    exact ⟨_, if_pos closed⟩

end CharLevel

/-! ## Configured tokenizers -/

namespace Configured

open Tokenizer (Becomes)

variable {ν : Type} [Vocabulary ν]

instance : Inspect (Configured ν) where
  special := special
  chatTemplate := chatTemplate
  takes _ := true
  known? := id?
  roleId? := id?

theorem idOf_eq_of_id? {tok : Configured ν} {token : String} {id : TokenId}
    (h : tok.id? token = some id) : tok.idOf token = id := by
  rw [idOf, h]
  rfl

variable [LawfulVocabulary ν]

theorem grow_becomes (tok : Configured ν) (tokens : List String) :
    Becomes tok (tok.grow tokens) tok.special tok.chatTemplate where
  special_eq := rfl
  chatTemplate_eq := rfl
  takes_eq := rfl
  known?_eq := LawfulVocabulary.id?_addAll _ tokens
  isSome_roleId? known := by
    obtain ⟨id, hid⟩ := Option.isSome_iff_exists.1 known
    exact Option.isSome_of_eq_some (LawfulVocabulary.id?_addAll _ tokens hid)

instance : Tokenizer.Lawful (Configured ν) where
  bos_eq _ := rfl
  bosId_eq _ := rfl
  eos_eq _ := rfl
  eosId_eq _ := rfl
  padId_eq _ := rfl
  tokenId_eq := idOf_eq_of_id?
  setEos_becomes tok token := (tok.grow_becomes [token]).trans ⟨rfl, rfl, rfl, id, id⟩
  isSome_roleId?_setEos _ _ := LawfulVocabulary.isSome_id?_addAll _ (List.mem_singleton_self _)
  setPad_becomes _ _ := ⟨rfl, rfl, rfl, id, id⟩
  addSpecials_becomes tok tokens := (tok.grow_becomes tokens).trans ⟨rfl, rfl, rfl, id, id⟩
  setChatTemplate_becomes _ _ := ⟨_, rfl, ⟨rfl, rfl, rfl, id, id⟩, rfl⟩
  setChatTemplate_refused _ h := Bool.noConfusion h

end Configured

end Colloquy
