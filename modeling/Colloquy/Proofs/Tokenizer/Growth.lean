import Colloquy.Proofs.Tokenizer.Changes

/-!
# Tokens that are added again

A vocabulary only grows. It is steady if nothing changes when a token is added once more, and if a
token keeps the id that it has or, once it was added, goes on without one (`SteadyVocabulary`). A
vocabulary of words is steady, and so are the special tokens of a character tokenizer.

A tokenizer is a vocabulary with special tokens and a chat template beside it (`Parts`), and a
change of it is a change of these parts (`Parts.Moves`), which is all that `Parts.Lawful` asks.
Hence a change that has been made leaves a tokenizer as it is when it is made once more.
-/

namespace Colloquy

/-! ## Growth -/

section

variable {ν : Type} {addAll : ν → List String → ν} {has : ν → String → Bool} {v w : ν}
  {token : String}

/-- A token that a vocabulary was given, be it that it has grown since. -/
inductive Added (addAll : ν → List String → ν) : ν → String → Prop
  | now {v : ν} {tokens : List String} {token : String} (h : token ∈ tokens) :
      Added addAll (addAll v tokens) token
  | earlier {v : ν} {token : String} (tokens : List String) (h : Added addAll v token) :
      Added addAll (addAll v tokens) token

/-- What a vocabulary grows to. -/
inductive GrowsTo (addAll : ν → List String → ν) (v : ν) : ν → Prop
  | refl : GrowsTo addAll v v
  | addAll {w : ν} (tokens : List String) (h : GrowsTo addAll v w) :
      GrowsTo addAll v (addAll w tokens)

theorem GrowsTo.trans {x : ν} (h : GrowsTo addAll v w) (h' : GrowsTo addAll w x) :
    GrowsTo addAll v x := by
  induction h' with
  | refl => exact h
  | addAll tokens _ ih => exact ih.addAll tokens

theorem Added.mono (h : Added addAll v token) (grows : GrowsTo addAll v w) :
    Added addAll w token := by
  induction grows with
  | refl => exact h
  | addAll tokens _ ih => exact ih.earlier tokens

/-- Adding does nothing to the tokens that were added, and leaves it at that which of the tokens
that were added or had one have an id. -/
structure Steady (addAll : ν → List String → ν) (has : ν → String → Bool) : Prop where
  addAll_of_added : ∀ {v : ν} {tokens : List String},
    (∀ token ∈ tokens, Added addAll v token) → addAll v tokens = v
  has_addAll : ∀ {v : ν} {token : String} (tokens : List String),
    has v token = true ∨ Added addAll v token → has (addAll v tokens) token = has v token

theorem Steady.has_of_growsTo (h : Steady addAll has) (grows : GrowsTo addAll v w)
    (known : has v token = true ∨ Added addAll v token) : has w token = has v token := by
  induction grows with
  | refl => rfl
  | addAll tokens grows ih =>
    refine (h.has_addAll tokens ?_).trans ih
    exact known.imp ih.trans fun added => added.mono grows

end

/-- A vocabulary in which a token that is added again changes nothing, and a token keeps its id once
it has one. One that has none when it is added gets none later on. -/
class SteadyVocabulary (ν : Type) [Vocabulary ν] : Prop where
  addAll_of_added : ∀ {v : ν} {tokens : List String},
    (∀ token ∈ tokens, Added Vocabulary.addAll v token) → Vocabulary.addAll v tokens = v
  id?_addAll : ∀ {v : ν} {token : String} (tokens : List String),
    (Vocabulary.id? v token).isSome ∨ Added Vocabulary.addAll v token →
      Vocabulary.id? (Vocabulary.addAll v tokens) token = Vocabulary.id? v token

/-! ## Vocabularies of words -/

namespace Words

/-- The empty token and tokens that were added: those that cannot be added. -/
def Settled (words : Words) (token : String) : Prop :=
  token = "" ∨ (words.added.lookup token).isSome

theorem add_of_settled {words : Words} {token : String} (h : words.Settled token) :
    words.add token = words := by
  rw [add, if_pos]
  exact h.imp_left fun empty => by rw [empty]; rfl

theorem Settled.add {words : Words} {token : String} (h : words.Settled token) (other : String) :
    (words.add other).Settled token := by
  refine h.imp_right fun added => ?_
  unfold Words.add
  split
  · exact added
  · rw [List.lookup_append]
    simp [added]

theorem settled_add (words : Words) (token : String) : (words.add token).Settled token := by
  by_cases h : words.Settled token
  · exact h.add token
  · refine .inr ?_
    have unsettled : ¬ (token.isEmpty ∨ (words.added.lookup token).isSome) := by
      simpa [Settled] using h
    rw [Words.add, if_neg unsettled, List.lookup_append, List.lookup_cons_self]
    simp

theorem Settled.addAll {words : Words} {token : String} (h : words.Settled token)
    (tokens : List String) : (words.addAll tokens).Settled token := by
  induction tokens generalizing words with
  | nil => exact h
  | cons other tokens ih => exact ih (h.add other)

theorem settled_addAll {words : Words} {tokens : List String} {token : String}
    (h : token ∈ tokens) : (words.addAll tokens).Settled token := by
  induction tokens generalizing words with
  | nil => cases h
  | cons other tokens ih =>
    rcases List.mem_cons.1 h with rfl | later
    · exact (settled_add words token).addAll tokens
    · exact ih later

theorem settled_of_added {words : Words} {token : String}
    (h : Added Words.addAll words token) : words.Settled token := by
  induction h with
  | now h => exact settled_addAll h
  | earlier tokens _ ih => exact ih.addAll tokens

theorem addAll_of_settled {words : Words} {tokens : List String}
    (h : ∀ token ∈ tokens, words.Settled token) : words.addAll tokens = words := by
  induction tokens with
  | nil => rfl
  | cons token tokens ih =>
    rw [addAll, List.foldl_cons, add_of_settled (h token (List.mem_cons_self ..))]
    exact ih fun other ho => h other (List.mem_cons_of_mem _ ho)

/-- The empty token does not get an id. -/
theorem id?_empty_addAll (words : Words) (tokens : List String) :
    (words.addAll tokens).id? "" = words.id? "" := by
  induction tokens generalizing words with
  | nil => rfl
  | cons token tokens ih =>
    rw [addAll, List.foldl_cons]
    refine (ih (words.add token)).trans ?_
    unfold Words.add
    split
    · rfl
    · rename_i unsettled
      have other : ("" == token) = false := by
        rw [beq_eq_false_iff_ne]
        rintro rfl
        exact unsettled (.inl rfl)
      simp [id?, List.lookup_append, List.lookup_cons, other]

instance : SteadyVocabulary Words where
  addAll_of_added h := addAll_of_settled fun token ht => settled_of_added (h token ht)
  id?_addAll := by
    intro words token tokens h
    show (words.addAll tokens).id? token = words.id? token
    cases known : words.id? token with
    | some id => exact id?_addAll known
    | none =>
      have added : Added Words.addAll words token := by
        refine h.resolve_left ?_
        rw [show Vocabulary.id? words token = none from known]
        simp
      rcases settled_of_added added with rfl | listed
      · rw [id?_empty_addAll, known]
      · rw [id?, Option.or_eq_none_iff] at known
        rw [known.1] at listed
        cases listed

end Words

/-! ## Tokenizers and their parts -/

namespace Tokenizer

open Inspect

theorem foldl_appendNew_of_mem {old tokens : List String} (h : ∀ token ∈ tokens, token ∈ old) :
    tokens.foldl appendNew old = old := by
  have none : tokens.filter (· ∉ old) = [] := by simpa using h
  rw [foldl_appendNew, none, List.eraseDups_nil, List.append_nil]

theorem mem_foldl_appendNew {old tokens : List String} {token : String}
    (h : token ∈ old ∨ token ∈ tokens) : token ∈ tokens.foldl appendNew old := by
  rw [foldl_appendNew, List.mem_append, List.mem_eraseDups, List.mem_filter]
  by_cases known : token ∈ old
  · exact .inl known
  · exact .inr ⟨h.resolve_left known, by simpa using known⟩

/-- The vocabulary of a tokenizer, how tokens are added to it, and which tokens count as having an
id where they have a special role. -/
structure Parts (τ ν : Type) where
  vocabulary : τ → ν
  addAll : ν → List String → ν
  has : ν → String → Bool

namespace Parts

variable {τ ν : Type} [Inspect τ]

/-- A tokenizer with another vocabulary, other special tokens and another chat template. -/
structure Moves (p : Parts τ ν) (tok tok' : τ) (v : ν) (tokens : SpecialTokens)
    (template : Option String) : Prop where
  vocabulary_eq : p.vocabulary tok' = v
  special_eq : special tok' = tokens
  chatTemplate_eq : chatTemplate tok' = template
  takes_eq : takes tok' = takes tok

/-- A tokenizer is what its parts are, its vocabulary is steady, and the changes of it are changes
of the parts. -/
structure Lawful (p : Parts τ ν) [Tokenizer τ] : Prop where
  ext : ∀ {a b : τ}, p.vocabulary a = p.vocabulary b → special a = special b →
    chatTemplate a = chatTemplate b → takes a = takes b → a = b
  steady : Steady p.addAll p.has
  bos_eq : ∀ tok : τ, bos tok = (special tok).bos
  eos_eq : ∀ tok : τ, eos tok = (special tok).eos
  isSome_bosId : ∀ tok : τ, (bosId tok).isSome = (special tok).bos.any (p.has (p.vocabulary tok))
  isSome_eosId : ∀ tok : τ, (eosId tok).isSome = (special tok).eos.any (p.has (p.vocabulary tok))
  isSome_padId : ∀ tok : τ, (padId tok).isSome = (special tok).pad.any (p.has (p.vocabulary tok))
  setEos_moves : ∀ (tok : τ) (token : String),
    p.Moves tok (setEos tok token).1 (p.addAll (p.vocabulary tok) [token])
      { special tok with eos := some token } (chatTemplate tok)
  setPad_moves : ∀ (tok : τ) (token : String),
    p.Moves tok (setPad tok token) (p.vocabulary tok) { special tok with pad := some token }
      (chatTemplate tok)
  addSpecials_moves : ∀ (tok : τ) (tokens : List String),
    p.Moves tok (addSpecials tok tokens false).1 (p.addAll (p.vocabulary tok) tokens)
      { special tok with additional := tokens.foldl appendNew (special tok).additional }
      (chatTemplate tok)
  setChatTemplate_moves : ∀ {tok : τ} (text : String), takes tok = true →
    ∃ tok', setChatTemplate tok text = .ok tok' ∧
      p.Moves tok tok' (p.vocabulary tok) (special tok) (some text)
  setChatTemplate_refused : ∀ {tok : τ} (text : String), takes tok = false →
    ∃ e, setChatTemplate tok text = .error e
  /-- The growth that is told of is none where the vocabulary does not change. -/
  setEos_growth : ∀ {tok : τ} {token : String},
    p.addAll (p.vocabulary tok) [token] = p.vocabulary tok → (setEos tok token).2 = 0
  addSpecials_growth : ∀ {tok : τ} {tokens : List String},
    p.addAll (p.vocabulary tok) tokens = p.vocabulary tok → (addSpecials tok tokens false).2 = 0

end Parts

end Tokenizer

namespace CharLevel

/-- The parts of a character tokenizer. A token with a special role always has an id, be it that of
unknown tokens. -/
def parts : Tokenizer.Parts CharLevel (List String) where
  vocabulary := vocab
  addAll vocab tokens := tokens.foldl Tokenizer.appendNew vocab
  has _ _ := true

theorem vocab_intern (tok : CharLevel) (token : String) :
    (tok.intern token).vocab = Tokenizer.appendNew tok.vocab token := by
  unfold intern Tokenizer.appendNew
  split <;> rfl

theorem vocab_internAll (tok : CharLevel) (tokens : List String) :
    (tok.internAll tokens).vocab = tokens.foldl Tokenizer.appendNew tok.vocab := by
  induction tokens generalizing tok with
  | nil => rfl
  | cons token tokens ih =>
    rw [internAll, List.foldl_cons, List.foldl_cons, ← vocab_intern]
    exact ih (tok.intern token)

theorem mem_of_added {vocab : List String} {token : String}
    (h : Added parts.addAll vocab token) : token ∈ vocab := by
  induction h with
  | now h => exact Tokenizer.mem_foldl_appendNew (.inr h)
  | earlier tokens _ ih => exact Tokenizer.mem_foldl_appendNew (.inl ih)

theorem isSome_map_idOf (tok : CharLevel) (token : Option String) :
    (token.map tok.idOf).isSome = token.any (parts.has tok.vocab) := by
  cases token <;> rfl

theorem parts_lawful : parts.Lawful where
  ext := by
    intro a b vocab_eq special_eq template_eq takes_eq
    cases a
    cases b
    have refuses := congrArg (!·) takes_eq
    simp_all [parts, Inspect.special, special, Inspect.chatTemplate, Inspect.takes]
  steady :=
    { addAll_of_added := fun h =>
        Tokenizer.foldl_appendNew_of_mem fun token ht => mem_of_added (h token ht)
      has_addAll := fun _ _ => rfl }
  bos_eq _ := rfl
  eos_eq _ := rfl
  isSome_bosId tok := isSome_map_idOf tok tok.bosToken
  isSome_eosId tok := isSome_map_idOf tok tok.eosToken
  isSome_padId tok := isSome_map_idOf tok tok.padToken
  setEos_moves tok token :=
    have change := setEos_becomes tok token
    ⟨vocab_intern tok token, change.special_eq, change.chatTemplate_eq, change.takes_eq⟩
  setPad_moves _ _ := ⟨rfl, rfl, rfl, rfl⟩
  addSpecials_moves tok tokens :=
    have change := addSpecials_becomes tok tokens
    ⟨vocab_internAll tok tokens, change.special_eq, change.chatTemplate_eq, change.takes_eq⟩
  setChatTemplate_moves := by
    intro tok text takes
    have open' : tok.refusesTemplates = false := by simpa [Inspect.takes] using takes
    exact ⟨{ tok with chatTemplate := some text }, if_neg (by simp [open']), rfl, rfl, rfl, rfl⟩
  setChatTemplate_refused := Tokenizer.Lawful.setChatTemplate_refused
  setEos_growth := by
    intro tok token same
    have grown : (tok.intern token).vocab = tok.vocab := (vocab_intern tok token).trans same
    show (tok.intern token).vocab.length - tok.vocab.length = 0
    rw [grown, Nat.sub_self]
  addSpecials_growth := by
    intro tok tokens same
    have grown : (tok.internAll tokens).vocab = tok.vocab :=
      (vocab_internAll tok tokens).trans same
    show (tok.internAll tokens).vocab.length - tok.vocab.length = 0
    rw [grown, Nat.sub_self]

end CharLevel

namespace Configured

variable {ν : Type} [Vocabulary ν]

/-- The parts of a configured tokenizer. -/
def parts : Tokenizer.Parts (Configured ν) ν where
  vocabulary := vocabulary
  addAll := Vocabulary.addAll
  has v token := (Vocabulary.id? v token).isSome

theorem isSome_bind_id? (tok : Configured ν) (token : Option String) :
    (token.bind tok.id?).isSome = token.any (parts.has tok.vocabulary) := by
  cases token <;> rfl

theorem size_sub_eq_zero {v w : ν} (h : w = v) : Vocabulary.size w - Vocabulary.size v = 0 := by
  rw [h, Nat.sub_self]

theorem parts_lawful [SteadyVocabulary ν] : (parts : Tokenizer.Parts (Configured ν) ν).Lawful where
  ext := by
    intro a b vocabulary_eq special_eq template_eq _
    cases a
    cases b
    simp_all [parts, Inspect.special, Inspect.chatTemplate]
  steady :=
    { addAll_of_added := SteadyVocabulary.addAll_of_added
      has_addAll := fun tokens known =>
        congrArg Option.isSome (SteadyVocabulary.id?_addAll tokens known) }
  bos_eq _ := rfl
  eos_eq _ := rfl
  isSome_bosId tok := isSome_bind_id? tok tok.special.bos
  isSome_eosId tok := isSome_bind_id? tok tok.special.eos
  isSome_padId tok := isSome_bind_id? tok tok.special.pad
  setEos_moves _ _ := ⟨rfl, rfl, rfl, rfl⟩
  setPad_moves _ _ := ⟨rfl, rfl, rfl, rfl⟩
  addSpecials_moves _ _ := ⟨rfl, rfl, rfl, rfl⟩
  setChatTemplate_moves _ _ := ⟨_, rfl, rfl, rfl, rfl, rfl⟩
  setChatTemplate_refused _ h := Bool.noConfusion h
  setEos_growth := size_sub_eq_zero
  addSpecials_growth := size_sub_eq_zero

end Configured

end Colloquy
