import Colloquy.Proofs.Template.Resolution
import Colloquy.Proofs.Tokenizer.Growth

/-!
# Tokenizers prepared twice

Preparing a tokenizer for a template once more leaves it as it is: each step finds what it has done
before. A token that is named again is in the vocabulary, and it has an id now just if it had one
then, so the same tokens end sequences and pad (`ensureEos_again`, `ensurePad_again`). All stop
words are listed, and the template compiles to the same text (`settled_prepare`). So resolving a
name twice is resolving it once, and the second time the vocabulary gains no token
(`resolve_idempotent`).
-/

namespace Colloquy

open Inspect

namespace Tokenizer

/-! ## Steps with nothing to do -/

section

variable {τ : Type} [Tokenizer τ] {tok : τ}

theorem ensureEos_of_isSome (known : (eosId tok).isSome) : ensureEos tok = tok := by
  rw [ensureEos, if_neg (by simp [Option.isSome_iff_ne_none.1 known])]

theorem ensureEos_of_not_isSome (unknown : ¬ (eosId tok).isSome) :
    ensureEos tok = (setEos tok standardEos).1 := by
  rw [ensureEos, if_pos (by simpa using unknown)]

theorem ensurePad_of_isSome (known : (padId tok).isSome) : ensurePad tok = tok := by
  rw [ensurePad, if_neg (by simp [Option.isSome_iff_ne_none.1 known])]

theorem installTemplate_of_taken {tok' : τ} {t : Template} {text : String}
    (compiled : t.compile tok = .ok text) (taken : setChatTemplate tok text = .ok tok') :
    installTemplate tok t = tok' := by
  simp only [installTemplate, compiled, taken]

end

namespace Parts

variable {τ ν : Type} [Tokenizer τ] [Inspect τ] {p : Parts τ ν} {tok tok' : τ}
  {token : String} {tokens : List String}

theorem Moves.eq_self (h : p.Lawful) {v : ν} {special' : SpecialTokens} {template : Option String}
    (moves : p.Moves tok tok' v special' template) (vocabulary : v = p.vocabulary tok)
    (same : special' = special tok) (kept : template = chatTemplate tok) : tok' = tok :=
  h.ext (moves.vocabulary_eq.trans vocabulary) (moves.special_eq.trans same)
    (moves.chatTemplate_eq.trans kept) moves.takes_eq

theorem Lawful.addAll_singleton (h : p.Lawful) {v : ν} (added : Added p.addAll v token) :
    p.addAll v [token] = v :=
  h.steady.addAll_of_added fun _ ht => List.mem_singleton.1 ht ▸ added

/-! ## Steps made again -/

theorem Lawful.setEos_eq_self (h : p.Lawful) (added : Added p.addAll (p.vocabulary tok) token)
    (named : (special tok).eos = some token) : (setEos tok token).1 = tok :=
  (h.setEos_moves tok token).eq_self h (h.addAll_singleton added) (by rw [← named]) rfl

/-- A token that was added and is named in place of another one is as good as named. -/
theorem Lawful.setEos_setEos (h : p.Lawful) (added : Added p.addAll (p.vocabulary tok) token)
    (other : String) :
    (setEos (setEos tok token).1 other).1 = (setEos tok other).1 := by
  have first := h.setEos_moves tok token
  have second := h.setEos_moves (setEos tok token).1 other
  have direct := h.setEos_moves tok other
  have kept := h.addAll_singleton added
  refine h.ext ?_ ?_ ?_ ?_
  · rw [second.vocabulary_eq, first.vocabulary_eq, kept, direct.vocabulary_eq]
  · rw [second.special_eq, first.special_eq, direct.special_eq]
  · rw [second.chatTemplate_eq, first.chatTemplate_eq, direct.chatTemplate_eq]
  · rw [second.takes_eq, first.takes_eq, direct.takes_eq]

/-! ## The token that ends a sequence -/

theorem Lawful.added_setEos (h : p.Lawful) (tok : τ) (token : String) :
    Added p.addAll (p.vocabulary (setEos tok token).1) token := by
  rw [(h.setEos_moves tok token).vocabulary_eq]
  exact .now (List.mem_singleton_self token)

theorem Lawful.growsTo_ensureEos (h : p.Lawful) (tok : τ) :
    GrowsTo p.addAll (p.vocabulary tok) (p.vocabulary (ensureEos tok)) := by
  by_cases known : (eosId tok).isSome
  · rw [ensureEos_of_isSome known]
    exact .refl
  · rw [ensureEos_of_not_isSome known, (h.setEos_moves tok standardEos).vocabulary_eq]
    exact .addAll _ .refl

theorem Lawful.isSome_eosId_setEos (h : p.Lawful) (tok : τ) (token : String) :
    (eosId (setEos tok token).1).isSome = p.has (p.vocabulary (setEos tok token).1) token := by
  rw [h.isSome_eosId, (h.setEos_moves tok token).special_eq]
  rfl

/-- A tokenizer that has come from another one and ends sequences with the same token. -/
structure EndsLike (p : Parts τ ν) (tok tok' : τ) : Prop where
  grows : GrowsTo p.addAll (p.vocabulary tok) (p.vocabulary tok')
  eos_eq : (special tok').eos = (special tok).eos

/-- A token that has an id goes on having one. -/
theorem EndsLike.isSome_eosId (like : p.EndsLike tok tok') (h : p.Lawful)
    (known : (eosId tok).isSome) : (eosId tok').isSome := by
  rw [h.isSome_eosId] at known ⊢
  rw [like.eos_eq]
  cases named : (special tok).eos with
  | none =>
    rw [named] at known
    cases known
  | some token =>
    rw [named] at known
    exact (h.steady.has_of_growsTo like.grows (.inl known)).trans known

/-- Where the standard token ends sequences, it was added. -/
theorem EndsLike.standardEos (like : p.EndsLike (ensureEos tok) tok') (h : p.Lawful)
    (unknown : ¬ (eosId tok).isSome) :
    Added p.addAll (p.vocabulary tok') Colloquy.standardEos ∧
      (special tok').eos = some Colloquy.standardEos := by
  rw [ensureEos_of_not_isSome unknown] at like
  refine ⟨(h.added_setEos tok _).mono like.grows, ?_⟩
  rw [like.eos_eq, (h.setEos_moves tok _).special_eq]

theorem EndsLike.ensureEos_again (like : p.EndsLike (ensureEos tok) tok') (h : p.Lawful) :
    ensureEos tok' = tok' ∧
      (¬ (eosId tok').isSome → Added p.addAll (p.vocabulary tok') Colloquy.standardEos) := by
  by_cases known : (eosId tok').isSome
  · exact ⟨ensureEos_of_isSome known, fun unknown => absurd known unknown⟩
  · have before : ¬ (eosId tok).isSome := by
      intro before
      rw [ensureEos_of_isSome before] at like
      exact known (like.isSome_eosId h before)
    obtain ⟨added, named⟩ := like.standardEos h before
    rw [ensureEos_of_not_isSome known]
    exact ⟨h.setEos_eq_self added named, fun _ => added⟩

/-- A token that is named again has an id now just if it had one when it was named first. -/
theorem EndsLike.ensureEos_setEos_again (like : p.EndsLike (ensureEos (setEos tok token).1) tok')
    (h : p.Lawful) :
    Added p.addAll (p.vocabulary tok') token ∧ ensureEos (setEos tok' token).1 = tok' ∧
      (¬ (eosId (setEos tok' token).1).isSome →
        Added p.addAll (p.vocabulary tok') Colloquy.standardEos) := by
  have grows := (h.growsTo_ensureEos (setEos tok token).1).trans like.grows
  have first := h.added_setEos tok token
  have added := first.mono grows
  have vocabulary : p.vocabulary (setEos tok' token).1 = p.vocabulary tok' :=
    (h.setEos_moves tok' token).vocabulary_eq.trans (h.addAll_singleton added)
  have same : (eosId (setEos tok' token).1).isSome = (eosId (setEos tok token).1).isSome := by
    rw [h.isSome_eosId_setEos, h.isSome_eosId_setEos, vocabulary,
      h.steady.has_of_growsTo grows (.inr first)]
  refine ⟨added, ?_⟩
  by_cases known : (eosId (setEos tok token).1).isSome
  · have named : (special tok').eos = some token := by
      rw [like.eos_eq, ensureEos_of_isSome known, (h.setEos_moves tok token).special_eq]
    refine ⟨?_, fun unknown => absurd (same.trans known) unknown⟩
    rw [ensureEos_of_isSome (same.trans known), h.setEos_eq_self added named]
  · obtain ⟨standard, named⟩ := like.standardEos h known
    refine ⟨?_, fun _ => standard⟩
    rw [ensureEos_of_not_isSome (by rwa [same]), h.setEos_setEos added,
      h.setEos_eq_self standard named]

/-- The tokens that were to end sequences were added, and nothing is left to do. -/
theorem EndsLike.ensureEos_endWith_again {eos : Option String}
    (like : p.EndsLike (ensureEos (endWith tok eos)) tok') (h : p.Lawful) :
    ensureEos (endWith tok' eos) = tok' ∧
      p.vocabulary (endWith tok' eos) = p.vocabulary tok' ∧
      (∀ token ∈ eos, Added p.addAll (p.vocabulary tok') token) ∧
      (¬ (eosId (endWith tok' eos)).isSome →
        Added p.addAll (p.vocabulary tok') Colloquy.standardEos) := by
  cases eos with
  | none =>
    obtain ⟨again, standard⟩ := EndsLike.ensureEos_again like h
    exact ⟨again, rfl, by simp, standard⟩
  | some token =>
    obtain ⟨added, again, standard⟩ := EndsLike.ensureEos_setEos_again like h
    exact ⟨again, (h.setEos_moves tok' token).vocabulary_eq.trans (h.addAll_singleton added),
      by simpa using added, standard⟩

/-! ## The token that pads -/

theorem Lawful.ensurePad_of_not_isSome (h : p.Lawful) (unknown : ¬ (padId tok).isSome) :
    ensurePad tok = ((special tok).eos.map (setPad tok)).getD tok := by
  rw [ensurePad, if_pos (by simpa using unknown), h.eos_eq]
  cases (special tok).eos <;> rfl

theorem Lawful.ensurePad_moves (h : p.Lawful) (tok : τ) :
    p.Moves tok (ensurePad tok) (p.vocabulary tok)
      { special tok with pad := (special (ensurePad tok)).pad } (chatTemplate tok) := by
  by_cases known : (padId tok).isSome
  · rw [ensurePad_of_isSome known]
    exact ⟨rfl, rfl, rfl, rfl⟩
  · rw [h.ensurePad_of_not_isSome known]
    cases (special tok).eos with
    | none => exact ⟨rfl, rfl, rfl, rfl⟩
    | some token =>
      have change := h.setPad_moves tok token
      exact ⟨change.vocabulary_eq, by simp [change.special_eq], change.chatTemplate_eq,
        change.takes_eq⟩

theorem EndsLike.ensurePad_again (like : p.EndsLike (ensurePad tok) tok') (h : p.Lawful)
    (pad_eq : (special tok').pad = (special (ensurePad tok)).pad) : ensurePad tok' = tok' := by
  by_cases known : (padId tok').isSome
  · exact ensurePad_of_isSome known
  · have before : ¬ (padId tok).isSome := by
      intro before
      rw [ensurePad_of_isSome before] at like pad_eq
      rw [h.isSome_padId] at known before
      cases named : (special tok).pad with
      | none =>
        rw [named] at before
        cases before
      | some token =>
        rw [pad_eq, named] at known
        rw [named] at before
        exact known ((h.steady.has_of_growsTo like.grows (.inl before)).trans before)
    have eos_eq := like.eos_eq
    rw [(h.ensurePad_moves tok).special_eq] at eos_eq
    rw [h.ensurePad_of_not_isSome known, eos_eq]
    cases named : (special tok).eos with
    | none => rfl
    | some token =>
      have padded : (special tok').pad = some token := by
        rw [pad_eq, h.ensurePad_of_not_isSome before, named]
        exact congrArg SpecialTokens.pad (h.setPad_moves tok token).special_eq
      exact (h.setPad_moves tok' token).eq_self h rfl (by rw [← padded]) rfl

/-! ## The other special tokens -/

theorem Lawful.ensureSpecials_moves (h : p.Lawful) (tok : τ) (tokens : List String) :
    p.Moves tok (ensureSpecials tok tokens) (p.addAll (p.vocabulary tok) tokens)
      { special tok with additional := tokens.foldl appendNew (special tok).additional }
      (chatTemplate tok) := by
  cases tokens with
  | nil => exact ⟨(h.steady.addAll_of_added (by simp)).symm, rfl, rfl, rfl⟩
  | cons token tokens => exact h.addSpecials_moves tok (token :: tokens)

theorem Lawful.ensureSpecials_eq_self (h : p.Lawful)
    (added : ∀ token ∈ tokens, Added p.addAll (p.vocabulary tok) token)
    (listed : ∀ token ∈ tokens, token ∈ (special tok).additional) :
    ensureSpecials tok tokens = tok :=
  (h.ensureSpecials_moves tok tokens).eq_self h (h.steady.addAll_of_added added)
    (by rw [foldl_appendNew_of_mem listed]) rfl

/-! ## The chat template -/

theorem Lawful.compile_eq (h : p.Lawful) (t : Template)
    (vocabulary : p.vocabulary tok' = p.vocabulary tok) (same : special tok' = special tok) :
    t.compile tok' = t.compile tok := by
  apply t.compile_congr
  apply Template.slotItems_congr
  · rw [h.bos_eq, h.bos_eq, same]
  · rw [h.isSome_bosId, h.isSome_bosId, same, vocabulary]
  · rw [h.eos_eq, h.eos_eq, same]
  · rw [h.isSome_eosId, h.isSome_eosId, same, vocabulary]

theorem Lawful.installTemplate_of_refused (h : p.Lawful) {t : Template}
    (refused : ∀ text, t.compile tok = .ok text → takes tok = false) :
    installTemplate tok t = tok := by
  unfold installTemplate
  cases compiled : t.compile tok with
  | error e => rfl
  | ok text =>
    obtain ⟨e, he⟩ := h.setChatTemplate_refused text (refused text compiled)
    simp only [he]

/-- A compiled template is installed just where there is one and the tokenizer takes it. -/
theorem Lawful.installTemplate_cases (h : p.Lawful) (t : Template) (tok : τ) :
    (installTemplate tok t = tok ∧ ∀ text, t.compile tok = .ok text → takes tok = false) ∨
      ∃ text, t.compile tok = .ok text ∧
        p.Moves tok (installTemplate tok t) (p.vocabulary tok) (special tok) (some text) := by
  by_cases refused : ∀ text, t.compile tok = .ok text → takes tok = false
  · exact .inl ⟨h.installTemplate_of_refused refused, refused⟩
  · simp only [not_forall, Bool.not_eq_false] at refused
    obtain ⟨text, compiled, takes⟩ := refused
    obtain ⟨tok', taken, moves⟩ := h.setChatTemplate_moves text takes
    rw [installTemplate_of_taken compiled taken]
    exact .inr ⟨text, compiled, moves⟩

theorem Lawful.installTemplate_moves (h : p.Lawful) (t : Template) (tok : τ) :
    p.Moves tok (installTemplate tok t) (p.vocabulary tok) (special tok)
      (chatTemplate (installTemplate tok t)) := by
  rcases h.installTemplate_cases t tok with ⟨same, -⟩ | ⟨text, -, moves⟩
  · rw [same]
    exact ⟨rfl, rfl, rfl, rfl⟩
  · exact ⟨moves.vocabulary_eq, moves.special_eq, rfl, moves.takes_eq⟩

theorem Lawful.installTemplate_again (h : p.Lawful) (t : Template) (tok : τ) :
    installTemplate (installTemplate tok t) t = installTemplate tok t := by
  have first := h.installTemplate_moves t tok
  have compiled := h.compile_eq t first.vocabulary_eq first.special_eq
  rcases h.installTemplate_cases t tok with ⟨same, refused⟩ | ⟨text, ok, moves⟩
  · rw [same, same]
  · rcases h.installTemplate_cases t (installTemplate tok t) with ⟨same, -⟩ | ⟨text', ok', again⟩
    · exact same
    · obtain rfl : text = text' := by simpa [ok, ok'] using compiled.symm
      exact again.eq_self h rfl rfl moves.chatTemplate_eq.symm

end Parts

end Tokenizer

namespace Template

open Tokenizer

variable {τ ν : Type} [Tokenizer τ]

/-! ## All steps -/

/-- The number of tokens that the vocabulary is told to gain when a tokenizer is prepared with a
stop word in place of the token that ends a sequence and with other stop words. -/
def reportedGrowth (tok : τ) (eos : Option String) (stopWords : List String) : Nat :=
  let named := endWith tok eos
  (eos.elim 0 fun token => (setEos tok token).2) +
    (if (eosId named).isSome then 0 else (setEos named standardEos).2) +
      if stopWords.isEmpty then 0
      else (addSpecials (ensurePad (ensureEos named)) stopWords false).2

variable [Inspect τ] {p : Parts τ ν}

/-- A tokenizer on which no step of preparing it has anything to do. -/
structure Settled (p : Parts τ ν) (t : Template) (eos : Option String) (stopWords : List String)
    (tok : τ) : Prop where
  ended : ensureEos (endWith tok eos) = tok
  padded : ensurePad tok = tok
  installed : installTemplate tok t = tok
  vocabulary_endWith : p.vocabulary (endWith tok eos) = p.vocabulary tok
  eos_added : ∀ token ∈ eos, Added p.addAll (p.vocabulary tok) token
  standardEos_added :
    ¬ (eosId (endWith tok eos)).isSome → Added p.addAll (p.vocabulary tok) standardEos
  stopWords_added : ∀ token ∈ stopWords, Added p.addAll (p.vocabulary tok) token
  stopWords_listed : ∀ token ∈ stopWords, token ∈ (special tok).additional

section

variable {t : Template} {tok : τ} {eos : Option String} {stopWords : List String}

theorem Settled.prepare_eq (settled : Settled p t eos stopWords tok) (h : p.Lawful) :
    t.prepare tok eos stopWords = tok := by
  rw [prepare, settled.ended, settled.padded,
    h.ensureSpecials_eq_self settled.stopWords_added settled.stopWords_listed, settled.installed]

theorem Settled.reportedGrowth_eq (settled : Settled p t eos stopWords tok) (h : p.Lawful) :
    reportedGrowth tok eos stopWords = 0 := by
  simp only [reportedGrowth, settled.ended, settled.padded, Nat.add_eq_zero_iff, and_assoc]
  refine ⟨?_, ?_, ?_⟩
  · cases eos with
    | none => rfl
    | some token => exact h.setEos_growth (h.addAll_singleton (settled.eos_added token rfl))
  · split
    · rfl
    · rename_i unknown
      refine h.setEos_growth ?_
      rw [settled.vocabulary_endWith]
      exact h.addAll_singleton (settled.standardEos_added unknown)
  · split
    · rfl
    · exact h.addSpecials_growth (h.steady.addAll_of_added settled.stopWords_added)

/-- A tokenizer that is prepared has nothing left to do. -/
theorem settled_prepare (h : p.Lawful) (t : Template) (tok : τ) (eos : Option String)
    (stopWords : List String) : Settled p t eos stopWords (t.prepare tok eos stopWords) := by
  have padded := h.ensurePad_moves (ensureEos (endWith tok eos))
  have listed := h.ensureSpecials_moves (ensurePad (ensureEos (endWith tok eos))) stopWords
  have installed := h.installTemplate_moves t
    (ensureSpecials (ensurePad (ensureEos (endWith tok eos))) stopWords)
  have template := h.installTemplate_again t
    (ensureSpecials (ensurePad (ensureEos (endWith tok eos))) stopWords)
  rw [show t.prepare tok eos stopWords = installTemplate
    (ensureSpecials (ensurePad (ensureEos (endWith tok eos))) stopWords) t from rfl]
  generalize installTemplate
    (ensureSpecials (ensurePad (ensureEos (endWith tok eos))) stopWords) t = tok' at *
  -- What the steps that follow have left of each of the first ones.
  have vocabulary := installed.vocabulary_eq.trans listed.vocabulary_eq
  have tokens := installed.special_eq.trans listed.special_eq
  have paddedLike : p.EndsLike (ensurePad (ensureEos (endWith tok eos))) tok' :=
    ⟨vocabulary ▸ .addAll stopWords .refl, by rw [tokens]⟩
  have endedLike : p.EndsLike (ensureEos (endWith tok eos)) tok' :=
    ⟨padded.vocabulary_eq ▸ paddedLike.grows, by rw [tokens, padded.special_eq]⟩
  obtain ⟨ended, same, added, standard⟩ := endedLike.ensureEos_endWith_again h
  exact {
    ended := ended
    padded := paddedLike.ensurePad_again h (by rw [tokens])
    installed := template
    vocabulary_endWith := same
    eos_added := added
    standardEos_added := standard
    stopWords_added := fun token ht => by
      rw [vocabulary]
      exact .now ht
    stopWords_listed := fun token ht => by
      rw [tokens]
      exact mem_foldl_appendNew (.inr ht) }

end

end Template

open Template Tokenizer

section

variable {τ ν : Type} [Tokenizer τ] {r : Registry} {tok tok' : τ} {name : Option String}

/-- The tokenizer that is left when a name is resolved: where that fails, the one that there was. -/
def Registry.tokenizerAfter (r : Registry) (tok : τ) (name : Option String) : τ :=
  match r.resolve tok name with
  | .ok (_, tok') => tok'
  | .error _ => tok

/-- Resolving a name once more finds nothing to do. -/
structure Registry.SettlesAtOnce (r : Registry) (tok : τ) (name : Option String) : Prop where
  tokenizer_eq : r.tokenizerAfter (r.tokenizerAfter tok name) name = r.tokenizerAfter tok name
  resolve_eq : ∀ t tok', r.resolve tok name = .ok (t, tok') → r.resolve tok' name = .ok (t, tok')
  growth_eq : ∀ t tok', r.resolve tok name = .ok (t, tok') →
    reportedGrowth tok' t.firstStop? t.otherStops = 0

variable [Inspect τ] {p : Parts τ ν}

theorem resolve_again (h : p.Lawful) {t : Template}
    (resolved : r.resolve tok name = .ok (t, tok')) :
    r.resolve tok' name = .ok (t, tok') ∧
      reportedGrowth tok' t.firstStop? t.otherStops = 0 := by
  obtain ⟨registered, stops, rfl⟩ := Registry.resolve_eq_ok_iff.1 resolved
  have settled := settled_prepare h t tok t.firstStop? t.otherStops
  exact ⟨Registry.resolve_eq_ok_iff.2 ⟨registered, stops, (settled.prepare_eq h).symm⟩,
    settled.reportedGrowth_eq h⟩

theorem settlesAtOnce (h : p.Lawful) (r : Registry) (tok : τ) (name : Option String) :
    r.SettlesAtOnce tok name where
  tokenizer_eq := by
    unfold Registry.tokenizerAfter
    cases resolved : r.resolve tok name with
    | error e => simp only [resolved]
    | ok first => simp only [(resolve_again h resolved).1]
  resolve_eq _ _ resolved := (resolve_again h resolved).1
  growth_eq _ _ resolved := (resolve_again h resolved).2

end

/-- Resolving a name twice is resolving it once, for character tokenizers and for configured ones
over any vocabulary that does not change when a token is added again and in which ids stay. -/
theorem resolve_idempotent :
    (∀ (r : Registry) (tok : CharLevel) (name : Option String), r.SettlesAtOnce tok name) ∧
      ∀ (ν : Type) [Vocabulary ν] [SteadyVocabulary ν] (r : Registry) (tok : Configured ν)
        (name : Option String), r.SettlesAtOnce tok name :=
  ⟨settlesAtOnce CharLevel.parts_lawful, fun _ _ _ => settlesAtOnce Configured.parts_lawful⟩

/-- A template that ends sequences with the empty stop word. -/
def wordless : Template :=
  Template.Spec.build {
    name := "wordless"
    stopWords := ["", "<halt>", "<|endoftext|>", ""]
    replaceEos := true }

/-- The empty word never gets an id, so the standard token takes its place each time. -/
theorem resolve_idempotent_wordless :
    ((Registry.ofList [wordless]).SettlesAtOnce CharLevel.empty "wordless" ∧
      ∃ tok, (Registry.ofList [wordless]).resolve CharLevel.empty "wordless" = .ok (wordless, tok) ∧
        tok.eosToken = some "" ∧ tok.vocab = ["", "<halt>", "<|endoftext|>"]) ∧
    (Registry.ofList [wordless]).SettlesAtOnce oneWord "wordless" ∧
      ∃ tok, (Registry.ofList [wordless]).resolve oneWord "wordless" = .ok (wordless, tok) ∧
        tok.special.eos = some standardEos ∧
        tok.vocabulary.added = [(standardEos, 1), ("<halt>", 2)] :=
  ⟨⟨resolve_idempotent.1 _ _ _, _, rfl, by decide, by decide⟩,
    resolve_idempotent.2 Words _ _ _, _, rfl, by decide, by decide⟩

end Colloquy
