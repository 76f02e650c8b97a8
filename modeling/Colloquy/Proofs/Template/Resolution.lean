import Colloquy.Template.Resolve
import Colloquy.Proofs.Except
import Colloquy.Proofs.Tokenizer.Changes

/-!
# Tokenizers prepared for a template

What `resolve` does to a tokenizer, step by step: the token that ends a sequence is replaced or
filled in, then the one that pads, then the other stop words are listed, and at last the compiled
template is installed. Each step makes one change (`Becomes`) and leaves the tokenizer with the ids
that the next one asks for; together they are all that `resolve` does (`resolve_resolves`).
-/

namespace Colloquy

namespace Tokenizer

/-! ## Steps -/

variable {τ : Type} [Tokenizer τ] [Inspect τ] [Lawful τ]

open Inspect

theorem Becomes.isSome_eosId {a b : τ} {tokens : SpecialTokens} {template : Option String}
    (h : Becomes a b tokens template) (same : tokens.eos = (special a).eos)
    (known : (eosId a).isSome) : (eosId b).isSome := by
  rw [Lawful.eosId_eq] at known ⊢
  rw [h.special_eq, same]
  exact h.isSome_bind_roleId? known

theorem Becomes.isSome_padId {a b : τ} {tokens : SpecialTokens} {template : Option String}
    (h : Becomes a b tokens template) (same : tokens.pad = (special a).pad)
    (known : (padId a).isSome) : (padId b).isSome := by
  rw [Lawful.padId_eq] at known ⊢
  rw [h.special_eq, same]
  exact h.isSome_bind_roleId? known

theorem endWith_becomes (tok : τ) (eos : Option String) :
    Becomes tok (endWith tok eos) { special tok with eos := eos.or (special tok).eos }
      (chatTemplate tok) := by
  cases eos with
  | none => exact .refl tok
  | some token => exact Lawful.setEos_becomes tok token

theorem ensureEos_becomes (tok : τ) :
    Becomes tok (ensureEos tok)
      { special tok with
        eos := if (eosId tok).isSome then (special tok).eos else some standardEos }
      (chatTemplate tok) ∧
      (eosId (ensureEos tok)).isSome := by
  unfold ensureEos
  by_cases known : (eosId tok).isSome
  · rw [if_neg (by simp [Option.isSome_iff_ne_none.1 known]), if_pos known]
    exact ⟨.refl tok, known⟩
  · have change := Lawful.setEos_becomes tok standardEos
    rw [if_pos (by simpa using known), if_neg known]
    refine ⟨change, ?_⟩
    rw [Lawful.eosId_eq, change.special_eq]
    exact Lawful.isSome_roleId?_setEos tok (by decide)

/-- A tokenizer with a token that ends a sequence gets one that pads. -/
theorem ensurePad_becomes {tok : τ} (ends : (eosId tok).isSome) :
    Becomes tok (ensurePad tok)
      { special tok with
        pad := if (padId tok).isSome then (special tok).pad else (special tok).eos }
      (chatTemplate tok) ∧
      (eosId (ensurePad tok)).isSome ∧ (padId (ensurePad tok)).isSome := by
  unfold ensurePad
  by_cases known : (padId tok).isSome
  · rw [if_neg (by simp [Option.isSome_iff_ne_none.1 known]), if_pos known]
    exact ⟨.refl tok, ends, known⟩
  · rw [if_pos (by simpa using known), if_neg known, Lawful.eos_eq]
    have id := ends
    rw [Lawful.eosId_eq] at id
    cases named : (special tok).eos with
    | none =>
      rw [named] at id
      cases id
    | some token =>
      have change := Lawful.setPad_becomes tok token
      refine ⟨change, change.isSome_eosId rfl ends, ?_⟩
      rw [Lawful.padId_eq, change.special_eq]
      rw [named] at id
      exact change.isSome_bind_roleId? id

theorem ensureSpecials_becomes (tok : τ) (tokens : List String) :
    Becomes tok (ensureSpecials tok tokens)
      { special tok with
        additional := (special tok).additional ++
          (tokens.filter (· ∉ (special tok).additional)).eraseDups }
      (chatTemplate tok) := by
  rw [← foldl_appendNew]
  unfold ensureSpecials
  cases tokens with
  | nil => exact .refl tok
  | cons token tokens => exact Lawful.addSpecials_becomes tok (token :: tokens)

end Tokenizer

namespace Template

open Inspect Tokenizer

variable {τ : Type} [Tokenizer τ]

/-! ## The compiled template -/

theorem slotItems_congr {tok tok' : τ} (bos_eq : bos tok = bos tok')
    (bosId_eq : (bosId tok).isSome = (bosId tok').isSome) (eos_eq : eos tok = eos tok')
    (eosId_eq : (eosId tok).isSome = (eosId tok').isSome) : slotItems tok = slotItems tok' := by
  funext var slot
  cases slot <;> simp [slotItems, specialItem, bos_eq, bosId_eq, eos_eq, eosId_eq]

/-- A template compiles to the same for tokenizers whose sequences begin and end alike. -/
theorem compile_congr (t : Template) {tok tok' : τ} (h : slotItems tok = slotItems tok') :
    t.compile tok = t.compile tok' := by
  have exprs : ∀ role var slots, slotsExpr tok role var slots = slotsExpr tok' role var slots := by
    intro role var slots
    rw [slotsExpr, slotsExpr, h]
  simp only [compile, program, exprs]

variable [Inspect τ] [Lawful τ]

theorem compile_eq_of_roleId?_eq (t : Template) {tok tok' : τ} (named : special tok' = special tok)
    (ids : roleId? tok' = roleId? tok) : t.compile tok' = t.compile tok := by
  apply compile_congr
  apply slotItems_congr
  · rw [Lawful.bos_eq, Lawful.bos_eq, named]
  · rw [Lawful.bosId_eq, Lawful.bosId_eq, named, ids]
  · rw [Lawful.eos_eq, Lawful.eos_eq, named]
  · rw [Lawful.eosId_eq, Lawful.eosId_eq, named, ids]

/-- The compiled template becomes the chat template if there is one and the tokenizer takes it. -/
theorem installTemplate_becomes (t : Template) (tok : τ) :
    Becomes tok (installTemplate tok t) (special tok)
      (match t.compile (installTemplate tok t) with
        | .ok text => if takes tok then some text else chatTemplate tok
        | .error _ => chatTemplate tok) := by
  unfold installTemplate
  cases compiled : t.compile tok with
  | error e =>
    simp only [compiled]
    exact .refl tok
  | ok text =>
    dsimp only
    cases open' : takes tok with
    | false =>
      obtain ⟨e, refused⟩ := Lawful.setChatTemplate_refused text open'
      simp only [refused, compiled]
      exact .refl tok
    | true =>
      obtain ⟨tok', taken, change, ids⟩ := Lawful.setChatTemplate_becomes text open'
      simp only [taken, compile_eq_of_roleId?_eq t change.special_eq ids, compiled, if_true]
      exact change

/-! ## All steps -/

/-- The stop word that takes the place of the token that ends a sequence. -/
def firstStop? (t : Template) : Option String :=
  if t.replaceEos then t.stopWords.head? else none

/-- The stop words that become special tokens. -/
def otherStops (t : Template) : List String :=
  if t.replaceEos then t.stopWords.tail else t.stopWords

theorem stops_eq_ok_iff {t : Template} {stops : Option String × List String} :
    t.stops = .ok stops ↔
      (t.replaceEos = true → t.stopWords ≠ []) ∧ stops = (t.firstStop?, t.otherStops) := by
  unfold Template.stops firstStop? otherStops
  cases t.replaceEos with
  | false => simp [eq_comm]
  | true => cases t.stopWords <;> simp [eq_comm]

/-- The tokenizer with the token that ends a sequence for a template. -/
def ended (t : Template) (tok : τ) : τ :=
  ensureEos (endWith tok t.firstStop?)

/-- What a template has made of a tokenizer. -/
structure Resolves (t : Template) (tok tok' : τ) : Prop where
  /-- A stop word ends sequences if it is to do so and has an id once it is added. -/
  eos_replaced : ∀ token, t.firstStop? = some token →
    (special tok').eos =
      if (eosId (setEos tok token).1).isSome then some token else some standardEos
  eos_kept : t.firstStop? = none →
    (special tok').eos = if (eosId tok).isSome then (special tok).eos else some standardEos
  eosId_isSome : (eosId tok').isSome
  padId_isSome : (padId tok').isSome
  pad_eq : (special tok').pad =
    if (padId (t.ended tok)).isSome then (special tok).pad else (special tok').eos
  additional_eq : (special tok').additional = (special tok).additional ++
    (t.otherStops.filter (· ∉ (special tok).additional)).eraseDups
  bos_eq : (special tok').bos = (special tok).bos
  unk_eq : (special tok').unk = (special tok).unk
  known?_eq : ∀ token id, known? tok token = some id →
    known? tok' token = some id ∧ tokenId tok' token = id
  chatTemplate_eq : chatTemplate tok' =
    match t.compile tok' with
    | .ok text => if takes tok' then some text else chatTemplate tok
    | .error _ => chatTemplate tok

/-- What the first steps have made of a tokenizer, ahead of the chat template. -/
theorem ended_becomes (t : Template) (tok : τ) :
    Becomes tok (t.ended tok)
      { special tok with
        eos := if (eosId (endWith tok t.firstStop?)).isSome then
          t.firstStop?.or (special tok).eos else some standardEos }
      (chatTemplate tok) ∧
      (eosId (t.ended tok)).isSome := by
  have replaced := endWith_becomes tok t.firstStop?
  obtain ⟨filled, ends⟩ := ensureEos_becomes (endWith tok t.firstStop?)
  rw [replaced.special_eq, replaced.chatTemplate_eq] at filled
  exact ⟨replaced.trans filled, ends⟩

theorem resolves_prepare (t : Template) (tok : τ) :
    t.Resolves tok (t.prepare tok t.firstStop? t.otherStops) := by
  obtain ⟨ended, ends⟩ := ended_becomes t tok
  obtain ⟨padded, ends, pads⟩ := ensurePad_becomes ends
  have listed := ensureSpecials_becomes (ensurePad (t.ended tok)) t.otherStops
  have ends := listed.isSome_eosId rfl ends
  have pads := listed.isSome_padId rfl pads
  have installed := installTemplate_becomes t
    (ensureSpecials (ensurePad (t.ended tok)) t.otherStops)
  have ends := installed.isSome_eosId rfl ends
  have pads := installed.isSome_padId rfl pads
  -- What the tokenizer has at last, in terms of what it had at first.
  rw [ended.special_eq, ended.chatTemplate_eq] at padded
  rw [padded.special_eq, padded.chatTemplate_eq] at listed
  rw [listed.special_eq, listed.chatTemplate_eq] at installed
  have change := ((ended.trans padded).trans listed).trans installed
  rw [show t.prepare tok t.firstStop? t.otherStops =
    installTemplate (ensureSpecials (ensurePad (t.ended tok)) t.otherStops) t from rfl]
  exact {
    eos_replaced := fun token first => by
      rw [change.special_eq, first]
      rfl
    eos_kept := fun none => by
      rw [change.special_eq, none]
      rfl
    eosId_isSome := ends
    padId_isSome := pads
    pad_eq := by rw [change.special_eq]
    additional_eq := by rw [change.special_eq]
    bos_eq := by rw [change.special_eq]
    unk_eq := by rw [change.special_eq]
    known?_eq := fun _ _ known =>
      ⟨change.known?_eq known, Lawful.tokenId_eq (change.known?_eq known)⟩
    chatTemplate_eq := by rw [change.chatTemplate_eq, installed.takes_eq] }

end Template

open Template

/-- Only looking up the template and its stop words can fail. -/
theorem Registry.resolve_eq_ok_iff {τ : Type} [Tokenizer τ] {r : Registry} {tok tok' : τ}
    {name : Option String} {t : Template} :
    r.resolve tok name = .ok (t, tok') ↔
      r.get (name.getD emptyTemplateName) = .ok t ∧
        (t.replaceEos = true → t.stopWords ≠ []) ∧
        tok' = t.prepare tok t.firstStop? t.otherStops := by
  simp only [resolve, bind_eq_ok_iff, pure_eq_ok, Except.ok.injEq, Prod.mk.injEq,
    stops_eq_ok_iff]
  constructor
  · rintro ⟨t, ht, -, ⟨some, rfl⟩, rfl, rfl⟩
    exact ⟨ht, some, rfl⟩
  · rintro ⟨ht, some, rfl⟩
    exact ⟨t, ht, _, ⟨some, rfl⟩, rfl, rfl⟩

theorem resolves_of_resolve {τ : Type} [Tokenizer τ] [Inspect τ] [Tokenizer.Lawful τ] {r : Registry}
    {tok tok' : τ} {name : Option String} {t : Template} (h : r.resolve tok name = .ok (t, tok')) :
    r.get (name.getD emptyTemplateName) = .ok t ∧ t.Resolves tok tok' := by
  obtain ⟨registered, -, rfl⟩ := Registry.resolve_eq_ok_iff.1 h
  exact ⟨registered, resolves_prepare t tok⟩

/-- A character tokenizer, and a configured one over any vocabulary that gives ids to added tokens
and keeps them, comes out of `resolve` with what `Resolves` says of it. -/
theorem resolve_resolves :
    (∀ (r : Registry) (tok tok' : CharLevel) (name : Option String) (t : Template),
      r.resolve tok name = .ok (t, tok') →
        r.get (name.getD emptyTemplateName) = .ok t ∧ t.Resolves tok tok') ∧
    ∀ (ν : Type) [Vocabulary ν] [LawfulVocabulary ν] (r : Registry) (tok tok' : Configured ν)
      (name : Option String) (t : Template),
      r.resolve tok name = .ok (t, tok') →
        r.get (name.getD emptyTemplateName) = .ok t ∧ t.Resolves tok tok' :=
  ⟨fun _ _ _ _ _ => resolves_of_resolve, fun _ _ _ _ _ _ _ _ => resolves_of_resolve⟩

/-- A template that ends sequences with one of two stop words. -/
def halting : Template :=
  Template.Spec.build {
    name := "halting"
    stopWords := ["<stop>", "<halt>", "<halt>"]
    replaceEos := true }

/-- A tokenizer of one word. -/
def oneWord : WordLevel :=
  ⟨⟨[("hello", 0)], "hello", .blanks, []⟩, SpecialTokens.none, none⟩

/-- Both kinds of tokenizers end sequences with the first stop word and list the other one once. -/
theorem resolve_resolves_halting :
    (∃ tok, (Registry.ofList [halting]).resolve CharLevel.empty "halting" = .ok (halting, tok) ∧
      halting.Resolves CharLevel.empty tok) ∧
    ∃ tok, (Registry.ofList [halting]).resolve oneWord "halting" = .ok (halting, tok) ∧
      halting.Resolves oneWord tok ∧ tok.special.eos = some "<stop>" ∧
      tok.special.additional = ["<halt>"] := by
  obtain ⟨tok, h⟩ : ∃ tok,
      (Registry.ofList [halting]).resolve CharLevel.empty "halting" = .ok (halting, tok) := ⟨_, rfl⟩
  obtain ⟨tok', h'⟩ : ∃ tok,
      (Registry.ofList [halting]).resolve oneWord "halting" = .ok (halting, tok) := ⟨_, rfl⟩
  have resolved := (resolve_resolves.2 Words _ oneWord tok' _ _ h').2
  have known : (Tokenizer.eosId (Tokenizer.setEos oneWord "<stop>").1).isSome := by decide
  refine ⟨⟨tok, h, (resolve_resolves.1 _ _ tok _ _ h).2⟩, tok', h', resolved, ?_, ?_⟩
  · exact (resolved.eos_replaced "<stop>" rfl).trans (if_pos known)
  · exact resolved.additional_eq.trans (by decide)

end Colloquy
