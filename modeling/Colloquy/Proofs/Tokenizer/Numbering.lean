import Mathlib.Algebra.Group.Nat.Defs
import Colloquy.Proofs.Template.Idempotence
import Colloquy.Proofs.Tokenizer.Decoding

/-!
# Numbered vocabularies

A table of ids is kept token by token: a token that is new gets the id that follows from how many
there are, and any other one keeps its id (`IdTable.intern`). Each operation on a character
tokenizer, preparing it for a template included, interns some tokens one after the other
(`Operation.vocab_apply`), and no token comes twice into the list of additional ones
(`Operation.nodup_additional_apply`). So the ids in a vocabulary are those of a table in which the
same tokens were interned: the numbers from 1 to the number of tokens, each the id of one token,
which keeps it (`run_numbers`).
-/

namespace Colloquy

/-! ## Tables of ids -/

/-- Tokens with their ids, in the order in which they got them. -/
abbrev IdTable (ι : Type) := List (String × ι)

namespace IdTable

variable {ι : Type} (next : Nat → ι)

/-- A table with an id for one more token, and whether the token is new. The id of a new one
follows from the number of tokens so far. -/
def intern (table : IdTable ι) (token : String) : IdTable ι × Bool :=
  if (table.lookup token).isSome then (table, false)
  else (table ++ [(token, next table.length)], true)

/-- A table with ids for more tokens, one after the other, and the number of new ones. -/
def internAll (table : IdTable ι) : List String → IdTable ι × Nat
  | [] => (table, 0)
  | token :: tokens =>
    let (grown, new) := intern next table token
    let (all, count) := internAll grown tokens
    (all, count + if new then 1 else 0)

/-- The table of different tokens that got their ids in this order. -/
def ofTokens (tokens : List String) : IdTable ι :=
  tokens.zipIdx.map fun t => (t.1, next t.2)

theorem isSome_lookup_ofTokens {tokens : List String} {token : String} :
    ((ofTokens next tokens).lookup token).isSome ↔ token ∈ tokens := by
  have firsts : (ofTokens next tokens).map Prod.fst = tokens := by
    rw [ofTokens, List.map_map]
    exact List.zipIdx_map_fst 0 tokens
  rw [List.lookup_isSome_iff]
  constructor
  · rintro ⟨entry, mem, same⟩
    rw [← firsts, eq_of_beq same]
    exact List.mem_map_of_mem mem
  · intro mem
    rw [← firsts] at mem
    obtain ⟨entry, listed, rfl⟩ := List.mem_map.1 mem
    exact ⟨entry, listed, beq_self_eq_true entry.1⟩

theorem intern_ofTokens (tokens : List String) (token : String) :
    intern next (ofTokens next tokens) token =
      (ofTokens next (Tokenizer.appendNew tokens token), decide (token ∉ tokens)) := by
  unfold intern Tokenizer.appendNew
  by_cases known : token ∈ tokens
  · rw [if_pos ((isSome_lookup_ofTokens next).2 known), if_pos known]
    simp [known]
  · rw [if_neg (mt (isSome_lookup_ofTokens next).1 known), if_neg known]
    simp [known, ofTokens, List.zipIdx_append]

/-- As many tokens are counted as the table grows by. -/
theorem internAll_ofTokens (old tokens : List String) :
    ∃ count, internAll next (ofTokens next old) tokens =
        (ofTokens next (tokens.foldl Tokenizer.appendNew old), count) ∧
      (tokens.foldl Tokenizer.appendNew old).length = old.length + count := by
  induction tokens generalizing old with
  | nil => exact ⟨0, rfl, rfl⟩
  | cons token tokens ih =>
    obtain ⟨count, rest, grown⟩ := ih (Tokenizer.appendNew old token)
    refine ⟨count + if token ∈ old then 0 else 1, ?_, ?_⟩
    · rw [internAll, intern_ofTokens]
      by_cases known : token ∈ old <;> simp [rest, known]
    · rw [List.foldl_cons, grown, Tokenizer.appendNew]
      split
      · omega
      · rw [List.length_append, List.length_singleton]
        omega

/-- The id that is given out after `count` others. -/
def idAfter (count : Nat) : TokenId :=
  count + 1

/-- The id that is given out after `count` others where an id is a word of 32 bits. -/
def wordAfter (count : Nat) : UInt32 :=
  .ofNat count + 1

/-- The ids as numbers. -/
def toNats (table : IdTable UInt32) : IdTable TokenId :=
  table.map fun entry => (entry.1, entry.2.toNat)

theorem toNat_wordAfter {count : Nat} (few : count + 1 < 2 ^ 32) :
    (wordAfter count).toNat = idAfter count := by
  rw [wordAfter, UInt32.toNat_add, UInt32.toNat_ofNat']
  show (count % 2 ^ 32 + 1) % 2 ^ 32 = count + 1
  omega

/-- Words have room for the ids of fewer tokens than there are words. -/
theorem toNats_ofTokens {tokens : List String} (few : tokens.length < 2 ^ 32) :
    toNats (ofTokens wordAfter tokens) = ofTokens idAfter tokens := by
  rw [toNats, ofTokens, ofTokens, List.map_map]
  apply List.map_congr_left
  intro entry mem
  have here := List.mem_zipIdx_iff_getElem?.1 mem
  obtain ⟨below, -⟩ := List.getElem?_eq_some_iff.1 here
  rw [Function.comp_apply, toNat_wordAfter (by omega)]

end IdTable

namespace CharLevel

open Tokenizer (appendNew)

/-! ## Vocabularies and their ids -/

/-- The tokens of the vocabulary with their ids. -/
def idTable (tok : CharLevel) : IdTable TokenId :=
  tok.vocab.map fun token => (token, tok.idOf token)

section

variable {tok tok' : CharLevel}

/-- Of different tokens each has the id that follows from its place. -/
theorem idTable_eq (nodup : tok.vocab.Nodup) :
    tok.idTable = IdTable.ofTokens IdTable.idAfter tok.vocab := by
  apply List.ext_getElem?
  intro i
  rw [idTable, IdTable.ofTokens, List.getElem?_map, List.getElem?_map, List.getElem?_zipIdx]
  cases here : tok.vocab[i]? with
  | none => rfl
  | some token =>
    obtain ⟨j, id, there⟩ := getElem?_idOf (List.mem_of_getElem? here)
    obtain ⟨below, -⟩ := List.getElem?_eq_some_iff.1 here
    obtain rfl : i = j := (List.getElem?_inj below nodup).1 (here.trans there.symm)
    simp [id, IdTable.idAfter]

/-- The ids in a vocabulary are the numbers from 1 to the number of tokens, each of them once, and
other tokens have the id of unknown ones. -/
structure Numbered (tok : CharLevel) : Prop where
  ids_eq : tok.vocab.map tok.idOf = List.range' 1 tok.vocab.length
  idOf_eq_unknownId_iff : ∀ token, tok.idOf token = unknownId ↔ token ∉ tok.vocab

theorem numbered (nodup : tok.vocab.Nodup) : tok.Numbered where
  ids_eq := by
    have next : IdTable.idAfter = fun count => 1 + count := funext fun _ => Nat.add_comm _ 1
    calc tok.vocab.map tok.idOf
        = tok.idTable.map Prod.snd := by
          rw [idTable, List.map_map]
          rfl
      _ = (tok.vocab.zipIdx.map Prod.snd).map IdTable.idAfter := by
          rw [idTable_eq nodup, IdTable.ofTokens, List.map_map, List.map_map]
          rfl
      _ = List.range' 1 tok.vocab.length := by
          rw [List.zipIdx_map_snd, next, List.map_add_range']
  idOf_eq_unknownId_iff token := by
    constructor
    · intro unknown mem
      obtain ⟨i, id, -⟩ := getElem?_idOf mem
      rw [id] at unknown
      exact Nat.succ_ne_zero i unknown
    · intro absent
      rw [idOf, List.idxOf?_eq_none_iff.2 absent]

/-- A token keeps its id when others are put behind it. -/
theorem idOf_of_vocab_eq_append {new : List String} (grown : tok'.vocab = tok.vocab ++ new)
    {token : String} (mem : token ∈ tok.vocab) : tok'.idOf token = tok.idOf token := by
  obtain ⟨i, found⟩ := Option.isSome_iff_exists.1 (List.isSome_idxOf?.2 mem)
  have kept : tok'.vocab.idxOf? token = some i := by
    rw [grown, List.idxOf?, List.findIdx?_append, ← List.idxOf?, found]
    rfl
  rw [idOf, idOf, found, kept]

/-- A change tells by how much it grows the vocabulary when it interns some tokens: by the number of
different ones that are new, which is also that of the times at which a new one is met. -/
structure TellsGrowth (tok : CharLevel) (tokens : List String) (change : CharLevel × Nat) :
    Prop where
  vocab_length_eq : change.1.vocab.length = tok.vocab.length + change.2
  growth_eq : change.2 = (tokens.filter (· ∉ tok.vocab)).eraseDups.length
  internAll_eq : IdTable.internAll IdTable.idAfter tok.idTable tokens =
    (change.1.idTable, change.2)

theorem tellsGrowth (nodup : tok.vocab.Nodup) {tokens : List String}
    (interned : tok'.vocab = tokens.foldl appendNew tok.vocab) :
    TellsGrowth tok tokens (tok', tok'.vocab.length - tok.vocab.length) := by
  have nodup' : tok'.vocab.Nodup := by
    rw [interned]
    exact Tokenizer.nodup_foldl_appendNew nodup tokens
  obtain ⟨count, counted, grown⟩ :=
    IdTable.internAll_ofTokens IdTable.idAfter tok.vocab tokens
  rw [← interned] at counted grown
  have growth : tok'.vocab.length - tok.vocab.length = count := by omega
  refine ⟨?_, ?_, ?_⟩
  · dsimp only
    omega
  · have appended := interned
    rw [Tokenizer.foldl_appendNew] at appended
    dsimp only
    rw [appended, List.length_append, Nat.add_sub_cancel_left]
  · rw [idTable_eq nodup, idTable_eq nodup', counted, growth]

end

end CharLevel

/-! ## Operations -/

namespace Tokenizer

theorem vocab_endWith (tok : CharLevel) (eos : Option String) :
    (endWith tok eos).vocab = eos.toList.foldl appendNew tok.vocab := by
  cases eos with
  | none => rfl
  | some token => exact (CharLevel.parts_lawful.setEos_moves tok token).vocabulary_eq

theorem vocab_ensureEos (tok : CharLevel) :
    (ensureEos tok).vocab =
      (if (eosId tok).isSome then [] else [standardEos]).foldl appendNew tok.vocab := by
  by_cases known : (eosId tok).isSome
  · rw [ensureEos_of_isSome known, if_pos known]
    rfl
  · rw [ensureEos_of_not_isSome known, if_neg known]
    exact (CharLevel.parts_lawful.setEos_moves tok standardEos).vocabulary_eq

end Tokenizer

namespace Template

open Tokenizer

/-- The tokens that are interned when a tokenizer is prepared for a template. -/
def interned {τ : Type} [Tokenizer τ] (t : Template) (tok : τ) : List String :=
  t.firstStop?.toList ++
    (if (eosId (endWith tok t.firstStop?)).isSome then [] else [standardEos]) ++ t.otherStops

theorem vocab_prepare (t : Template) (tok : CharLevel) :
    (t.prepare tok t.firstStop? t.otherStops).vocab =
      (t.interned tok).foldl appendNew tok.vocab := by
  let named := endWith tok t.firstStop?
  let padded := ensurePad (ensureEos named)
  have installs := (CharLevel.parts_lawful.installTemplate_moves t
    (ensureSpecials padded t.otherStops)).vocabulary_eq
  have lists := (CharLevel.parts_lawful.ensureSpecials_moves padded t.otherStops).vocabulary_eq
  have pads := (CharLevel.parts_lawful.ensurePad_moves (ensureEos named)).vocabulary_eq
  calc (t.prepare tok t.firstStop? t.otherStops).vocab
      = t.otherStops.foldl appendNew padded.vocab := installs.trans lists
    _ = t.otherStops.foldl appendNew (ensureEos named).vocab :=
        congrArg (t.otherStops.foldl appendNew) pads
    _ = (t.interned tok).foldl appendNew tok.vocab := by
        rw [vocab_ensureEos, vocab_endWith, interned, List.foldl_append, List.foldl_append]

theorem additional_prepare (t : Template) (tok : CharLevel) :
    (t.prepare tok t.firstStop? t.otherStops).additional =
      t.otherStops.foldl appendNew tok.additional := by
  rw [foldl_appendNew]
  exact (resolves_prepare t tok).additional_eq

end Template

namespace CharLevel

open Tokenizer (appendNew)

theorem nodup_additional_intern {tok : CharLevel} (h : tok.additional.Nodup) (token : String) :
    (tok.intern token).additional.Nodup := by
  have kept : (tok.intern token).additional = tok.additional :=
    congrArg SpecialTokens.additional (intern_becomes tok token).special_eq
  rwa [kept]

theorem Change.nodup_additional_apply {tok : CharLevel} (h : tok.additional.Nodup)
    (change : Change) : (change.apply tok).additional.Nodup := by
  cases change with
  | special token | bos token | eos token | pad token | setEos token =>
    exact nodup_additional_intern h token
  | addSpecials tokens replace =>
    show (tokens.foldl appendNew (if replace then [] else tok.additional)).Nodup
    apply Tokenizer.nodup_foldl_appendNew
    split
    · exact List.nodup_nil
    · exact h
  | refuseTemplates | setPad => exact h
  | setChatTemplate text =>
    show ((tok.setChatTemplate text).toOption.getD tok).additional.Nodup
    unfold CharLevel.setChatTemplate
    split <;> exact h

/-- What is done to a tokenizer: it is changed, or a template is resolved for it. -/
inductive Operation where
  | change (change : Change)
  | resolve (r : Registry) (name : Option String)
deriving DecidableEq, Repr

namespace Operation

/-- The tokenizer after an operation. -/
def apply (tok : CharLevel) : Operation → CharLevel
  | change c => c.apply tok
  | resolve r name => r.tokenizerAfter tok name

/-- The tokens that an operation interns. -/
def interned (tok : CharLevel) : Operation → List String
  | change c => c.tokens
  | resolve r name =>
    match r.resolve tok name with
    | .ok (t, _) => t.interned tok
    | .error _ => []

/-- A tokenizer is prepared for the template that is resolved, or left as it was. -/
theorem apply_resolve_cases (r : Registry) (name : Option String) (tok : CharLevel) :
    (resolve r name).apply tok = tok ∧ (resolve r name).interned tok = [] ∨
      ∃ t : Template, (resolve r name).apply tok = t.prepare tok t.firstStop? t.otherStops ∧
        (resolve r name).interned tok = t.interned tok := by
  simp only [apply, interned, Registry.tokenizerAfter]
  cases resolved : r.resolve tok name with
  | error e => exact .inl ⟨rfl, rfl⟩
  | ok prepared =>
    obtain ⟨-, -, same⟩ := Registry.resolve_eq_ok_iff.1 resolved
    exact .inr ⟨prepared.1, same, rfl⟩

theorem vocab_apply (op : Operation) (tok : CharLevel) :
    (op.apply tok).vocab = (op.interned tok).foldl appendNew tok.vocab := by
  cases op with
  | change c => exact c.vocab_apply tok
  | resolve r name =>
    rcases apply_resolve_cases r name tok with ⟨same, none⟩ | ⟨t, prepared, tokens⟩
    · rw [same, none]
      rfl
    · rw [prepared, tokens, Template.vocab_prepare]

theorem nodup_additional_apply {tok : CharLevel} (h : tok.additional.Nodup) (op : Operation) :
    (op.apply tok).additional.Nodup := by
  cases op with
  | change c => exact c.nodup_additional_apply h
  | resolve r name =>
    rcases apply_resolve_cases r name tok with ⟨same, -⟩ | ⟨t, prepared, -⟩
    · rwa [same]
    · rw [prepared, Template.additional_prepare]
      exact Tokenizer.nodup_foldl_appendNew h t.otherStops

end Operation

/-! ## Runs -/

/-- The tokenizer after some operations, made from one without special tokens. -/
def run (ops : List Operation) : CharLevel :=
  ops.foldl Operation.apply empty

/-- The tokens that operations intern, one after the other. -/
def internedBy (tok : CharLevel) : List Operation → List String
  | [] => []
  | op :: ops => op.interned tok ++ internedBy (op.apply tok) ops

theorem vocab_foldl (ops : List Operation) (tok : CharLevel) :
    (ops.foldl Operation.apply tok).vocab =
      (internedBy tok ops).foldl appendNew tok.vocab := by
  induction ops generalizing tok with
  | nil => rfl
  | cons op ops ih =>
    rw [List.foldl_cons, ih, op.vocab_apply, internedBy, List.foldl_append]

theorem vocab_run (ops : List Operation) :
    (run ops).vocab = (internedBy empty ops).foldl appendNew [] :=
  vocab_foldl ops empty

theorem nodup_vocab_run (ops : List Operation) : (run ops).vocab.Nodup := by
  rw [vocab_run]
  exact Tokenizer.nodup_foldl_appendNew List.nodup_nil _

/-- More operations put tokens behind those that are there. -/
theorem exists_vocab_run_append (ops more : List Operation) :
    ∃ new, (run (ops ++ more)).vocab = (run ops).vocab ++ new := by
  rw [run, List.foldl_append, ← run, vocab_foldl, Tokenizer.foldl_appendNew]
  exact ⟨_, rfl⟩

theorem nodup_additional_foldl {tok : CharLevel} (h : tok.additional.Nodup)
    (ops : List Operation) : (ops.foldl Operation.apply tok).additional.Nodup := by
  induction ops generalizing tok with
  | nil => exact h
  | cons op ops ih => exact ih (op.nodup_additional_apply h)

/-- A table in which tokens are interned one after the other has the ids of a vocabulary. -/
theorem internAll_interned {ι : Type} (next : Nat → ι) (ops : List Operation) :
    (IdTable.internAll next [] (internedBy empty ops)).1 =
      IdTable.ofTokens next (run ops).vocab := by
  obtain ⟨count, all, -⟩ := IdTable.internAll_ofTokens next [] (internedBy empty ops)
  rw [vocab_run]
  exact congrArg Prod.fst all

/-- Whatever is done to a tokenizer one after the other, its ids are numbered, as they are in a
table in which the same tokens are interned, also in words as long as these have room for them; no
token is listed twice; tokens keep their ids; and adding tokens tells the growth. -/
theorem run_numbers (ops : List Operation) :
    (run ops).Numbered ∧
    (IdTable.internAll IdTable.idAfter [] (internedBy empty ops)).1 = (run ops).idTable ∧
    ((run ops).vocab.length < 2 ^ 32 →
      (IdTable.internAll IdTable.wordAfter [] (internedBy empty ops)).1.toNats =
        (run ops).idTable) ∧
    (run ops).additional.Nodup ∧
    (∀ token ∈ (run ops).vocab, ∀ more, token ∈ (run (ops ++ more)).vocab ∧
      (run (ops ++ more)).idOf token = (run ops).idOf token) ∧
    (∀ tokens replace, (run ops).TellsGrowth tokens ((run ops).addSpecials tokens replace)) ∧
    ∀ token, (run ops).TellsGrowth [token] ((run ops).setEos token) := by
  have nodup := nodup_vocab_run ops
  refine ⟨numbered nodup, ?_, fun few => ?_, ?_, fun token mem more => ?_,
    fun tokens replace => ?_, fun token => ?_⟩
  · rw [internAll_interned, idTable_eq nodup]
  · rw [internAll_interned, IdTable.toNats_ofTokens few, idTable_eq nodup]
  · exact nodup_additional_foldl List.nodup_nil ops
  · obtain ⟨new, grown⟩ := exists_vocab_run_append ops more
    refine ⟨?_, idOf_of_vocab_eq_append grown mem⟩
    rw [grown]
    exact List.mem_append_left new mem
  · exact tellsGrowth nodup (vocab_internAll (run ops) tokens)
  · exact tellsGrowth nodup (vocab_intern (run ops) token)

/-- Operations that name tokens again, in one list and under another role. -/
def namesAgain : List Operation :=
  [.change (.bos "<s>"), .change (.special "a"), .change (.pad "<s>"),
    .resolve (.ofList [halting]) "halting", .resolve (.ofList [halting]) "chatml",
    .change (.addSpecials ["<b>", "a", "<b>"] true), .change (.setEos "<halt>")]

/-- Each token has one id, and of a list that names tokens again only the new ones count. -/
theorem run_numbers_again :
    (run namesAgain).idTable = [("<s>", 1), ("a", 2), ("<stop>", 3), ("<halt>", 4), ("<b>", 5)] ∧
      (run namesAgain).vocab.length < 2 ^ 32 ∧
      (IdTable.internAll IdTable.wordAfter [] (internedBy empty namesAgain)).1.toNats =
        (run namesAgain).idTable ∧
      (run namesAgain).additional = ["<b>", "a"] ∧
      "a" ∈ (run namesAgain).vocab ∧
      (run (namesAgain ++ [.change (.setEos "<c>"), .change (.special "a")])).idOf "a" = 2 ∧
      ((run namesAgain).addSpecials ["<c>", "a", "<c>"] false).2 = 1 ∧
      (run namesAgain).TellsGrowth ["<c>", "a", "<c>"]
        ((run namesAgain).addSpecials ["<c>", "a", "<c>"] false) := by
  have table : (run namesAgain).idTable =
      [("<s>", 1), ("a", 2), ("<stop>", 3), ("<halt>", 4), ("<b>", 5)] := by decide
  have few : (run namesAgain).vocab.length < 2 ^ 32 := by decide
  have mem : "a" ∈ (run namesAgain).vocab := by decide
  have id : (run namesAgain).idOf "a" = 2 := by decide
  obtain ⟨-, -, words, -, stay, grows, -⟩ := run_numbers namesAgain
  obtain ⟨-, kept⟩ := stay "a" mem [.change (.setEos "<c>"), .change (.special "a")]
  exact ⟨table, few, words few, by decide, mem, kept.trans id, by decide,
    grows ["<c>", "a", "<c>"] false⟩

end CharLevel

end Colloquy
