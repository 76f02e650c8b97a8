import Mathlib.Tactic.SplitIfs
import Colloquy.Proofs.Formatters
import Colloquy.Proofs.JoinedRounds
import Colloquy.Proofs.Registry
import Colloquy.Proofs.Template.Resolution

/-!
# Replies that end sequences

Slots that have the token that ends a sequence behind all others keep it there whatever is put into
their texts (`Formatter.endSequence_apply`), and it gives the last id if the tokenizer has one for
it. So if what an assistant says and the calls it makes are said in such slots, all their ids end
with that of the token (`ClosesReplies.repliesEnd`). The usual slots are of this kind unless a
template saves the token, as are those of the catalog, and `resolve` sees to it that the token has
an id (`resolve_endsReplies`).
-/

namespace Colloquy

/-! ## Slots that end a sequence -/

namespace Slot

variable {τ : Type} [Tokenizer τ]

/-- The last slot is the token that ends a sequence. -/
def EndSequence (slots : List Slot) : Prop :=
  slots.getLast? = some .eos
deriving Decidable

theorem EndSequence.append {slots : List Slot} (h : EndSequence slots) (ahead : List Slot) :
    EndSequence (ahead ++ slots) := by
  rw [EndSequence, List.getLast?_append, h, Option.some_or]

theorem EndSequence.exists_said {slots : List Slot} (h : EndSequence slots) {tok : τ}
    {eos : TokenId} (ends : Tokenizer.eosId tok = some eos) {ids : List TokenId}
    (encoded : encodeAll tok slots = .ok ids) : ∃ said, ids = said ++ [eos] := by
  obtain ⟨ahead, rfl⟩ := List.getLast?_eq_some_iff.1 h
  rw [encodeAll_append] at encoded
  have last : encodeAll tok [.eos] = .ok [eos] := by
    simp [encodeAll, encode, ends]
  simp only [last, bind_eq_ok_iff, pure_eq_ok, Except.ok.injEq] at encoded
  obtain ⟨said, -, _, rfl, rfl⟩ := encoded
  exact ⟨said, rfl⟩

end Slot

/-- Slots of a formatter that end a sequence do so whatever it says. -/
theorem Formatter.endSequence_apply {f : Formatter} (h : Slot.EndSequence f.skeleton) (args : Args) :
    Slot.EndSequence (f.apply args) := by
  cases f with
  | fixed slots => exact h
  | content slots =>
    rw [skeleton_content] at h
    rw [Slot.EndSequence, apply, List.getLast?_map, h]
    rfl
  | call slots =>
    rw [skeleton_call] at h
    unfold apply
    dsimp only
    split
    · exact h
    · rw [Slot.EndSequence, List.getLast?_map, h]
      rfl
  | manifest format => cases h

namespace Template

/-! ## Turns -/

/-- The slots of assistants and of calls end sequences. -/
structure ClosesReplies (t : Template) : Prop where
  assistant : Slot.EndSequence t.assistant.skeleton
  function : Slot.EndSequence t.function.skeleton

/-- Each turn of an assistant, and each call, has ids of which the last is that of the token that
ends a sequence. -/
def RepliesEnd (eos : TokenId) (turns : List Turn) (ids : List (List TokenId)) : Prop :=
  ∀ (k : Nat) (turn : Turn), turns[k]? = some turn →
    turn.role = .assistant ∨ turn.role = .function → ∃ said, ids[k]? = some (said ++ [eos])

variable {τ : Type} [Tokenizer τ] {t : Template} {tok : τ} {eos : TokenId}

theorem ClosesReplies.endSequence_say (h : t.ClosesReplies) {turn : Turn}
    (reply : turn.role = .assistant ∨ turn.role = .function) {k : Nat} {glued : String}
    {said : List Slot} (hsaid : t.say k glued turn = .ok said) : Slot.EndSequence said := by
  rcases reply with role | role
  · simp only [say, role, Except.ok.injEq] at hsaid
    rw [← hsaid]
    exact Formatter.endSequence_apply h.assistant _
  · simp only [say, role, Except.ok.injEq] at hsaid
    rw [← hsaid]
    exact Formatter.endSequence_apply h.function _

theorem ClosesReplies.repliesEnd (h : t.ClosesReplies) (ends : Tokenizer.eosId tok = some eos)
    {system : String} {tools : Option String} {i : Nat} {turns : List Turn}
    {ids : List (List TokenId)} (encoded : t.encodeTurns tok system tools i turns = .ok ids) :
    RepliesEnd eos turns ids := by
  intro k turn hk reply
  obtain ⟨here, hhere, turnIds⟩ := encodeTurn_of_getElem? encoded hk
  obtain ⟨start, said, -, hsaid, all⟩ := encodeTurn_eq_ok_iff.1 turnIds
  obtain ⟨front, rfl⟩ :=
    ((h.endSequence_say reply hsaid).append start.ahead).exists_said ends all
  exact ⟨front, hhere⟩

/-! ## Dialogues -/

/-- Within a budget that has room for all ids, the rounds of a dialogue are its turns. -/
theorem exists_flatMap_of_encodeRounds {turns : List Turn} {system tools : Option String}
    {b : Budget} {pairs : List EncodedPair}
    (h : t.encodeRounds tok turns system tools b = .ok pairs) :
    ∃ ids, t.encodeTurns tok (t.systemText system) (presentTools? tools) 0 turns = .ok ids ∧
      ((ids.map List.length).sum < b.cutoff →
        pairs.flatMap (fun p => [p.prompt, p.response]) = ids) := by
  obtain ⟨even, ids, hids, rfl⟩ := encodeRounds_eq_ok_iff.1 h
  refine ⟨ids, hids, fun room => ?_⟩
  rw [Budget.pairUp_of_sum_lt room, List.flatMap_map]
  exact Budget.flatMap_rounds (by rwa [length_encodeTurns hids])

/-- Within a budget that has room for all ids, a whole dialogue is all of its turns, one after the
other. -/
theorem exists_flatten_of_encodeWhole {turns : List Turn} {system tools : Option String}
    {b : Budget} {pair : EncodedPair} (h : t.encodeWhole tok turns system tools b = .ok pair) :
    ∃ ids, t.encodeTurns tok (t.systemText system) (presentTools? tools) 0 turns = .ok ids ∧
      ((ids.map List.length).sum < b.cutoff → pair.prompt ++ pair.response = ids.flatten) := by
  unfold encodeWhole at h
  split_ifs at h
  simp only [bind_eq_ok_iff, pure_eq_ok, Except.ok.injEq] at h
  obtain ⟨pairs, made, rfl⟩ := h
  obtain ⟨ids, hids, rfl⟩ := exists_encodeTurns_of_encodePairs made
  have lengths : ids.length = turns.length := length_encodeTurns hids
  refine ⟨ids, hids, fun room => ?_⟩
  rw [prompt_append_response_joinPairs]
  split_ifs with odd
  · -- The empty reply to an open dialogue adds no id.
    have fits : ((ids ++ [[]]).map List.length).sum < b.cutoff := by simpa using room
    have even : (ids ++ [[]]).length % 2 = 0 := by
      rw [List.length_append, List.length_singleton]
      omega
    rw [Budget.pairUp_of_sum_lt fits, Budget.flatten_rounds even]
    simp
  · rw [Budget.pairUp_of_sum_lt room, Budget.flatten_rounds (by omega)]

/-- In every dialogue the replies end with `eos`, and no id of them is lost within a budget that has
room for all ids. -/
structure EndsReplies (t : Template) (tok : τ) (eos : TokenId) : Prop where
  rounds : ∀ (turns : List Turn) (system tools : Option String) (b : Budget)
    (pairs : List EncodedPair), t.encodeRounds tok turns system tools b = .ok pairs →
      ∃ ids, t.encodeTurns tok (t.systemText system) (presentTools? tools) 0 turns = .ok ids ∧
        RepliesEnd eos turns ids ∧
        ((ids.map List.length).sum < b.cutoff →
          pairs.flatMap (fun p => [p.prompt, p.response]) = ids)
  whole : ∀ (turns : List Turn) (system tools : Option String) (b : Budget) (pair : EncodedPair),
    t.encodeWhole tok turns system tools b = .ok pair →
      ∃ ids, t.encodeTurns tok (t.systemText system) (presentTools? tools) 0 turns = .ok ids ∧
        RepliesEnd eos turns ids ∧
        ((ids.map List.length).sum < b.cutoff → pair.prompt ++ pair.response = ids.flatten)

theorem ClosesReplies.endsReplies (h : t.ClosesReplies) (ends : Tokenizer.eosId tok = some eos) :
    t.EndsReplies tok eos where
  rounds turns system tools b pairs made := by
    obtain ⟨ids, hids, all⟩ := exists_flatMap_of_encodeRounds made
    exact ⟨ids, hids, h.repliesEnd ends hids, all⟩
  whole turns system tools b pair made := by
    obtain ⟨ids, hids, all⟩ := exists_flatten_of_encodeWhole made
    exact ⟨ids, hids, h.repliesEnd ends hids, all⟩

/-! ## Templates -/

/-- A template that does not save the token that ends a sequence, and is a built-in one or says
replies and calls in the usual way. -/
def SpendsEos (t : Template) : Prop :=
  (t ∈ Registry.builtins.templates ∧ t.efficientEos = false) ∨
    ∃ spec : Spec, spec.build = t ∧ spec.efficientEos = false ∧
      spec.assistant = none ∧ spec.function = none

theorem Spec.closesReplies {s : Spec} (spent : s.efficientEos = false)
    (assistant : ∀ f, s.assistant = some f → Slot.EndSequence f.skeleton)
    (function : s.function = none) : s.build.ClosesReplies where
  assistant := by
    rw [build]
    cases said : s.assistant with
    | none =>
      rw [Option.getD_none, Formatter.skeleton_content, spent]
      rfl
    | some f => exact assistant f said
  function := by
    rw [build, function, Option.getD_none, Formatter.skeleton_call, spent]
    rfl

end Template

/-- The templates of the catalog that do not save the token that ends a sequence say calls in the
usual way, and have it at the end of replies if they say those in another. -/
theorem Catalog.endSequence_assistant : ∀ spec ∈ specs, spec.efficientEos = false →
    (∀ f, spec.assistant = some f → Slot.EndSequence f.skeleton) ∧ spec.function = none := by
  decide +kernel

namespace Template

theorem SpendsEos.closesReplies {t : Template} (h : t.SpendsEos) : t.ClosesReplies := by
  rcases h with ⟨builtin, spent⟩ | ⟨spec, rfl, spent, assistant, function⟩
  · obtain ⟨spec, known, rfl⟩ := Registry.exists_build_of_mem_builtins builtin
    obtain ⟨assistant, function⟩ := Catalog.endSequence_assistant spec known spent
    exact Spec.closesReplies spent assistant function
  · refine Spec.closesReplies spent (fun f said => ?_) function
    rw [assistant] at said
    cases said

theorem SpendsEos.endsReplies_of_resolve {τ : Type} [Tokenizer τ] [Inspect τ] [Tokenizer.Lawful τ]
    {t : Template} (h : t.SpendsEos) {r : Registry} {tok tok' : τ} {name : Option String}
    (resolved : r.resolve tok name = .ok (t, tok')) :
    ∃ eos, Tokenizer.eosId tok' = some eos ∧ t.EndsReplies tok' eos := by
  obtain ⟨eos, ends⟩ := Option.isSome_iff_exists.1 (resolves_of_resolve resolved).2.eosId_isSome
  exact ⟨eos, ends, h.closesReplies.endsReplies ends⟩

/-- A built-in template that does not save the token that ends a sequence, or any template that does
not and says replies and calls in the usual way, has every reply end with that token once it is
resolved. The token has an id by then, whether it is the tokenizer's own, a stop word or the
standard one. -/
theorem resolve_endsReplies :
    (∀ (r : Registry) (tok tok' : CharLevel) (name : Option String) (t : Template), t.SpendsEos →
      r.resolve tok name = .ok (t, tok') →
        ∃ eos, Tokenizer.eosId tok' = some eos ∧ t.EndsReplies tok' eos) ∧
    ∀ (ν : Type) [Vocabulary ν] [LawfulVocabulary ν] (r : Registry) (tok tok' : Configured ν)
      (name : Option String) (t : Template), t.SpendsEos →
      r.resolve tok name = .ok (t, tok') →
        ∃ eos, Tokenizer.eosId tok' = some eos ∧ t.EndsReplies tok' eos :=
  ⟨fun _ _ _ _ _ h => h.endsReplies_of_resolve, fun _ _ _ _ _ _ _ _ h => h.endsReplies_of_resolve⟩

/-- A stop word ends a call although its payload is none, and a built-in template with slots of its
own for what an assistant says has them end with the standard token. -/
theorem resolve_endsReplies_halting :
    (∃ tok, (Registry.ofList [halting]).resolve oneWord "halting" = .ok (halting, tok) ∧
      tok.special.eos = some "<stop>" ∧ Tokenizer.eosId tok = some 1 ∧ halting.EndsReplies tok 1 ∧
      halting.encodeRounds tok [⟨.user, "hello"⟩, ⟨.function, "no call"⟩] none none ⟨7, 1⟩ =
        .ok [⟨[0], [0, 0, 0, 1]⟩]) ∧
    ∃ tok eos, Registry.builtins.resolve CharLevel.empty "openchat" =
        .ok (Catalog.openchat.build, tok) ∧
      Tokenizer.eosId tok = some eos ∧ Catalog.openchat.build.EndsReplies tok eos := by
  constructor
  · obtain ⟨tok, resolved, stop, ends, encoded⟩ : ∃ tok,
        (Registry.ofList [halting]).resolve oneWord "halting" = .ok (halting, tok) ∧
        tok.special.eos = some "<stop>" ∧ Tokenizer.eosId tok = some 1 ∧
        halting.encodeRounds tok [⟨.user, "hello"⟩, ⟨.function, "no call"⟩] none none ⟨7, 1⟩ =
          .ok [⟨[0], [0, 0, 0, 1]⟩] := ⟨_, rfl, by decide, by decide, by decide⟩
    obtain ⟨eos, known, replies⟩ := resolve_endsReplies.2 Words _ oneWord tok _ _
      (.inr ⟨_, rfl, rfl, rfl, rfl⟩) resolved
    obtain rfl : 1 = eos := Option.some.inj (ends.symm.trans known)
    exact ⟨tok, resolved, stop, ends, replies, encoded⟩
  · have found : Registry.builtins.find? "openchat" = some Catalog.openchat.build := by
      decide +kernel
    have got : Registry.builtins.get "openchat" = .ok Catalog.openchat.build := by
      rw [Registry.get, found]
    obtain ⟨tok, resolved⟩ : ∃ tok, Registry.builtins.resolve CharLevel.empty "openchat" =
        .ok (Catalog.openchat.build, tok) :=
      ⟨_, Registry.resolve_eq_ok_iff.2 ⟨got, by decide, rfl⟩⟩
    obtain ⟨eos, known, replies⟩ := resolve_endsReplies.1 Registry.builtins CharLevel.empty tok
      "openchat" _ (.inl ⟨List.mem_of_find?_eq_some found, rfl⟩) resolved
    exact ⟨tok, eos, resolved, known, replies⟩

end Template

end Colloquy
