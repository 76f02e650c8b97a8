import Colloquy.Proofs.Replies

/-!
# Rounds that are joined

A dialogue of whole rounds may be encoded by rounds or as one pair. Both ways encode the same turns
and cut the same pairs out of them, so they fail alike, and the one pair is all of the others with
the last response kept apart (`EncodedPair.Joins`). It holds no more ids than the budget allows.
That is `encodeWhole_joins_encodeRounds`.
-/

namespace Colloquy

/-- One pair is made of others: its response is the last one, and its prompt all that comes before
it. -/
inductive EncodedPair.Joins : List EncodedPair → EncodedPair → Prop where
  | nil : Joins [] ⟨[], []⟩
  | concat (earlier : List EncodedPair) (last : EncodedPair) :
    Joins (earlier ++ [last])
      ⟨earlier.flatMap (fun p => p.prompt ++ p.response) ++ last.prompt, last.response⟩

/-- The one pair has all ids of the others and no more. -/
theorem EncodedPair.Joins.prompt_append_response {pairs : List EncodedPair} {pair : EncodedPair}
    (h : Joins pairs pair) :
    pair.prompt ++ pair.response = pairs.flatMap fun p => p.prompt ++ p.response := by
  cases h with
  | nil => rfl
  | concat earlier last => rw [List.flatMap_append, List.flatMap_singleton, List.append_assoc]

namespace Template

theorem joins_joinPairs (pairs : List (List TokenId × List TokenId)) :
    EncodedPair.Joins (pairs.map EncodedPair.ofPair) (joinPairs pairs) := by
  rcases List.eq_nil_or_concat pairs with rfl | ⟨earlier, ⟨prompt, response⟩, rfl⟩
  · exact .nil
  · have joined := EncodedPair.Joins.concat (earlier.map EncodedPair.ofPair) ⟨prompt, response⟩
    rw [List.flatMap_map] at joined
    rw [List.concat_eq_append, joinPairs_concat, List.map_append]
    exact joined

theorem prompt_append_response_joinPairs (pairs : List (List TokenId × List TokenId)) :
    (joinPairs pairs).prompt ++ (joinPairs pairs).response =
      pairs.flatMap fun p => p.1 ++ p.2 := by
  rw [(joins_joinPairs pairs).prompt_append_response, List.flatMap_map]
  rfl

theorem length_joinPairs (pairs : List (List TokenId × List TokenId)) :
    (joinPairs pairs).prompt.length + (joinPairs pairs).response.length =
      Budget.totalSize pairs := by
  rw [← List.length_append, prompt_append_response_joinPairs, List.length_flatMap]
  simp only [List.length_append]
  rfl

variable {τ : Type} [Tokenizer τ] {t : Template} {tok : τ} {turns : List Turn}
  {system tools : Option String} {b : Budget}

theorem encodeRounds_eq_error_iff_of_even (even : turns.length % 2 = 0) {e : EncodeError} :
    t.encodeRounds tok turns system tools b = .error e ↔
      t.encodeTurns tok (t.systemText system) (presentTools? tools) 0 turns = .error e := by
  rw [encodeRounds, bind_pure_eq_error_iff, encodePairs_of_even even, bind_pure_eq_error_iff]

theorem encodeWhole_eq_error_iff_of_even (even : turns.length % 2 = 0) (some : turns ≠ [])
    {e : EncodeError} :
    t.encodeWhole tok turns system tools b = .error e ↔
      t.encodeTurns tok (t.systemText system) (presentTools? tools) 0 turns = .error e := by
  have some : turns.isEmpty = false := by simpa using some
  rw [encodeWhole, some, if_neg Bool.false_ne_true, bind_pure_eq_error_iff,
    encodePairs_of_even even, bind_pure_eq_error_iff]

/-- A dialogue of whole rounds is encoded by rounds exactly if it is encoded whole, whatever the
budget, and otherwise both fail alike. The one pair joins the rounds and keeps to the budget. -/
theorem encodeWhole_joins_encodeRounds (t : Template) (tok : τ) (system tools : Option String)
    (b : Budget) (even : turns.length % 2 = 0) (some : turns ≠ []) :
    (∃ e, t.encodeRounds tok turns system tools b = .error e ∧
      t.encodeWhole tok turns system tools b = .error e) ∨
    ∃ pairs pair, t.encodeRounds tok turns system tools b = .ok pairs ∧
      t.encodeWhole tok turns system tools b = .ok pair ∧ EncodedPair.Joins pairs pair ∧
      pair.prompt.length + pair.response.length ≤ b.cutoff := by
  cases encoded : t.encodeTurns tok (t.systemText system) (presentTools? tools) 0 turns with
  | error e =>
    exact .inl ⟨e, (encodeRounds_eq_error_iff_of_even even).2 encoded,
      (encodeWhole_eq_error_iff_of_even even some).2 encoded⟩
  | ok ids =>
    refine .inr ⟨_, _, encodeRounds_eq_ok_iff.2 ⟨even, ids, encoded, rfl⟩,
      encodeWhole_of_even even some encoded, joins_joinPairs _, ?_⟩
    rw [length_joinPairs, Budget.pairUp, Budget.totalSize_pairFrom]
    exact Nat.min_le_left _ _

/-- A budget that ends in the second round leaves it a response alone, which is that of the one pair,
too. -/
theorem encodeWhole_joins_encodeRounds_smallTalk :
    EncodedPair.Joins [⟨[10104, 10105], [10121, 10111]⟩, ⟨[], [10114]⟩]
        ⟨[10104, 10105, 10121, 10111], [10114]⟩ ∧
      plain.encodeRounds CharLevel.empty smallTalk none none ⟨5, 1⟩ =
        .ok [⟨[10104, 10105], [10121, 10111]⟩, ⟨[], [10114]⟩] ∧
      plain.encodeWhole CharLevel.empty smallTalk none none ⟨5, 1⟩ =
        .ok ⟨[10104, 10105, 10121, 10111], [10114]⟩ := by
  have rounds : plain.encodeRounds CharLevel.empty smallTalk none none ⟨5, 1⟩ =
      .ok [⟨[10104, 10105], [10121, 10111]⟩, ⟨[], [10114]⟩] := by decide
  have whole : plain.encodeWhole CharLevel.empty smallTalk none none ⟨5, 1⟩ =
      .ok ⟨[10104, 10105, 10121, 10111], [10114]⟩ := by decide
  rcases encodeWhole_joins_encodeRounds plain CharLevel.empty none none ⟨5, 1⟩
      (show smallTalk.length % 2 = 0 by decide) (by decide) with
    ⟨e, failed, -⟩ | ⟨pairs, pair, hpairs, hpair, joins, -⟩
  · rw [rounds] at failed
    cases failed
  · rw [rounds, Except.ok.injEq] at hpairs
    rw [whole, Except.ok.injEq] at hpair
    subst hpairs hpair
    exact ⟨joins, rounds, whole⟩

end Template

end Colloquy
