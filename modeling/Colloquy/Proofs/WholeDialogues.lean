import Colloquy.Proofs.Encoding

/-!
# Dialogues encoded whole

The response of a dialogue is what the budget keeps of the last pair it reaches. A dialogue that
asks for a reply ends in a round without a response (`rounds_concat`), so its response is empty
if the budget reaches that round. If the budget is used up before, the response is that of an
earlier round, and it is empty only if that round keeps none (`response_eq_nil_iff`).
-/

namespace Colloquy

namespace Budget

/-- Encoded turns of which the last has no partner, and the round that a reply to it makes. -/
theorem rounds_concat {turns : List (List TokenId)} (odd : turns.length % 2 = 1) :
    ∃ prompt, ∀ reply, rounds (turns ++ [reply]) = rounds turns ++ [(prompt, reply)] := by
  induction turns using rounds_induction with
  | short turns h =>
    obtain ⟨prompt, rfl⟩ := List.length_eq_one_iff.1 (show turns.length = 1 by omega)
    exact ⟨prompt, fun _ => rfl⟩
  | round source target rest ih =>
    obtain ⟨prompt, h⟩ := ih (by simp only [List.length_cons] at odd; omega)
    refine ⟨prompt, fun reply => ?_⟩
    rw [List.cons_append, List.cons_append, rounds, rounds, h, List.cons_append]

end Budget

namespace Template

variable {τ : Type} [Tokenizer τ] {t : Template} {tok : τ} {turns : List Turn}
  {system tools : Option String} {b : Budget}

/-- A dialogue that asks for a reply is encoded turn by turn and paired with an empty response. -/
theorem encodeWhole_eq_ok_iff_of_odd (odd : turns.length % 2 = 1) {pair : EncodedPair} :
    t.encodeWhole tok turns system tools b = .ok pair ↔
      awaitsReply turns = true ∧
      ∃ ids, t.encodeTurns tok (t.systemText system) (presentTools? tools) 0 turns = .ok ids ∧
        pair = joinPairs (b.pairUp (ids ++ [[]])) := by
  have some : turns.isEmpty = false := by
    cases turns with
    | nil => simp at odd
    | cons turn turns => rfl
  have isOpen : (turns.length % 2 == 1) = true := by simp [odd]
  unfold encodeWhole encodePairs
  cases awaits : awaitsReply turns with
  | false => simp [some, isOpen, bind, Except.bind]
  | true =>
    simp only [some, isOpen, bind_eq_ok_iff, pure_eq_ok, Except.ok.injEq, Bool.false_eq_true,
      if_false, if_true, Bool.and_self, Bool.not_true, Bool.and_false, true_and]
    constructor
    · rintro ⟨-, ⟨ids, hi, rfl⟩, rfl⟩
      exact ⟨ids, hi, rfl⟩
    · rintro ⟨ids, hi, rfl⟩
      exact ⟨_, ⟨ids, hi, rfl⟩, rfl⟩

theorem joinPairs_response (pairs : List (List TokenId × List TokenId)) :
    (joinPairs pairs).response = (pairs.getLast?.map Prod.snd).getD [] := by
  unfold joinPairs
  cases pairs.getLast? <;> rfl

/-- The response of a dialogue that asks for a reply is that of the round in which the budget is
used up. -/
theorem response_of_usedUpIn {ids : List (List TokenId)} (odd : ids.length % 2 = 1) {k : Nat}
    {round : List TokenId × List TokenId} (h : b.UsedUpIn (Budget.rounds ids) k round) :
    (joinPairs (b.pairUp (ids ++ [[]]))).response =
      (b.cut (b.cutoff - Budget.totalSize ((Budget.rounds ids).take k)) round).2 := by
  obtain ⟨prompt, whole⟩ := Budget.rounds_concat odd
  obtain ⟨hk, -⟩ := List.getElem?_eq_some_iff.1 h.getElem?_eq
  have here : ∀ j ≤ k + 1, (Budget.rounds (ids ++ [[]])).take j = (Budget.rounds ids).take j := by
    intro j hj
    rw [whole, List.take_append_of_le_length (by omega)]
  have last : (b.pairUp (ids ++ [[]])).getLast? = _ := Budget.getLast?_pairUp_eq_some_iff.2
    ⟨k, round, by rw [whole, List.getElem?_append_left hk, h.getElem?_eq],
      by rw [here k (by omega)]; exact h.start_lt,
      .inl (by rw [here (k + 1) (by omega)]; exact h.cutoff_le), rfl⟩
  rw [joinPairs_response, last, here k (by omega)]
  rfl

/-- A dialogue that asks for a reply has an empty response unless the budget is used up in an
earlier round whose response it keeps a part of. -/
theorem response_eq_nil_of_forall {ids : List (List TokenId)} (odd : ids.length % 2 = 1)
    (h : ∀ k round, b.UsedUpIn (Budget.rounds ids) k round →
      (b.cut (b.cutoff - Budget.totalSize ((Budget.rounds ids).take k)) round).2 = []) :
    (joinPairs (b.pairUp (ids ++ [[]]))).response = [] := by
  rw [joinPairs_response]
  cases hlast : (b.pairUp (ids ++ [[]])).getLast? with
  | none => rfl
  | some p =>
    obtain ⟨k, round, hr, start, ends, rfl⟩ := Budget.getLast?_pairUp_eq_some_iff.1 hlast
    obtain ⟨prompt, whole⟩ := Budget.rounds_concat odd
    rw [whole] at hr start ends ⊢
    rcases Nat.lt_or_ge k (Budget.rounds ids).length with hk | hk
    · -- The budget stops ahead of the open turn, which the last round is.
      have more : (Budget.rounds ids ++ [(prompt, [])])[k + 1]? ≠ none := by
        rw [Ne, List.getElem?_eq_none_iff, List.length_append, List.length_singleton]
        omega
      rw [List.getElem?_append_left hk] at hr
      rw [List.take_append_of_le_length (by omega)] at start ends ⊢
      exact h k round ⟨hr, start, ends.resolve_right more⟩
    · obtain rfl : round = (prompt, []) := by
        rw [List.getElem?_append_right hk, List.getElem?_eq_some_iff] at hr
        obtain ⟨hlt, hr⟩ := hr
        simpa using hr.symm
      simp [Budget.cut]

/-- The response to a dialogue that asks for a reply is empty exactly if an earlier round in which
the budget is used up, should there be one, keeps nothing of its response: it has none, or nothing
is reserved for it and its share of what is left is less than one id. -/
theorem response_eq_nil_iff {pair : EncodedPair} (odd : turns.length % 2 = 1)
    (h : t.encodeWhole tok turns system tools b = .ok pair) :
    ∃ ids, t.encodeTurns tok (t.systemText system) (presentTools? tools) 0 turns = .ok ids ∧
      (pair.response = [] ↔ ∀ k round, b.UsedUpIn (Budget.rounds ids) k round →
        round.2 = [] ∨ b.reserved = 0 ∧
          (b.cutoff - Budget.totalSize ((Budget.rounds ids).take k)) * round.2.length <
            Budget.size round) := by
  obtain ⟨-, ids, hids, rfl⟩ := (encodeWhole_eq_ok_iff_of_odd odd).1 h
  have oddIds : ids.length % 2 = 1 := by rwa [length_encodeTurns hids]
  refine ⟨ids, hids, fun empty k round used => ?_, fun silent => ?_⟩
  · rw [response_of_usedUpIn oddIds used] at empty
    exact (Budget.cut_snd_eq_nil_iff (by have := used.start_lt; omega)).1 empty
  · refine response_eq_nil_of_forall oddIds fun k round used => ?_
    exact (Budget.cut_snd_eq_nil_iff (by have := used.start_lt; omega)).2 (silent k round used)

/-- A budget with room for one id of the open turn leaves the response empty. -/
theorem response_eq_nil_iff_smallTalk :
    plain.encodeWhole CharLevel.empty smallTalk.dropLast none none ⟨5, 1⟩ =
        .ok ⟨[10104, 10105, 10121, 10111, 10113], []⟩ ∧
      ∃ ids, plain.encodeTurns CharLevel.empty "" none 0 smallTalk.dropLast = .ok ids ∧
        (([] : List TokenId) = [] ↔ ∀ k round, Budget.UsedUpIn ⟨5, 1⟩ (Budget.rounds ids) k round →
          round.2 = [] ∨ 1 = 0 ∧
            (5 - Budget.totalSize ((Budget.rounds ids).take k)) * round.2.length <
              Budget.size round) := by
  have h : plain.encodeWhole CharLevel.empty smallTalk.dropLast none none ⟨5, 1⟩ =
      .ok ⟨[10104, 10105, 10121, 10111, 10113], []⟩ := by decide
  exact ⟨h, response_eq_nil_iff (by decide) h⟩

/-- A budget that the first round uses up answers a dialogue with the response of that round. -/
theorem exists_response_of_unanswered :
    smallTalk.dropLast.length % 2 = 1 ∧ awaitsReply smallTalk.dropLast = true ∧
      ∃ pair, plain.encodeWhole CharLevel.empty smallTalk.dropLast none none ⟨4, 1⟩ = .ok pair ∧
        pair.response ≠ [] := by
  have h : plain.encodeWhole CharLevel.empty smallTalk.dropLast none none ⟨4, 1⟩ =
      .ok ⟨[10104, 10105], [10121, 10111]⟩ := by decide
  exact ⟨by decide, by decide, _, h, by decide⟩

end Template

end Colloquy
