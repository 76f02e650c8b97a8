import Colloquy.Proofs.WholeDialogues

/-!
# Prompts and replies

A dialogue that asks for a reply and the same dialogue with a reply have one prompt. A reply is said
at an odd place, so nothing comes before it (`encodeTurn_odd`), and it makes the last round without
changing the rounds before it (`Budget.rounds_concat`). A budget with room for all ids cuts nothing
(`Budget.pairUp_of_lt`). Hence a model is asked with just the ids after which it was taught its
reply (`encodeWhole_reply`).
-/

namespace Colloquy

namespace Budget

/-- A budget that all rounds leave something of keeps all of them whole. -/
theorem pairFrom_of_lt {b : Budget} {used : Nat} {turns : List (List TokenId)}
    (room : used + totalSize (rounds turns) < b.cutoff) : b.pairFrom used turns = rounds turns := by
  induction turns using rounds_induction generalizing used with
  | short turns h => rw [pairFrom_of_short b used h, rounds_of_short h]
  | round source target rest ih =>
    rw [rounds, totalSize_cons] at room
    have here : used < b.cutoff := by omega
    have fits : size (source, target) ≤ b.cutoff - used := by omega
    have later : used + size (source, target) + totalSize (rounds rest) < b.cutoff := by omega
    rw [pairFrom_cons b here, cut_of_size_le b fits, ih later, rounds]

theorem pairUp_of_lt {b : Budget} {turns : List (List TokenId)}
    (room : totalSize (rounds turns) < b.cutoff) : b.pairUp turns = rounds turns :=
  pairFrom_of_lt (by omega)

/-- Rounds hold ids of their turns only. -/
theorem totalSize_rounds_le (turns : List (List TokenId)) :
    totalSize (rounds turns) ≤ (turns.map List.length).sum := by
  induction turns using rounds_induction with
  | short turns h =>
    rw [rounds_of_short h]
    exact Nat.zero_le _
  | round source target rest ih =>
    rw [rounds, totalSize_cons, size]
    simp only [List.map_cons, List.sum_cons]
    omega

theorem pairUp_of_sum_lt {b : Budget} {turns : List (List TokenId)}
    (room : (turns.map List.length).sum < b.cutoff) : b.pairUp turns = rounds turns :=
  pairUp_of_lt ((totalSize_rounds_le turns).trans_lt room)

end Budget

namespace Template

/-- All pairs as one, where the last pair is known. -/
theorem joinPairs_concat (pairs : List (List TokenId × List TokenId))
    (prompt response : List TokenId) :
    joinPairs (pairs ++ [(prompt, response)]) =
      ⟨pairs.flatMap (fun p => p.1 ++ p.2) ++ prompt, response⟩ := by
  rw [joinPairs, List.getLast?_concat, List.dropLast_concat]

variable {τ : Type} [Tokenizer τ] {t : Template} {tok : τ} {turns : List Turn}
  {system tools : Option String} {b : Budget}

/-- Nothing comes before a turn at an odd place. -/
theorem encodeTurn_odd {system : String} {tools : Option String} {k : Nat} {turn : Turn}
    {ids : List TokenId} (odd : k % 2 = 1) :
    t.encodeTurn tok system tools k turn = .ok ids ↔
      ∃ said, t.say k "" turn = .ok said ∧ Slot.encodeAll tok said = .ok ids := by
  have start : t.before system tools k = .ok .none := by
    rw [before, if_neg (by omega), if_neg (by omega)]
  rw [encodeTurn_eq_ok_iff]
  constructor
  · rintro ⟨opening, said, hopening, hsaid, hids⟩
    obtain rfl : Opening.none = opening := Except.ok.inj (start.symm.trans hopening)
    exact ⟨said, hsaid, hids⟩
  · rintro ⟨said, hsaid, hids⟩
    exact ⟨.none, said, start, hsaid, hids⟩

/-- A dialogue of whole rounds is encoded turn by turn, and its rounds are put together. -/
theorem encodeWhole_of_even (even : turns.length % 2 = 0) (some : turns ≠ [])
    {ids : List (List TokenId)}
    (h : t.encodeTurns tok (t.systemText system) (presentTools? tools) 0 turns = .ok ids) :
    t.encodeWhole tok turns system tools b = .ok (joinPairs (b.pairUp ids)) := by
  have some : turns.isEmpty = false := by simpa using some
  rw [encodeWhole, some, encodePairs_of_even even, h]
  rfl

/-- Within a budget that has room for all ids, a dialogue that asks for a reply is encoded to the
prompt of the same dialogue with a reply, and to no response. The response to the latter is what the
reply says, and its prompt is all of its rounds but for that response. -/
theorem encodeWhole_reply {reply : Turn} {ids : List (List TokenId)}
    (odd : turns.length % 2 = 1) (awaits : awaitsReply turns = true)
    (h : t.encodeTurns tok (t.systemText system) (presentTools? tools) 0 (turns ++ [reply]) =
      .ok ids)
    (room : (ids.map List.length).sum < b.cutoff) :
    ∃ said prompt response earlier last,
      t.say turns.length "" reply = .ok said ∧ Slot.encodeAll tok said = .ok response ∧
      t.encodeWhole tok turns system tools b = .ok ⟨prompt, []⟩ ∧
      t.encodeWhole tok (turns ++ [reply]) system tools b = .ok ⟨prompt, response⟩ ∧
      t.encodeRounds tok (turns ++ [reply]) system tools b =
        .ok (earlier ++ [⟨last, response⟩]) ∧
      prompt = earlier.flatMap (fun p => p.prompt ++ p.response) ++ last := by
  obtain ⟨asked, rest, hasked, hrest, rfl⟩ := encodeTurns_append.1 h
  obtain ⟨response, more, hreply, hmore, rfl⟩ := encodeTurns_cons_eq_ok_iff.1 hrest
  obtain rfl := Except.ok.inj hmore
  rw [Nat.zero_add] at hreply
  obtain ⟨said, hsaid, hresponse⟩ := (encodeTurn_odd odd).1 hreply
  have lengths : asked.length = turns.length := length_encodeTurns hasked
  have oddAsked : asked.length % 2 = 1 := by omega
  obtain ⟨last, whole⟩ := Budget.rounds_concat oddAsked
  have even : (turns ++ [reply]).length % 2 = 0 := by
    rw [List.length_append, List.length_singleton]
    omega
  -- The open round is no larger than the one with the reply, so there is room for it, too.
  have answered : b.pairUp (asked ++ [response]) = Budget.rounds asked ++ [(last, response)] := by
    have := Budget.totalSize_rounds_le (asked ++ [response])
    rw [Budget.pairUp_of_lt (by omega), whole]
  have isOpen : b.pairUp (asked ++ [[]]) = Budget.rounds asked ++ [(last, [])] := by
    have := Budget.totalSize_rounds_le (asked ++ [[]])
    have : ((asked ++ [[]]).map List.length).sum ≤ ((asked ++ [response]).map List.length).sum := by
      simp
    rw [Budget.pairUp_of_lt (by omega), whole]
  refine ⟨said, (Budget.rounds asked).flatMap (fun p => p.1 ++ p.2) ++ last, response,
    (Budget.rounds asked).map EncodedPair.ofPair, last, hsaid, hresponse, ?_, ?_, ?_, ?_⟩
  · rw [← joinPairs_concat, ← isOpen]
    exact (encodeWhole_eq_ok_iff_of_odd odd).2 ⟨awaits, asked, hasked, rfl⟩
  · rw [← joinPairs_concat, ← answered]
    exact encodeWhole_of_even even (by simp) h
  · rw [encodeRounds_eq_ok_iff]
    refine ⟨even, _, h, ?_⟩
    rw [answered, List.map_append]
    rfl
  · rw [List.flatMap_map]
    rfl

/-- A user's turn after a whole round, and the assistant's reply to it. -/
theorem encodeWhole_reply_smallTalk :
    plain.encodeTurns CharLevel.empty "" none 0 (smallTalk.dropLast ++ [⟨.assistant, "r"⟩]) =
        .ok [[10104, 10105], [10121, 10111], [10113], [10114]] ∧
      ∃ said prompt response earlier last,
        plain.say smallTalk.dropLast.length "" ⟨.assistant, "r"⟩ = .ok said ∧
        Slot.encodeAll CharLevel.empty said = .ok response ∧
        plain.encodeWhole CharLevel.empty smallTalk.dropLast none none ⟨7, 9⟩ = .ok ⟨prompt, []⟩ ∧
        plain.encodeWhole CharLevel.empty (smallTalk.dropLast ++ [⟨.assistant, "r"⟩]) none none
          ⟨7, 9⟩ = .ok ⟨prompt, response⟩ ∧
        plain.encodeRounds CharLevel.empty (smallTalk.dropLast ++ [⟨.assistant, "r"⟩]) none none
          ⟨7, 9⟩ = .ok (earlier ++ [⟨last, response⟩]) ∧
        prompt = earlier.flatMap (fun p => p.prompt ++ p.response) ++ last := by
  have h : plain.encodeTurns CharLevel.empty "" none 0
      (smallTalk.dropLast ++ [⟨.assistant, "r"⟩]) =
        .ok [[10104, 10105], [10121, 10111], [10113], [10114]] := by decide
  exact ⟨h, encodeWhole_reply (by decide) (by decide) h (by decide)⟩

end Template

end Colloquy
