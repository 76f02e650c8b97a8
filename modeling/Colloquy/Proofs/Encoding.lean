import Colloquy.Template.Encoding
import Colloquy.Tokenizer.CharLevel
import Colloquy.Proofs.Budget
import Colloquy.Proofs.Except

/-!
# Rounds of a dialogue

Turns are encoded one after the other, without a look at later ones (`encodeTurns_append`), and
encoding a dialogue by rounds is encoding its turns and pairing them (`encodeRounds_eq_ok_iff`).
The laws of a budget thus become laws of encoding: which rounds come out and what they have lost
(`encodeRounds_cutTo`), and that later rounds change nothing of earlier ones
(`encodeRounds_append`).
-/

namespace Colloquy

/-- A pair of ids as a prompt and a response. -/
def EncodedPair.ofPair (p : List TokenId × List TokenId) : EncodedPair := ⟨p.1, p.2⟩

/-- A prompt and a response as a pair of ids. -/
def EncodedPair.toPair (p : EncodedPair) : List TokenId × List TokenId := (p.prompt, p.response)

theorem EncodedPair.toPair_comp_ofPair : toPair ∘ ofPair = id := rfl

theorem Slot.encodeAll_append {τ : Type} [Tokenizer τ] (tok : τ) (slots slots' : List Slot) :
    Slot.encodeAll tok (slots ++ slots') =
      (do return (← Slot.encodeAll tok slots) ++ (← Slot.encodeAll tok slots')) := by
  simp [Slot.encodeAll, List.mapM_append]

namespace Template

/-- The template that says contents alone. -/
def plain : Template := Spec.build { name := "plain" }

/-- A dialogue of two rounds. -/
def smallTalk : List Turn :=
  [⟨.user, "hi"⟩, ⟨.assistant, "yo"⟩, ⟨.user, "q"⟩, ⟨.assistant, "r"⟩]

variable {τ : Type} [Tokenizer τ]

/-! ## Turn by turn -/

theorem encodeTurns_cons_eq_ok_iff {t : Template} {tok : τ} {system : String}
    {tools : Option String} {i : Nat} {turn : Turn} {turns : List Turn}
    {ids : List (List TokenId)} :
    t.encodeTurns tok system tools i (turn :: turns) = .ok ids ↔
      ∃ first rest, t.encodeTurn tok system tools i turn = .ok first ∧
        t.encodeTurns tok system tools (i + 1) turns = .ok rest ∧ ids = first :: rest := by
  simp only [encodeTurns, bind_eq_ok_iff, pure_eq_ok, Except.ok.injEq]
  constructor
  · rintro ⟨first, hf, rest, hr, rfl⟩
    exact ⟨first, rest, hf, hr, rfl⟩
  · rintro ⟨first, rest, hf, hr, rfl⟩
    exact ⟨first, hf, rest, hr, rfl⟩

theorem length_encodeTurns {t : Template} {tok : τ} {system : String} {tools : Option String}
    {i : Nat} {turns : List Turn} {ids : List (List TokenId)}
    (h : t.encodeTurns tok system tools i turns = .ok ids) : ids.length = turns.length := by
  induction turns generalizing i ids with
  | nil =>
    obtain rfl := Except.ok.inj h
    rfl
  | cons turn turns ih =>
    obtain ⟨first, rest, -, hr, rfl⟩ := encodeTurns_cons_eq_ok_iff.1 h
    rw [List.length_cons, List.length_cons, ih hr]

/-- The ids of a turn depend on the turn and its place only. -/
theorem encodeTurns_append {t : Template} {tok : τ} {system : String} {tools : Option String}
    {i : Nat} {turns more : List Turn} {ids : List (List TokenId)} :
    t.encodeTurns tok system tools i (turns ++ more) = .ok ids ↔
      ∃ first rest, t.encodeTurns tok system tools i turns = .ok first ∧
        t.encodeTurns tok system tools (i + turns.length) more = .ok rest ∧
        ids = first ++ rest := by
  induction turns generalizing i ids with
  | nil => simp [encodeTurns]
  | cons turn turns ih =>
    rw [List.cons_append, encodeTurns_cons_eq_ok_iff]
    simp only [encodeTurns_cons_eq_ok_iff, ih, List.length_cons]
    have hi : i + 1 + turns.length = i + (turns.length + 1) := by omega
    rw [hi]
    constructor
    · rintro ⟨a, -, ha, ⟨b, c, hb, hc, rfl⟩, rfl⟩
      exact ⟨a :: b, c, ⟨a, b, ha, hb, rfl⟩, hc, rfl⟩
    · rintro ⟨-, c, ⟨a, b, ha, hb, rfl⟩, hc, rfl⟩
      exact ⟨a, b ++ c, ha, ⟨b, c, hb, hc, rfl⟩, rfl⟩

/-- A turn of an encoded dialogue is encoded at its place. -/
theorem encodeTurn_of_getElem? {t : Template} {tok : τ} {system : String}
    {tools : Option String} {i : Nat} {turns : List Turn} {ids : List (List TokenId)}
    (h : t.encodeTurns tok system tools i turns = .ok ids) {k : Nat} {turn : Turn}
    (hk : turns[k]? = some turn) :
    ∃ here, ids[k]? = some here ∧ t.encodeTurn tok system tools (i + k) turn = .ok here := by
  induction turns generalizing i ids k with
  | nil => cases hk
  | cons first turns ih =>
    obtain ⟨now, rest, hn, hr, rfl⟩ := encodeTurns_cons_eq_ok_iff.1 h
    cases k with
    | zero =>
      obtain rfl : first = turn := by simpa using hk
      exact ⟨now, rfl, hn⟩
    | succ k =>
      obtain ⟨here, hh, he⟩ := ih hr hk
      refine ⟨here, hh, ?_⟩
      rwa [show i + (k + 1) = i + 1 + k by omega]

/-- The ids of a turn are those of what comes before it and of what is said in it. -/
theorem encodeTurn_eq_ok_iff {t : Template} {tok : τ} {system : String}
    {tools : Option String} {k : Nat} {turn : Turn} {ids : List TokenId} :
    t.encodeTurn tok system tools k turn = .ok ids ↔
      ∃ start said, t.before system tools k = .ok start ∧ t.say k start.glued turn = .ok said ∧
        Slot.encodeAll tok (start.ahead ++ said) = .ok ids := by
  simp only [encodeTurn, turnSlots, bind_eq_ok_iff, mapError_eq_ok_iff, pure_eq_ok, Except.ok.injEq]
  constructor
  · rintro ⟨-, ⟨start, hs, said, hd, rfl⟩, he⟩
    exact ⟨start, said, hs, hd, he⟩
  · rintro ⟨start, said, hs, hd, he⟩
    exact ⟨_, ⟨start, hs, said, hd, rfl⟩, he⟩

/-! ## Rounds -/

/-- A dialogue is encoded turn by turn, and an open one gets an empty response. -/
theorem exists_encodeTurns_of_encodePairs {t : Template} {tok : τ} {turns : List Turn}
    {system tools : Option String} {b : Budget} {mayBeOpen : Bool}
    {pairs : List (List TokenId × List TokenId)}
    (h : t.encodePairs tok turns system tools b mayBeOpen = .ok pairs) :
    ∃ ids, t.encodeTurns tok (t.systemText system) (presentTools? tools) 0 turns = .ok ids ∧
      pairs = b.pairUp (if turns.length % 2 = 1 then ids ++ [[]] else ids) := by
  unfold encodePairs at h
  dsimp only at h
  split at h
  · cases h
  · simp only [bind_eq_ok_iff, pure_eq_ok, Except.ok.injEq, beq_iff_eq] at h
    obtain ⟨ids, hi, rfl⟩ := h
    exact ⟨ids, hi, rfl⟩

/-- A dialogue of whole rounds is encoded turn by turn and then paired. -/
theorem encodePairs_of_even {t : Template} {tok : τ} {turns : List Turn}
    {system tools : Option String} {b : Budget} {mayBeOpen : Bool}
    (even : turns.length % 2 = 0) :
    t.encodePairs tok turns system tools b mayBeOpen = (do
      let ids ← t.encodeTurns tok (t.systemText system) (presentTools? tools) 0 turns
      return b.pairUp ids) := by
  have closed : (turns.length % 2 == 1) = false := by simp [even]
  simp [encodePairs, closed]

theorem encodeRounds_eq_ok_iff {t : Template} {tok : τ} {turns : List Turn}
    {system tools : Option String} {b : Budget} {pairs : List EncodedPair} :
    t.encodeRounds tok turns system tools b = .ok pairs ↔
      turns.length % 2 = 0 ∧
      ∃ ids, t.encodeTurns tok (t.systemText system) (presentTools? tools) 0 turns = .ok ids ∧
        pairs = (b.pairUp ids).map EncodedPair.ofPair := by
  unfold encodeRounds
  by_cases even : turns.length % 2 = 0
  · rw [encodePairs_of_even even]
    simp only [bind_eq_ok_iff, pure_eq_ok, Except.ok.injEq, even, true_and]
    constructor
    · rintro ⟨-, ⟨ids, hi, rfl⟩, rfl⟩
      exact ⟨ids, hi, rfl⟩
    · rintro ⟨ids, hi, rfl⟩
      exact ⟨_, ⟨ids, hi, rfl⟩, rfl⟩
  · have odd : (turns.length % 2 == 1) = true := by
      rw [beq_iff_eq]
      omega
    simp [encodePairs, odd, even, bind, Except.bind]

/-! ## What a budget does to a dialogue -/

/-- The pairs of a dialogue are its uncut rounds, cut to the budget. -/
theorem encodeRounds_cutTo {t : Template} {tok : τ} {turns : List Turn}
    {system tools : Option String} {b : Budget} {pairs : List EncodedPair}
    (h : t.encodeRounds tok turns system tools b = .ok pairs) :
    ∃ ids, t.encodeTurns tok (t.systemText system) (presentTools? tools) 0 turns = .ok ids ∧
      2 * (Budget.rounds ids).length = turns.length ∧
      b.CutTo (Budget.rounds ids) (pairs.map EncodedPair.toPair) := by
  obtain ⟨even, ids, hids, rfl⟩ := encodeRounds_eq_ok_iff.1 h
  have hlen : ids.length = turns.length := length_encodeTurns hids
  refine ⟨ids, hids, ?_, ?_⟩
  · rw [← hlen]
    exact Budget.two_mul_length_rounds (hlen ▸ even)
  · rw [List.map_map, EncodedPair.toPair_comp_ofPair, List.map_id]
    exact Budget.cutTo_pairUp b ids

/-- A budget that ends inside the second round leaves of it a part of the response. -/
theorem encodeRounds_cutTo_second_round :
    plain.encodeRounds CharLevel.empty smallTalk none none ⟨5, 1⟩ =
        .ok [⟨[10104, 10105], [10121, 10111]⟩, ⟨[], [10114]⟩] ∧
      ∃ ids, plain.encodeTurns CharLevel.empty "" none 0 smallTalk = .ok ids ∧
        2 * (Budget.rounds ids).length = 4 ∧
        Budget.CutTo ⟨5, 1⟩ (Budget.rounds ids)
          [([10104, 10105], [10121, 10111]), ([], [10114])] := by
  have h : plain.encodeRounds CharLevel.empty smallTalk none none ⟨5, 1⟩ =
      .ok [⟨[10104, 10105], [10121, 10111]⟩, ⟨[], [10114]⟩] := by decide
  exact ⟨h, encodeRounds_cutTo h⟩

/-- Rounds that follow change nothing of what a dialogue is encoded to, whatever the budget. -/
theorem encodeRounds_append {t : Template} {tok : τ} {turns more : List Turn}
    {system tools : Option String} {b : Budget} {pairs : List EncodedPair}
    (even : turns.length % 2 = 0)
    (h : t.encodeRounds tok (turns ++ more) system tools b = .ok pairs) :
    t.encodeRounds tok turns system tools b = .ok (pairs.take (turns.length / 2)) := by
  obtain ⟨-, ids, hids, rfl⟩ := encodeRounds_eq_ok_iff.1 h
  obtain ⟨first, rest, hf, -, rfl⟩ := encodeTurns_append.1 hids
  rw [encodeRounds_eq_ok_iff]
  refine ⟨even, first, hf, ?_⟩
  have hl : first.length = turns.length := length_encodeTurns hf
  rw [Budget.pairUp, Budget.pairUp, Budget.pairFrom_append b 0 first rest (hl ▸ even), hl,
    List.map_take]

/-- A round more leaves the two rounds before it as they are. -/
theorem encodeRounds_append_second_round :
    plain.encodeRounds CharLevel.empty (smallTalk ++ smallTalk) none none ⟨5, 1⟩ =
        .ok [⟨[10104, 10105], [10121, 10111]⟩, ⟨[], [10114]⟩] ∧
      plain.encodeRounds CharLevel.empty smallTalk none none ⟨5, 1⟩ =
        .ok [⟨[10104, 10105], [10121, 10111]⟩, ⟨[], [10114]⟩] := by
  have h : plain.encodeRounds CharLevel.empty (smallTalk ++ smallTalk) none none ⟨5, 1⟩ =
      .ok [⟨[10104, 10105], [10121, 10111]⟩, ⟨[], [10114]⟩] := by decide
  exact ⟨h, encodeRounds_append (by decide) h⟩

end Template

end Colloquy
