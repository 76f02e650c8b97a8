import Colloquy.Proofs.Encoding

/-!
# Dialogues that are refused

A dialogue is refused for its number of turns (`Unpaired`), or else for the first of its turns that
has a defect (`Defect`): its system prompt has no place in the template, it has no role to speak in,
or the tokenizer cannot encode one of its texts. Nothing else goes wrong, and how much a budget
would have kept of the dialogue does not matter (`encode_eq_error_iff`).
-/

namespace Colloquy

namespace Slot

variable {τ : Type} [Tokenizer τ]

/-- A text that a tokenizer cannot encode. An empty one is never handed to it. -/
def Unencodable (tok : τ) (slot : Slot) (e : TokenizerError) : Prop :=
  ∃ s, slot = .text s ∧ s ≠ "" ∧ Tokenizer.encode tok s = .error e

theorem encode_eq_error_iff_unencodable {tok : τ} {slot : Slot} {e : TokenizerError} :
    slot.encode tok = .error e ↔ slot.Unencodable tok e := by
  cases slot with
  | text s =>
    by_cases empty : s = ""
    · simp [Slot.encode, Unencodable, empty]
    · simp [Slot.encode, Unencodable, empty]
  | token name => simp [Slot.encode, Unencodable]
  | bos => simp [Slot.encode, Unencodable]
  | eos => simp [Slot.encode, Unencodable]

/-- Slots are encoded up to the first text that cannot be. -/
theorem encodeAll_eq_error_iff {tok : τ} {slots : List Slot} {e : TokenizerError} :
    encodeAll tok slots = .error e ↔ FirstFault (Unencodable tok) slots e := by
  rw [← mapM_eq_error_iff fun _ _ => encode_eq_error_iff_unencodable]
  exact bind_pure_eq_error_iff

theorem firstText?_eq_none_iff {slots : List Slot} :
    firstText? slots = none ↔ ∀ s rest, slots ≠ .text s :: rest := by
  cases slots with
  | nil => simp [firstText?]
  | cons slot rest => cases slot <;> simp [firstText?, text?]

end Slot

namespace Template

/-! ## Slots of a turn -/

/-- A system prompt without a place: it is to stand in front of what the first user says, but what
is rendered of it does not begin with a text. -/
def Unplaced (t : Template) (system : String) (tools : Option String) : Prop :=
  t.injection = .prependToFirstUser ∧ (system ≠ "" ∨ tools ≠ none ∨ t.forceSystem = true) ∧
    ∀ s rest, t.renderSystem system tools ≠ .text s :: rest

section

variable {t : Template} {system : String} {tools : Option String} {i : Nat} {turn : Turn}
  {e : TemplateError}

theorem opensWithSystem_iff : t.opensWithSystem system tools = true ↔
    system ≠ "" ∨ tools ≠ none ∨ t.forceSystem = true := by
  simp [opensWithSystem, Option.isSome_iff_ne_none, or_assoc]

theorem opening_eq_error_iff : t.opening system tools = .error e ↔
    t.Unplaced system tools ∧ e = .invalidFormatter (.systemNotText t.name) := by
  rw [Unplaced, ← opensWithSystem_iff, ← Slot.firstText?_eq_none_iff]
  cases opens : t.opensWithSystem system tools with
  | false => simp [opening, opens]
  | true =>
    cases place : t.injection with
    | leading => simp [opening, opens, place]
    | prependToFirstUser =>
      cases first : Slot.firstText? (t.renderSystem system tools) with
      | none => simp [opening, opens, place, first, eq_comm]
      | some glued => simp [opening, opens, place, first]

theorem before_eq_error_iff : t.before system tools i = .error e ↔
    (i = 0 ∧ t.Unplaced system tools) ∧ e = .invalidFormatter (.systemNotText t.name) := by
  unfold before
  split_ifs with first later
  · simp [opening_eq_error_iff, first]
  · simp [first]
  · simp [first]

theorem say_eq_error_iff {glued : String} : t.say i glued turn = .error e ↔
    turn.role = .system ∧ e = .unexpectedRole "system" := by
  unfold say
  cases turn.role <;> simp [Role.name, eq_comm]

/-- The slots of a turn are wanting if the system prompt has no place ahead of it, or else if the
turn has no role to speak in. -/
theorem turnSlots_eq_error_iff : t.turnSlots system tools i turn = .error e ↔
    (i = 0 ∧ t.Unplaced system tools) ∧ e = .invalidFormatter (.systemNotText t.name) ∨
      ¬ (i = 0 ∧ t.Unplaced system tools) ∧
        turn.role = .system ∧ e = .unexpectedRole "system" := by
  have placed : (∃ start, t.before system tools i = .ok start) ↔
      ¬ (i = 0 ∧ t.Unplaced system tools) := by
    rw [exists_eq_ok_iff]
    constructor
    · exact fun fine unplaced => fine _ (before_eq_error_iff.2 ⟨unplaced, rfl⟩)
    · exact fun placed _ h => placed (before_eq_error_iff.1 h).1
  simp only [turnSlots, bind_eq_error_iff, before_eq_error_iff, say_eq_error_iff, pure_eq_ok,
    reduceCtorEq, and_false, exists_false, or_false]
  rw [← placed, exists_and_right]

end

/-! ## Defects -/

variable {τ : Type} [Tokenizer τ]

/-- What is wrong with a turn at its place in a dialogue. -/
inductive Defect (t : Template) (tok : τ) (system : String) (tools : Option String) :
    Turn × Nat → EncodeError → Prop where
  /-- The system prompt, due ahead of the first turn, has no place. -/
  | unplaced {turn : Turn} (unplaced : t.Unplaced system tools) :
    Defect t tok system tools (turn, 0) (.template (.invalidFormatter (.systemNotText t.name)))
  /-- Otherwise, the turn is one of the system. -/
  | systemTurn {turn : Turn} {i : Nat} (placed : ¬ (i = 0 ∧ t.Unplaced system tools))
      (role : turn.role = .system) :
    Defect t tok system tools (turn, i) (.template (.unexpectedRole "system"))
  /-- Otherwise, the first text of the turn that cannot be encoded. -/
  | unencodable {turn : Turn} {i : Nat} {slots : List Slot} {e : TokenizerError}
      (placed : ¬ (i = 0 ∧ t.Unplaced system tools)) (role : turn.role ≠ .system)
      (said : t.turnSlots system tools i turn = .ok slots)
      (first : FirstFault (Slot.Unencodable tok) slots e) :
    Defect t tok system tools (turn, i) (.tokenizer e)

theorem encodeTurn_eq_error_iff {t : Template} {tok : τ} {system : String}
    {tools : Option String} {i : Nat} {turn : Turn} {e : EncodeError} :
    t.encodeTurn tok system tools i turn = .error e ↔ t.Defect tok system tools (turn, i) e := by
  simp only [encodeTurn, bind_eq_error_iff, mapError_eq_error_iff, mapError_eq_ok_iff]
  constructor
  · rintro (⟨e, refused, rfl⟩ | ⟨slots, said, e, failed, rfl⟩)
    · rcases turnSlots_eq_error_iff.1 refused with ⟨⟨rfl, h⟩, rfl⟩ | ⟨placed, role, rfl⟩
      · exact .unplaced h
      · exact .systemTurn placed role
    · -- A turn that has slots has neither of the other defects.
      have fine := exists_eq_ok_iff.1 ⟨slots, said⟩
      refine .unencodable ?_ ?_ said (Slot.encodeAll_eq_error_iff.1 failed)
      · exact fun h => fine _ (turnSlots_eq_error_iff.2 (.inl ⟨h, rfl⟩))
      · intro role
        by_cases h : i = 0 ∧ t.Unplaced system tools
        · exact fine _ (turnSlots_eq_error_iff.2 (.inl ⟨h, rfl⟩))
        · exact fine _ (turnSlots_eq_error_iff.2 (.inr ⟨h, role, rfl⟩))
  · rintro (h | ⟨placed, role⟩ | ⟨-, -, said, first⟩)
    · exact .inl ⟨_, turnSlots_eq_error_iff.2 (.inl ⟨⟨rfl, h⟩, rfl⟩), rfl⟩
    · exact .inl ⟨_, turnSlots_eq_error_iff.2 (.inr ⟨placed, role, rfl⟩), rfl⟩
    · exact .inr ⟨_, said, _, Slot.encodeAll_eq_error_iff.2 first, rfl⟩

theorem encodeTurns_eq_mapM (t : Template) (tok : τ) (system : String) (tools : Option String)
    (i : Nat) (turns : List Turn) :
    t.encodeTurns tok system tools i turns =
      (turns.zipIdx i).mapM fun p => t.encodeTurn tok system tools p.2 p.1 := by
  induction turns generalizing i with
  | nil => rfl
  | cons turn turns ih =>
    rw [List.zipIdx_cons, List.mapM_cons, ← ih]
    rfl

/-- Turns are encoded up to the first one with a defect. -/
theorem encodeTurns_eq_error_iff {t : Template} {tok : τ} {system : String}
    {tools : Option String} {i : Nat} {turns : List Turn} {e : EncodeError} :
    t.encodeTurns tok system tools i turns = .error e ↔
      FirstFault (t.Defect tok system tools) (turns.zipIdx i) e := by
  rw [encodeTurns_eq_mapM]
  exact mapM_eq_error_iff fun _ _ => encodeTurn_eq_error_iff

/-! ## Refusals -/

/-- A dialogue with an odd number of turns, unless its last turn may be left open and is one of a
user or an observation. -/
def Unpaired (turns : List Turn) (mayBeOpen : Bool) : Prop :=
  turns.length % 2 = 1 ∧ ¬ (mayBeOpen = true ∧
    ∃ turn, turns.getLast? = some turn ∧ (turn.role = .user ∨ turn.role = .observation))

theorem awaitsReply_iff {turns : List Turn} : awaitsReply turns = true ↔
    ∃ turn, turns.getLast? = some turn ∧ (turn.role = .user ∨ turn.role = .observation) := by
  unfold awaitsReply
  cases turns.getLast? with
  | none => simp
  | some turn =>
    obtain ⟨role, content⟩ := turn
    cases role <;> simp [Role.asksForReply]

/-- Why a dialogue is refused: its turns make no pairs, or else its first defect. -/
inductive Refused (t : Template) (tok : τ) (turns : List Turn) (system tools : Option String)
    (mayBeOpen : Bool) : EncodeError → Prop where
  | unpaired (unpaired : Unpaired turns mayBeOpen) :
    Refused t tok turns system tools mayBeOpen (.template (.oddTurnCount turns.length))
  | defect {e : EncodeError} (paired : ¬ Unpaired turns mayBeOpen)
      (first : FirstFault (t.Defect tok (t.systemText system) (presentTools? tools)) turns.zipIdx e) :
    Refused t tok turns system tools mayBeOpen e

section

variable {t : Template} {tok : τ} {turns : List Turn} {system tools : Option String} {b : Budget}
  {mayBeOpen : Bool} {e : EncodeError}

theorem encodePairs_eq_error_iff : t.encodePairs tok turns system tools b mayBeOpen = .error e ↔
    t.Refused tok turns system tools mayBeOpen e := by
  have unpaired_iff : (turns.length % 2 == 1 && !(mayBeOpen && awaitsReply turns)) = true ↔
      Unpaired turns mayBeOpen := by
    rw [Bool.and_eq_true, beq_iff_eq, Bool.not_eq_true', ← Bool.not_eq_true, Bool.and_eq_true,
      awaitsReply_iff, Unpaired]
  unfold encodePairs
  by_cases unpaired : Unpaired turns mayBeOpen
  · rw [if_pos (unpaired_iff.2 unpaired)]
    constructor
    · intro h
      obtain rfl := Except.error.inj h
      exact .unpaired unpaired
    · rintro (_ | ⟨paired, -⟩)
      · rfl
      · exact absurd unpaired paired
  · rw [if_neg (mt unpaired_iff.1 unpaired), bind_pure_eq_error_iff, encodeTurns_eq_error_iff]
    constructor
    · exact .defect unpaired
    · rintro (h | ⟨-, first⟩)
      · exact absurd h unpaired
      · exact first

end

/-- A dialogue without turns has no rounds and cannot be encoded whole. Any other dialogue is refused
for its number of turns or for its first defect, and accepted if it has neither, whatever the
budget. -/
theorem encode_eq_error_iff (t : Template) (tok : τ) (turns : List Turn)
    (system tools : Option String) (b : Budget) :
    t.encodeRounds tok [] system tools b = .ok [] ∧
    (∀ e, t.encodeRounds tok turns system tools b = .error e ↔
      t.Refused tok turns system tools false e) ∧
    ∀ e, t.encodeWhole tok turns system tools b = .error e ↔
      turns = [] ∧ e = .template .emptyDialogue ∨
        turns ≠ [] ∧ t.Refused tok turns system tools true e := by
  refine ⟨rfl, fun e => ?_, fun e => ?_⟩
  · rw [← encodePairs_eq_error_iff (b := b), encodeRounds]
    exact bind_pure_eq_error_iff
  · by_cases empty : turns = []
    · simp [encodeWhole, empty, eq_comm]
    · rw [← encodePairs_eq_error_iff (b := b), encodeWhole, if_neg (by simpa using empty),
        bind_pure_eq_error_iff]
      simp [empty]

/-- A template that begins its system prompt with a token and puts it into the first turn. -/
def tokenFirst : Template :=
  Spec.build
    { name := "tokenFirst", system := some (.content [.token "<s>", .text "\x7b\x7bcontent\x7d\x7d"])
      forceSystem := true, injection := some .prependToFirstUser }

/-- Of three defects in two turns the prompt without a place counts, even if no id would be kept. -/
theorem encode_eq_error_iff_tokenFirst :
    tokenFirst.encodeRounds CharLevel.empty [⟨.system, "a"⟩, ⟨.system, "b"⟩] none none ⟨0, 1⟩ =
        .error (.template (.invalidFormatter (.systemNotText "tokenFirst"))) ∧
      tokenFirst.Refused CharLevel.empty [⟨.system, "a"⟩, ⟨.system, "b"⟩] none none false
        (.template (.invalidFormatter (.systemNotText "tokenFirst"))) := by
  have h : tokenFirst.encodeRounds CharLevel.empty [⟨.system, "a"⟩, ⟨.system, "b"⟩] none none
      ⟨0, 1⟩ = .error (.template (.invalidFormatter (.systemNotText "tokenFirst"))) := by decide
  obtain ⟨-, rounds, -⟩ := encode_eq_error_iff tokenFirst CharLevel.empty
    [⟨.system, "a"⟩, ⟨.system, "b"⟩] none none ⟨0, 1⟩
  exact ⟨h, (rounds _).1 h⟩

end Template

end Colloquy
