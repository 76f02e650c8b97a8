import Colloquy.Proofs.Encoding

/-!
# System prompts in front of what a user says

A template may put the system prompt in front of what the first user turn says. Of a prompt that
renders to several texts only the first one gets there, and only if the dialogue begins with a user
turn (`contentAt_eq`). So the whole prompt reaches the first user turn if that turn comes first and
the other texts are empty; otherwise a part of it is said nowhere (`promptArrives_iff`).
-/

namespace Colloquy

/-- The texts of slots, one after the other. -/
def Slot.joined (slots : List Slot) : String :=
  String.join (slots.filterMap Slot.text?)

theorem Slot.joined_cons_text (s : String) (slots : List Slot) :
    joined (.text s :: slots) = s ++ joined slots := by
  simp [joined, text?]

theorem Slot.exists_eq_text {slot : Slot} (h : slot.text?.isSome) : ∃ s, slot = .text s := by
  cases slot with
  | text s => exact ⟨s, rfl⟩
  | token name => cases h
  | bos => cases h
  | eos => cases h

theorem Slot.firstText?_eq_some_iff {slots : List Slot} {s : String} :
    firstText? slots = some s ↔ ∃ rest, slots = .text s :: rest := by
  cases slots with
  | nil => simp [firstText?]
  | cons slot rest => cases slot <;> simp [firstText?, text?]

theorem Slot.joined_eq_empty_iff {slots : List Slot} (texts : ∀ slot ∈ slots, slot.text?.isSome) :
    joined slots = "" ↔ ∀ slot ∈ slots, slot = .text "" := by
  induction slots with
  | nil => simp [joined]
  | cons slot slots ih =>
    obtain ⟨s, rfl⟩ := exists_eq_text (texts slot (List.mem_cons_self ..))
    rw [joined_cons_text, String.append_eq_empty_iff,
      ih fun slot h => texts slot (List.mem_cons_of_mem _ h)]
    simp

namespace Template

/-! ## Contents that formatters are given -/

/-- The formatter for what is said in a role. -/
def formatter? (t : Template) : Role → Option Formatter
  | .user => some t.user
  | .assistant => some t.assistant
  | .observation => some t.observation
  | .function => some t.function
  | .system => none

/-- What the formatter of turn `k` is given with a content. A user turn has the number of its round,
too. -/
def argsAt (k : Nat) (turn : Turn) (content : String) : Formatter.Args :=
  ⟨some content, if turn.role = .user then some (toString (k / 2)) else none⟩

/-- The content that the formatter of turn `k` is given. -/
def contentAt (t : Template) (system : String) (tools : Option String) (k : Nat) (turn : Turn) :
    Except TemplateError String :=
  (t.before system tools k).map fun start =>
    if turn.role = .user then start.glued ++ turn.content else turn.content

section

variable {t : Template} {system : String} {tools : Option String} {k : Nat} {turn : Turn}

theorem say_eq_ok_iff {glued : String} {said : List Slot} :
    t.say k glued turn = .ok said ↔ ∃ f, t.formatter? turn.role = some f ∧
      said = f.apply (argsAt k turn
        (if turn.role = .user then glued ++ turn.content else turn.content)) := by
  unfold say formatter? argsAt
  cases turn.role <;> simp [Formatter.Args.ofContent, eq_comm]

/-- The ids of a turn are those of what comes before it and of what its formatter makes of the
content. -/
theorem encodeTurn_eq_ok_iff_contentAt {τ : Type} [Tokenizer τ] {tok : τ} {ids : List TokenId} :
    t.encodeTurn tok system tools k turn = .ok ids ↔
      ∃ start f content, t.before system tools k = .ok start ∧
        t.formatter? turn.role = some f ∧ t.contentAt system tools k turn = .ok content ∧
        Slot.encodeAll tok (start.ahead ++ f.apply (argsAt k turn content)) = .ok ids := by
  rw [encodeTurn_eq_ok_iff]
  constructor
  · rintro ⟨start, said, hs, hsaid, hids⟩
    obtain ⟨f, hf, rfl⟩ := say_eq_ok_iff.1 hsaid
    exact ⟨start, f, _, hs, hf, by rw [contentAt, hs]; rfl, hids⟩
  · rintro ⟨start, f, content, hs, hf, hc, hids⟩
    rw [contentAt, hs] at hc
    obtain rfl := Except.ok.inj hc
    exact ⟨start, _, hs, say_eq_ok_iff.2 ⟨f, hf, rfl⟩, hids⟩

/-- Ids of turns that come of what the formatter of each turn makes of the content it is given. -/
def EncodesContents {τ : Type} [Tokenizer τ] (t : Template) (tok : τ) (system : String)
    (tools : Option String) (turns : List Turn) (ids : List (List TokenId)) : Prop :=
  ∀ k turn, turns[k]? = some turn → ∃ start f content here,
    t.before system tools k = .ok start ∧ t.formatter? turn.role = some f ∧
    t.contentAt system tools k turn = .ok content ∧ ids[k]? = some here ∧
    Slot.encodeAll tok (start.ahead ++ f.apply (argsAt k turn content)) = .ok here

theorem encodesContents_of_encodeTurns {τ : Type} [Tokenizer τ] {tok : τ} {turns : List Turn}
    {ids : List (List TokenId)} (h : t.encodeTurns tok system tools 0 turns = .ok ids) :
    t.EncodesContents tok system tools turns ids := by
  intro k turn hk
  obtain ⟨here, hhere, he⟩ := encodeTurn_of_getElem? h hk
  rw [Nat.zero_add] at he
  obtain ⟨start, f, content, hs, hf, hc, hids⟩ := encodeTurn_eq_ok_iff_contentAt.1 he
  exact ⟨start, f, content, here, hs, hf, hc, hhere, hids⟩

/-! ## Prompts in front of contents -/

/-- A prompt that is put in front of a content is the first of its texts. -/
theorem opening_eq_ok_iff_of_prepend (prepends : t.injection = .prependToFirstUser)
    (opens : t.opensWithSystem system tools = true) {start : Opening} :
    t.opening system tools = .ok start ↔
      ∃ glued, Slot.firstText? (t.renderSystem system tools) = some glued ∧
        start = ⟨[], glued⟩ := by
  simp only [opening, if_pos opens, prepends]
  cases Slot.firstText? (t.renderSystem system tools) <;> simp [eq_comm]

/-- Only what a user says in the first turn of a dialogue has a text in front of it. -/
theorem contentAt_eq (prepends : t.injection = .prependToFirstUser)
    (opens : t.opensWithSystem system tools = true) {glued : String}
    (first : Slot.firstText? (t.renderSystem system tools) = some glued) (k : Nat) (turn : Turn) :
    t.contentAt system tools k turn =
      .ok (if k = 0 ∧ turn.role = .user then glued ++ turn.content else turn.content) := by
  unfold contentAt before
  by_cases start : k = 0
  · have opened := (opening_eq_ok_iff_of_prepend prepends opens).2 ⟨glued, first, rfl⟩
    simp [start, opened, Except.map]
  · by_cases even : k % 2 = 0 <;> simp [start, even, Except.map, Opening.none]

end

/-! ## The first user turn -/

/-- The place of the first user turn. -/
def firstUser (turns : List Turn) : Nat :=
  turns.findIdx fun turn => turn.role = .user

/-- A template puts a system prompt, which is not empty and is rendered to texts alone, in front of
what the first user of a dialogue says. -/
structure PutsInFront (t : Template) (system : String) (tools : Option String) (turns : List Turn) :
    Prop where
  prepends : t.injection = .prependToFirstUser
  given : system ≠ ""
  texts : ∀ slot ∈ t.renderSystem system tools, slot.text?.isSome
  users : ∃ turn ∈ turns, turn.role = .user

/-- The formatter of the first user turn is given all texts of the system prompt and then what the
user says; every other one is given the content of its turn alone. -/
def PromptArrives (t : Template) (system : String) (tools : Option String) (turns : List Turn) :
    Prop :=
  ∀ k turn, turns[k]? = some turn → t.contentAt system tools k turn =
    .ok (if k = firstUser turns then Slot.joined (t.renderSystem system tools) ++ turn.content
      else turn.content)

theorem getElem?_firstUser {turns : List Turn} (some : ∃ turn ∈ turns, turn.role = .user) :
    ∃ turn, turns[firstUser turns]? = .some turn ∧ turn.role = .user := by
  obtain ⟨turn, mem, role⟩ := some
  have lt : firstUser turns < turns.length :=
    List.findIdx_lt_length_of_exists ⟨turn, mem, by simpa using role⟩
  have found := @List.findIdx_getElem _ (fun turn : Turn => decide (turn.role = .user)) turns lt
  exact ⟨_, List.getElem?_eq_getElem lt, of_decide_eq_true found⟩

theorem firstUser_le {turns : List Turn} {k : Nat} {turn : Turn} (h : turns[k]? = some turn)
    (role : turn.role = .user) : firstUser turns ≤ k := by
  by_contra lt
  obtain ⟨hk, rfl⟩ := List.getElem?_eq_some_iff.1 h
  simpa [role] using List.not_of_lt_findIdx (Nat.lt_of_not_le lt)

section

variable {t : Template} {system : String} {tools : Option String} {turns : List Turn}

theorem PutsInFront.opens (front : t.PutsInFront system tools turns) :
    t.opensWithSystem system tools = true := by
  simp [opensWithSystem, front.given]

/-- A prompt of texts only arrives if it says nothing, or if the dialogue begins with a user turn
and only the first text says something. -/
theorem promptArrives_iff_of_first (front : t.PutsInFront system tools turns) {glued : String}
    (first : Slot.firstText? (t.renderSystem system tools) = some glued) :
    t.PromptArrives system tools turns ↔
      Slot.joined (t.renderSystem system tools) = "" ∨
        firstUser turns = 0 ∧ ∀ slot ∈ (t.renderSystem system tools).tail, slot = .text "" := by
  obtain ⟨turn, at', role⟩ := getElem?_firstUser front.users
  have content := contentAt_eq front.prepends front.opens first
  obtain ⟨rest, rendered⟩ := Slot.firstText?_eq_some_iff.1 first
  have texts := front.texts
  rw [rendered] at texts
  have silent := Slot.joined_eq_empty_iff fun slot h => texts slot (List.mem_cons_of_mem _ h)
  unfold PromptArrives
  rw [rendered, List.tail_cons, Slot.joined_cons_text, ← silent]
  constructor
  · intro arrives
    have here := (content _ turn).symm.trans (arrives _ turn at')
    by_cases start : firstUser turns = 0
    · simp only [start, role, and_self, if_true, Except.ok.injEq, String.append_left_inj] at here
      exact .inr ⟨start, String.append_eq_left_iff.1 here.symm⟩
    · simp only [start, false_and, if_false, if_true, Except.ok.injEq] at here
      exact .inl (String.append_eq_right_iff.1 here.symm)
  · intro whole k other hk
    rw [content]
    by_cases isFirst : k = firstUser turns
    · obtain rfl : turn = other := by simpa [← isFirst, hk, eq_comm] using at'
      rw [if_pos isFirst]
      rcases whole with silent | ⟨start, silent⟩
      · obtain ⟨rfl, -⟩ := String.append_eq_empty_iff.1 silent
        simp [silent]
      · rw [if_pos ⟨isFirst.trans start, role⟩, silent, String.append_empty]
    · rw [if_neg isFirst, if_neg]
      rintro ⟨rfl, isUser⟩
      exact isFirst (Nat.le_zero.1 (firstUser_le hk isUser)).symm

/-- The first user turn of an encoded dialogue is given the whole system prompt exactly if the
prompt says nothing, or if that turn is the first of all and only the first text of the prompt says
something. Other turns are given their contents alone in any case. -/
theorem promptArrives_iff {τ : Type} [Tokenizer τ] {tok : τ} {system tools : Option String}
    {b : Budget} {mayBeOpen : Bool} {pairs : List (List TokenId × List TokenId)}
    (front : t.PutsInFront (t.systemText system) (presentTools? tools) turns)
    (h : t.encodePairs tok turns system tools b mayBeOpen = .ok pairs) :
    (∃ ids, t.EncodesContents tok (t.systemText system) (presentTools? tools) turns ids ∧
        pairs = b.pairUp (if turns.length % 2 = 1 then ids ++ [[]] else ids)) ∧
      (∀ k turn, turns[k]? = some turn → k ≠ firstUser turns →
        t.contentAt (t.systemText system) (presentTools? tools) k turn = .ok turn.content) ∧
      (t.PromptArrives (t.systemText system) (presentTools? tools) turns ↔
        Slot.joined (t.renderSystem (t.systemText system) (presentTools? tools)) = "" ∨
          firstUser turns = 0 ∧
            ∀ slot ∈ (t.renderSystem (t.systemText system) (presentTools? tools)).tail,
              slot = .text "") := by
  obtain ⟨ids, hids, rfl⟩ := exists_encodeTurns_of_encodePairs h
  have made := encodesContents_of_encodeTurns hids
  -- The first turn is encoded, so the prompt begins with a text.
  obtain ⟨glued, first⟩ : ∃ glued, Slot.firstText?
      (t.renderSystem (t.systemText system) (presentTools? tools)) = some glued := by
    obtain ⟨turn, mem, -⟩ := front.users
    have here := List.getElem?_eq_getElem (List.length_pos_of_mem mem)
    obtain ⟨start, -, -, -, opened, -⟩ := made 0 _ here
    obtain ⟨glued, first, -⟩ := (opening_eq_ok_iff_of_prepend front.prepends front.opens).1 opened
    exact ⟨glued, first⟩
  refine ⟨⟨ids, made, rfl⟩, fun k turn hk other => ?_,
    promptArrives_iff_of_first front first⟩
  rw [contentAt_eq front.prepends front.opens first, if_neg]
  rintro ⟨rfl, isUser⟩
  exact other (Nat.le_zero.1 (firstUser_le hk isUser)).symm

/-- A template that puts a system prompt in some slots in front of what the first user says. -/
def prepending (slots : List Slot) : Template :=
  Spec.build {
    name := "prepending"
    system := some (.content slots)
    injection := some .prependToFirstUser }

/-- A prompt of one text arrives. -/
theorem promptArrives_iff_smallTalk :
    (prepending [.text "[\x7b\x7bcontent\x7d\x7d]"]).PromptArrives "S" none smallTalk ∧
      (prepending [.text "[\x7b\x7bcontent\x7d\x7d]"]).contentAt "S" none 0 ⟨.user, "hi"⟩ =
        .ok "[S]hi" := by
  obtain ⟨pairs, h⟩ : ∃ pairs, (prepending [.text "[\x7b\x7bcontent\x7d\x7d]"]).encodePairs
      CharLevel.empty smallTalk (some "S") none ⟨100, 1⟩ false = .ok pairs := ⟨_, by rfl⟩
  have arrives := (promptArrives_iff ⟨rfl, by decide, by decide, by decide⟩ h).2.2.2
    (.inr ⟨by decide, by decide⟩)
  exact ⟨arrives, arrives 0 _ rfl⟩

/-- A template whose system prompt is rendered to two texts. -/
def parted : Template := prepending [.text "A", .text "\x7b\x7bcontent\x7d\x7d"]

/-- A template whose system prompt is rendered to one text. -/
def unparted : Template := prepending [.text "\x7b\x7bcontent\x7d\x7d"]

/-- A dialogue that a user does not begin. -/
def lateTalk : List Turn := [⟨.assistant, "a"⟩, ⟨.user, "q"⟩]

/-- The second text of a prompt is lost, and so is the whole prompt where a user turn does not come
first. -/
theorem not_promptArrives :
    (parted.PutsInFront "S" none smallTalk ∧
      parted.encodePairs CharLevel.empty smallTalk (some "S") none ⟨100, 1⟩ false =
        .ok [([10065, 10104, 10105], [10121, 10111]), ([10113], [10114])] ∧
      ¬ parted.PromptArrives "S" none smallTalk) ∧
    unparted.PutsInFront "S" none lateTalk ∧
      unparted.encodePairs CharLevel.empty lateTalk (some "S") none ⟨100, 1⟩ false =
        .ok [([10097], [10113])] ∧
      ¬ unparted.PromptArrives "S" none lateTalk := by
  refine ⟨⟨⟨rfl, by decide, by decide, by decide⟩, by decide, fun arrives => ?_⟩,
    ⟨rfl, by decide, by decide, by decide⟩, by decide, fun arrives => ?_⟩
  · exact absurd (arrives 0 _ rfl) (by decide)
  · exact absurd (arrives 1 _ rfl) (by decide)

end

end Template

end Colloquy
