import Mathlib.Algebra.Order.BigOperators.Group.List
import Mathlib.Algebra.Order.Group.Nat
import Colloquy.Tokenizer.CharLevel
import Colloquy.Proofs.Template.Dialogues

/-!
# Encoding and compiled templates

When a compiled template says the same as the slots of a dialogue (`Agrees`), up to the separator
behind a last response. Both agree on every dialogue they admit as long as the separator does not
mention the content. They disagree where it does, since a compiled template puts each response into
the separator behind it (`separator_decides_agreement`).
-/

namespace Colloquy

open Jinja (Message)

variable {τ : Type} [Tokenizer τ]

/-! ## Messages -/

@[simp] theorem Role.toList_name_inj {r r' : Role} : r.name.toList = r'.name.toList ↔ r = r' := by
  refine ⟨fun h => ?_, fun h => by rw [h]⟩
  have same := congrArg ofName? (String.toList_inj.1 h)
  rwa [ofName?_name, ofName?_name, Option.some.injEq] at same

/-- A turn as a message. -/
def Turn.toMessage (turn : Turn) : Message := ⟨turn.role.name.toList, turn.content.toList⟩

namespace Template

/-- The messages of a dialogue, led by the system prompt if one is given. -/
def messagesOf (system : Option String) (turns : List Turn) : List Message :=
  (system.map fun s => ⟨Role.system.name.toList, s.toList⟩).toList ++ turns.map Turn.toMessage

/-- A compiled template says what the slots of a dialogue hold, which an encoder turns into ids. -/
def Agrees (t : Template) (tok : τ) (text : String) (system : Option String)
    (turns : List Turn) : Prop :=
  ∃ slots, t.dialogueSlots (t.systemText system) none 0 turns = .ok slots ∧
    (t.encodeTurns tok (t.systemText system) none 0 turns).map List.flatten =
      (Slot.encodeAll tok slots).mapError .tokenizer ∧
    Jinja.render? text (messagesOf system turns) =
      some (slotsText tok slots ++ t.separatorText tok turns.length)

/-- The formatters of a template say texts and contents, and a system prompt that goes into the
first user turn is a single text. -/
structure SaysPlainly (t : Template) : Prop where
  user : t.user.SaysOnce
  assistant : t.assistant.SaysOnce
  system : t.system.SaysOnce
  separator : t.separator.SaysOnce
  single : t.injection = .prependToFirstUser → ∃ s, t.system.skeleton = [.text s]

/-- A dialogue that both an encoder and a compiled template can say. -/
structure Admits (t : Template) (system : Option String) (turns : List Turn) : Prop where
  ne_nil : turns ≠ []
  alternates : Alternates 0 turns
  /-- A given system prompt is not empty. -/
  given : system ≠ some ""
  /-- A system prompt that is neither given nor a default is not forced. -/
  missing : system = none → t.defaultSystem = "" → t.forceSystem = false
  first : ∀ start, t.opening (t.systemText system) none = .ok start →
    ∀ turn ∈ turns.head?, t.Unnumbered (start.glued ++ turn.content)
  later : ∀ turn ∈ turns.tail, turn.role = .user → t.Unnumbered turn.content

theorem SaysPlainly.withSeparator {t : Template} (h : t.SaysPlainly) {f : Formatter}
    (hf : f.SaysOnce) : { t with separator := f }.SaysPlainly where
  user := h.user
  assistant := h.assistant
  system := h.system
  separator := hf
  single := h.single

theorem Admits.withSeparator {t : Template} {system : Option String} {turns : List Turn}
    (h : t.Admits system turns) (f : Formatter) :
    { t with separator := f }.Admits system turns where
  ne_nil := h.ne_nil
  alternates := h.alternates
  given := h.given
  missing := h.missing
  first := h.first
  later := h.later

/-! ## The system prompt -/

section

variable {t : Template} {system : Option String} {turn : Turn} {turns : List Turn}

theorem systemText_of_given {s : String} (h : s ≠ "") : t.systemText (some s) = s := by
  rw [systemText, if_neg (by simpa using h)]

/-- A system prompt that there is none of is not forced. -/
theorem unforced_of_empty (adm : t.Admits system turns) (empty : t.systemText system = "") :
    t.forceSystem = false := by
  cases system with
  | none => exact adm.missing rfl empty
  | some s =>
    have full : s ≠ "" := fun h => adm.given (by rw [h])
    rw [systemText_of_given full] at empty
    exact absurd empty full

/-- An encoder and a compiled template find the same system prompt. -/
theorem promptOf?_messagesOf (given : system ≠ some "") (user : turn.role = .user) :
    t.promptOf? (messagesOf system (turn :: turns)) =
      if t.systemText system = "" then none else some (t.systemText system).toList := by
  cases system with
  | none =>
    by_cases empty : t.defaultSystem = "" <;>
      simp [messagesOf, promptOf?, Turn.toMessage, user, systemText, empty]
  | some s =>
    have full : s ≠ "" := fun h => given (by rw [h])
    rw [systemText_of_given full, if_neg full]
    rfl

theorem firstIndex_messagesOf (user : turn.role = .user) :
    firstIndex (messagesOf system (turn :: turns)) = system.toList.length := by
  cases system with
  | none =>
    simp [messagesOf, firstIndex, Turn.toMessage, user]
  | some s => rfl

/-- A system prompt is said in the slots of its formatter. -/
theorem slotsText_renderSystem (tok : τ) (once : t.system.SaysOnce) (s : String) :
    slotsText tok (t.renderSystem s none) = fillText tok t.system.skeleton s.toList := by
  rw [renderSystem, toolText, String.append_empty]
  exact once.slotsText_apply tok _ rfl fun s _ => .inl rfl

/-- What comes before the first turn is what a compiled template says of the system prompt. -/
theorem opening_of_plain (tok : τ) (plain : t.SaysPlainly)
    (adm : t.Admits system (turn :: turns)) (user : turn.role = .user) {m : Message}
    (hm : m.role = Role.user.name.toList) :
    ∃ start, t.opening (t.systemText system) none = .ok start ∧
      t.headText tok (messagesOf system (turn :: turns)) = slotsText tok start.ahead ∧
      t.gluedText tok (messagesOf system (turn :: turns))
        (firstIndex (messagesOf system (turn :: turns))) m = start.glued.toList := by
  have prompt : t.promptOf? (messagesOf system (turn :: turns)) = _ :=
    promptOf?_messagesOf adm.given user
  by_cases empty : t.systemText system = ""
  · -- Both sides leave out a prompt that is neither given nor a default.
    have unforced := unforced_of_empty adm empty
    rw [if_pos empty] at prompt
    refine ⟨.none, by simp [opening, opensWithSystem, empty, unforced], ?_, ?_⟩
    · rw [headText, prompt]
      cases t.injection <;> rfl
    · simp [gluedText, prompt, Opening.none]
  · have opens : t.opensWithSystem (t.systemText system) Option.none = true := by
      simp [opensWithSystem, empty]
    have said := slotsText_renderSystem tok plain.system (t.systemText system)
    rw [if_neg empty] at prompt
    -- Both sides say it with the same slots, ahead of the first turn or in front of its content.
    cases place : t.injection with
    | leading =>
      refine ⟨⟨t.renderSystem (t.systemText system) Option.none, ""⟩, ?_, ?_, ?_⟩
      · simp [opening, opens, place]
      · simp [headText, place, prompt, said]
      · simp [gluedText, place]
    | prependToFirstUser =>
      obtain ⟨s, single⟩ := plain.single place
      obtain ⟨glued, hg⟩ := plain.system.exists_apply_eq_text single
        (.ofContent (t.systemText system ++ t.toolText Option.none))
      have rendered : t.renderSystem (t.systemText system) Option.none = [.text glued] := hg
      refine ⟨⟨[], glued⟩, ?_, ?_, ?_⟩
      · simp [opening, opens, place, rendered, Slot.firstText?, Slot.text?]
      · simp [headText, place, slotsText]
      · rw [rendered] at said
        simp [gluedText, place, hm, prompt, ← said, slotsText, Slot.plainText]

/-! ## Both sides of a dialogue -/

/-- A compiled template says a turn behind the first user message in the slots of its role. -/
theorem messageText_later (tok : τ) {ms : List Message} {i k : Nat} (hk : firstIndex ms < k)
    (role : turn.role = Role.ofTurn i) :
    t.messageText tok ms k turn.toMessage = t.turnText tok turn ++
      if turn.role = .assistant then fillText tok t.separator.skeleton turn.content.toList
      else [] := by
  have unglued : t.gluedText tok ms k turn.toMessage = [] := if_neg fun h => by omega
  rw [messageText, unglued, turnText, Turn.toMessage]
  by_cases even : i % 2 = 0
  · have isUser : turn.role = .user := by rw [role, Role.ofTurn, if_pos even]
    simp [isUser]
  · have isAssistant : turn.role = .assistant := by rw [role, Role.ofTurn, if_neg even]
    simp [isAssistant, fillText_append]

theorem flatMap_messageText (tok : τ) (ms : List Message) {i k : Nat} (hk : firstIndex ms < k)
    (alt : Alternates i turns) :
    ((turns.map Turn.toMessage).zipIdx k).flatMap (fun p => t.messageText tok ms p.2 p.1) =
      t.turnsText tok (fillText tok t.separator.skeleton) turns := by
  induction turns generalizing i k with
  | nil => rfl
  | cons turn turns ih =>
    rw [List.map_cons, List.zipIdx_cons, List.flatMap_cons, messageText_later tok hk alt.1,
      ih (Nat.lt_succ_of_lt hk) alt.2]
    rfl

theorem flatMap_messagesOf (f : Nat → Message → List Char) :
    (messagesOf system (turn :: turns)).zipIdx.flatMap (fun p => f p.2 p.1) =
      (system.toList.flatMap fun s => f 0 ⟨Role.system.name.toList, s.toList⟩) ++
        (f system.toList.length turn.toMessage ++
          ((turns.map Turn.toMessage).zipIdx (system.toList.length + 1)).flatMap
            fun p => f p.2 p.1) := by
  cases system <;> simp [messagesOf]

/-- What the slots of a dialogue hold, up to the text of the system prompt. -/
theorem dialogueSlots_of_plain (tok : τ) (plain : t.SaysPlainly)
    (adm : t.Admits system (turn :: turns)) {start : Opening}
    (hs : t.opening (t.systemText system) none = .ok start) :
    ∃ slots, t.dialogueSlots (t.systemText system) none 0 (turn :: turns) = .ok slots ∧
      slotsText tok slots ++ t.separatorText tok (turn :: turns).length =
        slotsText tok start.ahead ++
          fillText tok t.user.skeleton (start.glued ++ turn.content).toList ++
            t.turnsText tok (fun _ => slotsText tok t.separator.skeleton) turns := by
  have isUser : turn.role = .user := adm.alternates.1
  obtain ⟨rest, hr, restText⟩ := dialogueSlots_later tok plain.user plain.assistant
    (t.systemText system) none Nat.one_pos adm.alternates.2 adm.later
  have said := plain.user.slotsText_apply tok
    ⟨some (start.glued ++ turn.content), some (toString (0 / 2))⟩ rfl
    fun s hs' => .inr (adm.first start hs turn rfl _ hs' s rfl)
  have first : t.turnSlots (t.systemText system) none 0 turn = .ok (start.ahead ++
      t.user.apply ⟨some (start.glued ++ turn.content), some (toString (0 / 2))⟩) :=
    turnSlots_of_ok hs (by rw [say, isUser])
  refine ⟨_, dialogueSlots_cons_eq_ok_iff.2 ⟨_, rest, first, hr, rfl⟩, ?_⟩
  have odd : t.separatorText tok 1 = [] := rfl
  rw [odd, List.nil_append] at restText
  rw [slotsText_append, slotsText_append, said, List.length_cons, Nat.add_comm, List.append_assoc,
    restText]

/-- What a compiled template says, up to the text of the system prompt. -/
theorem render?_of_plain {tok : τ} {text : String} (h : t.compile tok = .ok text)
    (plain : t.SaysPlainly) (adm : t.Admits system (turn :: turns)) :
    ∃ start, t.opening (t.systemText system) none = .ok start ∧
      Jinja.render? text (messagesOf system (turn :: turns)) = some (slotsText tok start.ahead ++
        fillText tok t.user.skeleton (start.glued ++ turn.content).toList ++
          t.turnsText tok (fillText tok t.separator.skeleton) turns) := by
  have isUser : turn.role = .user := adm.alternates.1
  obtain ⟨start, hs, head, glued⟩ := opening_of_plain tok plain adm isUser
    (m := turn.toMessage) (by rw [Turn.toMessage, isUser])
  refine ⟨start, hs, ?_⟩
  have known : (t.promptOf? (messagesOf system (turn :: turns))).isSome ∨
      t.forceSystem = false := by
    rw [promptOf?_messagesOf adm.given isUser]
    split
    · rename_i empty
      exact .inr (unforced_of_empty adm empty)
    · exact .inl rfl
  have place : firstIndex (messagesOf system (turn :: turns)) = system.toList.length :=
    firstIndex_messagesOf isUser
  have first : t.messageText tok (messagesOf system (turn :: turns)) system.toList.length
      turn.toMessage = fillText tok t.user.skeleton (start.glued ++ turn.content).toList := by
    rw [← place, messageText, glued, Turn.toMessage, isUser, if_pos rfl, String.toList_append]
  have later := flatMap_messageText (t := t) tok (messagesOf system (turn :: turns))
    (k := system.toList.length + 1) (by rw [place]; exact Nat.lt_succ_self _) adm.alternates.2
  have nonempty : messagesOf system (turn :: turns) ≠ [] := by simp [messagesOf]
  rw [render?_compile h nonempty known, head]
  rw [flatMap_messagesOf (t.messageText tok (messagesOf system (turn :: turns))), first, later]
  have silent : ∀ s i, t.messageText tok (messagesOf system (turn :: turns)) i
      ⟨Role.system.name.toList, s⟩ = [] := fun s i => rfl
  cases system <;> simp [silent]

/-- A compiled template agrees with an encoder where the separators it fills with responses are
those that it does not fill. -/
theorem agrees_iff {tok : τ} {text : String} (h : t.compile tok = .ok text)
    (plain : t.SaysPlainly) (adm : t.Admits system (turn :: turns)) :
    t.Agrees tok text system (turn :: turns) ↔
      t.turnsText tok (fillText tok t.separator.skeleton) turns =
        t.turnsText tok (fun _ => slotsText tok t.separator.skeleton) turns := by
  obtain ⟨start, hs, rendered⟩ := render?_of_plain h plain adm
  obtain ⟨slots, hd, said⟩ := dialogueSlots_of_plain tok plain adm hs
  constructor
  · rintro ⟨slots', hd', -, agree⟩
    obtain rfl := Except.ok.inj (hd.symm.trans hd')
    rw [rendered, said, Option.some.injEq] at agree
    exact List.append_cancel_left agree
  · intro same
    refine ⟨slots, hd, encodeTurns_flatten tok hd, ?_⟩
    rw [rendered, said, same]

end

/-! ## Separators that mention the content -/

section

variable {t : Template} {system : Option String} {turns : List Turn}

theorem length_flatMap_lt {α β : Type} {f g : α → List β} {l : List α}
    (h : ∀ a ∈ l, (f a).length ≤ (g a).length) (hlt : ∃ a ∈ l, (f a).length < (g a).length) :
    (l.flatMap f).length < (l.flatMap g).length := by
  rw [List.length_flatMap, List.length_flatMap]
  exact List.sum_lt_sum _ _ h hlt

/-- A slot that says a content once says more with a longer content. -/
theorem length_fill_slot (tok : τ) {f : Formatter} (h : f.SaysOnce) {v w : List Char}
    (hv : v.length < w.length) {slot : Slot} (hs : slot ∈ f.skeleton) :
    ((slot.mapText (Text.replaceAll Placeholder.content v)).plainText tok).length ≤
        ((slot.mapText (Text.replaceAll Placeholder.content w)).plainText tok).length ∧
      (slot.mentions Placeholder.content = true →
        ((slot.mapText (Text.replaceAll Placeholder.content v)).plainText tok).length <
          ((slot.mapText (Text.replaceAll Placeholder.content w)).plainText tok).length) := by
  cases slot with
  | text s =>
    have shorter := Text.length_replaceFirst (p := Placeholder.content) (s := s.toList) hv
    have once := h.length_splitOn_le hs
    rw [Text.replaceFirst_eq_replaceAll (by decide) once,
      Text.replaceFirst_eq_replaceAll (by decide) once] at shorter
    simpa [Slot.mapText, Slot.plainText, Slot.mentions] using shorter
  | token name => exact ⟨Nat.le_refl _, Bool.noConfusion⟩
  | bos => exact ⟨Nat.le_refl _, Bool.noConfusion⟩
  | eos => exact ⟨Nat.le_refl _, Bool.noConfusion⟩

/-- Slots say more with a longer content where one of them mentions it. -/
theorem length_fillText_lt_fillText (tok : τ) {f : Formatter} (h : f.SaysOnce)
    (mention : ∃ slot ∈ f.skeleton, slot.mentions Placeholder.content = true) {v w : List Char}
    (hv : v.length < w.length) :
    (fillText tok f.skeleton v).length < (fillText tok f.skeleton w).length := by
  rw [fillText_eq_flatMap, fillText_eq_flatMap]
  obtain ⟨slot, hs, mentions⟩ := mention
  exact length_flatMap_lt (fun slot hs => (length_fill_slot tok h hv hs).1)
    ⟨slot, hs, (length_fill_slot tok h hv hs).2 mentions⟩

/-- Slots are their own text with the placeholder for a content. -/
theorem fillText_content (tok : τ) {f : Formatter} (h : f.SaysOnce) :
    fillText tok f.skeleton Placeholder.content = slotsText tok f.skeleton := by
  rw [fillText_eq_flatMap, slotsText]
  refine List.flatMap_congr fun slot hs => ?_
  rw [← plainText_mapText tok (f := id), mapText_id]
  rintro s rfl
  rw [← Text.replaceFirst_eq_replaceAll (by decide) (h.length_splitOn_le hs),
    Text.replaceFirst_self]
  rfl

/-- Slots with a short content put in are shorter than the slots where one of them mentions it. -/
theorem length_fillText_lt (tok : τ) {f : Formatter} (h : f.SaysOnce)
    (mention : ∃ slot ∈ f.skeleton, slot.mentions Placeholder.content = true) {v : List Char}
    (hv : v.length < Placeholder.content.length) :
    (fillText tok f.skeleton v).length < (slotsText tok f.skeleton).length := by
  rw [← fillText_content tok h]
  exact length_fillText_lt_fillText tok h mention hv

/-- Turns with a response get shorter with the text behind each response. -/
theorem length_turnsText_lt (tok : τ) {f g : List Char → List Char}
    (h : ∀ turn ∈ turns, turn.role = .assistant →
      (f turn.content.toList).length < (g turn.content.toList).length)
    (response : ∃ turn ∈ turns, turn.role = .assistant) :
    (t.turnsText tok f turns).length < (t.turnsText tok g turns).length := by
  refine length_flatMap_lt (fun turn ht => ?_) ?_
  · by_cases role : turn.role = .assistant
    · have := h turn ht role
      simp only [role, if_true, List.length_append]
      omega
    · simp [role]
  · obtain ⟨turn, ht, role⟩ := response
    refine ⟨turn, ht, ?_⟩
    simpa [role] using h turn ht role

end

/-- A template that names its users and puts its system prompt into the first turn. -/
def named : Template :=
  Spec.build {
    name := "named"
    user := some (.content [.text "U: \x7b\x7bcontent\x7d\x7d\n"])
    separator := some (.fixed [.text "\n"])
    defaultSystem := "S"
    injection := some .prependToFirstUser }

/-- The same with a separator that mentions the content. -/
def echoing : Template :=
  { named with separator := .content [.text "\x7b\x7bcontent\x7d\x7d\n"] }

/-- A dialogue of one round that asks for another reply. -/
def followUp : List Turn := [⟨.user, "a"⟩, ⟨.assistant, "b"⟩, ⟨.user, "c"⟩]

theorem saysPlainly_named : named.SaysPlainly where
  user := by decide
  assistant := by decide
  system := by decide
  separator := by decide
  single := fun _ => ⟨_, rfl⟩

theorem admits_followUp : named.Admits none followUp where
  ne_nil := by decide
  alternates := ⟨rfl, rfl, rfl, trivial⟩
  given := by decide
  missing := by decide
  first := by
    have opens : named.opening (named.systemText none) none = .ok ⟨[], "S"⟩ := by decide
    intro start hs
    obtain rfl := Except.ok.inj (opens.symm.trans hs)
    decide
  later := by decide

/-- A compiled template agrees with the encoder exactly where its separators, which it fills with
the responses ahead of them, say the same as those that are not filled. So they agree on every
dialogue if the separator does not mention the content. If it does, they disagree on every dialogue
with responses shorter than the placeholder. -/
theorem separator_decides_agreement {t : Template} {tok : τ} {text : String} (plain : t.SaysPlainly)
    (h : t.compile tok = .ok text) :
    (∀ system turn turns, t.Admits system (turn :: turns) →
      (t.Agrees tok text system (turn :: turns) ↔
        t.turnsText tok (fillText tok t.separator.skeleton) turns =
          t.turnsText tok (fun _ => slotsText tok t.separator.skeleton) turns)) ∧
    ((∀ slot ∈ t.separator.skeleton, slot.mentions Placeholder.content = false) →
      ∀ system turns, t.Admits system turns → t.Agrees tok text system turns) ∧
    ((∃ slot ∈ t.separator.skeleton, slot.mentions Placeholder.content = true) →
      ∀ system turns, t.Admits system turns → 2 ≤ turns.length →
        (∀ turn ∈ turns, turn.role = .assistant →
          turn.content.toList.length < Placeholder.content.length) →
        ¬ t.Agrees tok text system turns) := by
  refine ⟨fun system turn turns => agrees_iff h plain, fun silent system turns adm => ?_,
    fun mention system turns adm long short agree => ?_⟩
  · obtain ⟨turn, rest, rfl⟩ := List.exists_cons_of_ne_nil adm.ne_nil
    have same : fillText tok t.separator.skeleton = fun _ => slotsText tok t.separator.skeleton :=
      funext (fillText_of_not_mentions tok silent)
    rw [agrees_iff h plain adm, same]
  · obtain ⟨turn, rest, rfl⟩ := List.exists_cons_of_ne_nil adm.ne_nil
    obtain ⟨reply, rest, rfl⟩ := List.exists_cons_of_ne_nil
      (List.ne_nil_of_length_pos (Nat.le_of_succ_le_succ long))
    have isResponse : reply.role = .assistant := adm.alternates.2.1
    have shorter := length_turnsText_lt (t := t) tok
      (f := fillText tok t.separator.skeleton) (g := fun _ => slotsText tok t.separator.skeleton)
      (fun turn ht role => length_fillText_lt tok plain.separator mention
        (short turn (List.mem_cons_of_mem _ ht) role))
      ⟨reply, List.mem_cons_self .., isResponse⟩
    rw [(agrees_iff h plain adm).1 agree] at shorter
    exact Nat.lt_irrefl _ shorter

/-- A line feed separates rounds without harm; a separator that mentions the content does not. -/
theorem separator_decides_agreement_followUp :
    ∃ text text',
      named.compile CharLevel.empty = .ok text ∧ echoing.compile CharLevel.empty = .ok text' ∧
      named.Agrees CharLevel.empty text none followUp ∧
      ¬ echoing.Agrees CharLevel.empty text' none followUp := by
  obtain ⟨text, h⟩ : ∃ text, named.compile CharLevel.empty = .ok text := ⟨_, rfl⟩
  obtain ⟨text', h'⟩ : ∃ text, echoing.compile CharLevel.empty = .ok text := ⟨_, rfl⟩
  refine ⟨text, text', h, h', ?_, ?_⟩
  · exact (separator_decides_agreement saysPlainly_named h).2.1 (by decide) none followUp
      admits_followUp
  · exact (separator_decides_agreement (saysPlainly_named.withSeparator (by decide)) h').2.2
      (by decide) none followUp (admits_followUp.withSeparator _) (by decide) (by decide)

/-- Where the separator mentions the content, the response `b` is said once more behind itself. -/
theorem not_agrees_echoing :
    ∃ text, echoing.SaysPlainly ∧ echoing.compile CharLevel.empty = .ok text ∧
      echoing.Admits none followUp ∧ ¬ echoing.Agrees CharLevel.empty text none followUp := by
  obtain ⟨text, h⟩ : ∃ text, echoing.compile CharLevel.empty = .ok text := ⟨_, rfl⟩
  have plain : echoing.SaysPlainly := saysPlainly_named.withSeparator (by decide)
  have adm : echoing.Admits none followUp := admits_followUp.withSeparator _
  refine ⟨text, plain, h, adm, ?_⟩
  rw [followUp, agrees_iff h plain adm]
  decide

end Template

end Colloquy
