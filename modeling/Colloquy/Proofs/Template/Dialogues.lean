import Colloquy.Template.Encoding
import Colloquy.Proofs.Encoding
import Colloquy.Proofs.Formatters
import Colloquy.Proofs.Placeholders
import Colloquy.Proofs.Template.Rendering

/-!
# Dialogues as slots

The slots of all turns of a dialogue (`dialogueSlots`), whose ids are those of the encoded turns
(`encodeTurns_flatten`). A formatter that says a content once fills it in where a compiled template
does (`SaysOnce.slotsText_apply`). So the turns behind the first one say their contents in the
slots of their roles, with the separator behind each response (`dialogueSlots_later`).
-/

namespace Colloquy

namespace Formatter

/-- A formatter that says a text the same every time, or a content at most once in each text. -/
def SaysOnce : Formatter → Prop
  | fixed slots => ∀ slot ∈ slots, slot.hasPlaceholder = false
  | content slots =>
    ∀ slot ∈ slots, ∀ s ∈ slot.text?, (Text.splitOn Placeholder.content s.toList).length ≤ 2
  | _ => False

instance : (f : Formatter) → Decidable f.SaysOnce
  | fixed slots => inferInstanceAs (Decidable (∀ slot ∈ slots, slot.hasPlaceholder = false))
  | content slots => inferInstanceAs (Decidable (∀ slot ∈ slots, ∀ s ∈ slot.text?, _ ≤ 2))
  | call _ => inferInstanceAs (Decidable False)
  | manifest _ => inferInstanceAs (Decidable False)

end Formatter

/-! ## Placeholders -/

theorem Placeholder.not_occursIn_content {s : List Char} (h : Placeholder.names s = []) :
    Text.occursIn Placeholder.content s = false := by
  rw [Text.occursIn_eq_false_iff, Text.cut?_eq_none_iff]
  rintro ahead rest rfl
  have named : Placeholder.IsIdentifier "content".toList :=
    ⟨'c', "ontent".toList, rfl, by decide, List.all_eq_true.1 (by decide)⟩
  have stands : Placeholder.Stands (ahead ++ Placeholder.content ++ rest) ahead "content".toList :=
    ⟨named, List.prefix_append _ rest⟩
  exact List.ne_nil_of_mem (Placeholder.mem_names_iff.2 ⟨ahead, stands⟩) h

theorem Slot.mentions_content_of_not_hasPlaceholder {slot : Slot}
    (h : slot.hasPlaceholder = false) : slot.mentions Placeholder.content = false := by
  cases slot with
  | text s =>
    refine Placeholder.not_occursIn_content ?_
    simpa [Slot.hasPlaceholder, Placeholder.occurs] using h
  | token name => rfl
  | bos => rfl
  | eos => rfl

/-! ## Formatters and their texts -/

variable {τ : Type} [Tokenizer τ]

theorem plainText_mapText (tok : τ) {f g : List Char → List Char} {slot : Slot}
    (h : ∀ s, slot = .text s → f s.toList = g s.toList) :
    (slot.mapText f).plainText tok = (slot.mapText g).plainText tok := by
  cases slot with
  | text s => rw [Slot.mapText, Slot.mapText, h s rfl]
  | token name => rfl
  | bos => rfl
  | eos => rfl

/-- Slots that do not mention the content say what they hold. -/
theorem fillText_of_not_mentions (tok : τ) {slots : List Slot}
    (h : ∀ slot ∈ slots, slot.mentions Placeholder.content = false) (v : List Char) :
    fillText tok slots v = slotsText tok slots := by
  rw [fillText_eq_flatMap, slotsText]
  refine List.flatMap_congr fun slot hs => ?_
  rw [← plainText_mapText tok (f := id), mapText_id]
  rintro s rfl
  exact (Text.replaceAll_of_not_occursIn (by decide) (h _ hs) v).symm

namespace Formatter

theorem slotsText_apply_content (tok : τ) (slots : List Slot) (args : Args) :
    slotsText tok ((content slots).apply args) =
      slots.flatMap fun slot => (slot.mapText (fillContent args)).plainText tok := by
  rw [slotsText, apply, List.flatMap_map]

/-- A formatter that says a content once says it where the slots have its place. -/
theorem SaysOnce.slotsText_apply {f : Formatter} (h : f.SaysOnce) (tok : τ) (args : Args)
    {v : String} (hv : args.content = some v)
    (hidx : ∀ s, Slot.text s ∈ f.skeleton → args.idx = none ∨
      Text.occursIn Placeholder.idx (Text.replaceFirst Placeholder.content v.toList s.toList) =
        false) :
    slotsText tok (f.apply args) = fillText tok f.skeleton v.toList := by
  cases f with
  | fixed slots =>
    rw [skeleton_fixed, fillText_of_not_mentions tok fun slot hs =>
      Slot.mentions_content_of_not_hasPlaceholder (h slot hs)]
    rfl
  | content slots =>
    rw [skeleton_content] at hidx ⊢
    rw [slotsText_apply_content, fillText_eq_flatMap]
    refine List.flatMap_congr fun slot hs => plainText_mapText tok ?_
    rintro s rfl
    rw [← Text.replaceFirst_eq_replaceAll (by decide) (h _ hs s rfl), fillContent, hv, fillFirst]
    rcases hidx s hs with none | absent
    · rw [none, fillFirst]
    · cases args.idx with
      | none => rfl
      | some i => exact Text.replaceFirst_of_not_occursIn absent _
  | call slots => exact h.elim
  | manifest format => exact h.elim

theorem SaysOnce.length_splitOn_le {f : Formatter} (h : f.SaysOnce) {s : String}
    (hs : Slot.text s ∈ f.skeleton) :
    (Text.splitOn Placeholder.content s.toList).length ≤ 2 := by
  cases f with
  | fixed slots =>
    have absent := Slot.mentions_content_of_not_hasPlaceholder (h _ hs)
    rw [Text.splitOn_of_cut?_none (by decide) (Text.cut?_of_not_occursIn absent)]
    exact Nat.le_succ 1
  | content slots =>
    rw [skeleton_content] at hs
    exact h _ hs s rfl
  | call slots => exact h.elim
  | manifest format => exact h.elim

/-- A single text stays one. -/
theorem SaysOnce.exists_apply_eq_text {f : Formatter} (h : f.SaysOnce)
    {s : String} (single : f.skeleton = [.text s]) (args : Args) :
    ∃ s', f.apply args = [.text s'] := by
  cases f with
  | fixed slots => exact ⟨s, single⟩
  | content slots =>
    rw [skeleton_content] at single
    exact ⟨_, by rw [single]; rfl⟩
  | call slots => exact h.elim
  | manifest format => exact h.elim

end Formatter

/-! ## Slots of a dialogue -/

/-- The role of turn `i` where users and assistants take turns. -/
def Role.ofTurn (i : Nat) : Role := if i % 2 = 0 then .user else .assistant

/-- Users and assistants take turns from turn `i` on. -/
def Alternates (i : Nat) : List Turn → Prop
  | [] => True
  | turn :: rest => turn.role = Role.ofTurn i ∧ Alternates (i + 1) rest

namespace Template

/-- The slots of all turns, the first of which is turn `i`. -/
def dialogueSlots (t : Template) (system : String) (tools : Option String) (i : Nat) :
    List Turn → Except TemplateError (List Slot)
  | [] => .ok []
  | turn :: rest => do
    let slots ← t.turnSlots system tools i turn
    let more ← t.dialogueSlots system tools (i + 1) rest
    return slots ++ more

/-- What stands ahead of turn `i`, other than the first turn. -/
def separatorText (t : Template) (tok : τ) (i : Nat) : List Char :=
  if i % 2 = 0 then slotsText tok t.separator.skeleton else []

/-- What turn `turn` says. -/
def turnText (t : Template) (tok : τ) (turn : Turn) : List Char :=
  if turn.role = .assistant then fillText tok t.assistant.skeleton turn.content.toList
  else fillText tok t.user.skeleton turn.content.toList

/-- What turns say, with a text of its content behind each response. -/
def turnsText (t : Template) (tok : τ) (closing : List Char → List Char) (turns : List Turn) :
    List Char :=
  turns.flatMap fun turn =>
    t.turnText tok turn ++ if turn.role = .assistant then closing turn.content.toList else []

/-- No text of a user turn comes to hold the placeholder of the round number when a content is put
in. -/
def Unnumbered (t : Template) (v : String) : Prop :=
  ∀ slot ∈ t.user.skeleton, ∀ s ∈ slot.text?,
    Text.occursIn Placeholder.idx (Text.replaceFirst Placeholder.content v.toList s.toList) = false

instance (t : Template) (v : String) : Decidable (t.Unnumbered v) :=
  inferInstanceAs (Decidable (∀ slot ∈ t.user.skeleton, ∀ s ∈ slot.text?, _ = _))

theorem dialogueSlots_cons_eq_ok_iff {t : Template} {system : String} {tools : Option String}
    {i : Nat} {turn : Turn} {turns : List Turn} {slots : List Slot} :
    t.dialogueSlots system tools i (turn :: turns) = .ok slots ↔
      ∃ first rest, t.turnSlots system tools i turn = .ok first ∧
        t.dialogueSlots system tools (i + 1) turns = .ok rest ∧ slots = first ++ rest := by
  simp only [dialogueSlots, bind_eq_ok_iff, pure_eq_ok, Except.ok.injEq]
  constructor
  · rintro ⟨first, hf, rest, hr, rfl⟩
    exact ⟨first, rest, hf, hr, rfl⟩
  · rintro ⟨first, rest, hf, hr, rfl⟩
    exact ⟨first, hf, rest, hr, rfl⟩

/-- The slots of a dialogue are those whose ids its encoded turns hold. -/
theorem encodeTurns_flatten {t : Template} (tok : τ) {system : String} {tools : Option String}
    {i : Nat} {turns : List Turn} {slots : List Slot}
    (h : t.dialogueSlots system tools i turns = .ok slots) :
    (t.encodeTurns tok system tools i turns).map List.flatten =
      (Slot.encodeAll tok slots).mapError .tokenizer := by
  induction turns generalizing i slots with
  | nil =>
    obtain rfl := Except.ok.inj h
    rfl
  | cons turn turns ih =>
    obtain ⟨first, rest, hf, hr, rfl⟩ := dialogueSlots_cons_eq_ok_iff.1 h
    have more := ih hr
    rw [encodeTurns, encodeTurn, hf, Slot.encodeAll_append]
    cases hi : Slot.encodeAll tok first with
    | error e => simp [Except.mapError, Except.map, bind, Except.bind, hi]
    | ok ids =>
      cases hm : t.encodeTurns tok system tools (i + 1) turns with
      | error e =>
        cases ha : Slot.encodeAll tok rest with
        | error e' => simp_all [Except.mapError, Except.map, bind, Except.bind]
        | ok all => simp [hm, ha, Except.mapError, Except.map] at more
      | ok idss =>
        cases ha : Slot.encodeAll tok rest with
        | error e => simp [hm, ha, Except.mapError, Except.map] at more
        | ok all =>
          simp_all [Except.mapError, Except.map, bind, Except.bind, pure, Except.pure]

theorem turnSlots_of_ok {t : Template} {system : String} {tools : Option String} {i : Nat}
    {turn : Turn} {start : Opening} {said : List Slot}
    (before : t.before system tools i = .ok start) (say : t.say i start.glued turn = .ok said) :
    t.turnSlots system tools i turn = .ok (start.ahead ++ said) :=
  bind_eq_ok_iff.2 ⟨start, before, bind_eq_ok_iff.2 ⟨said, say, rfl⟩⟩

theorem before_of_pos {t : Template} {system : String} {tools : Option String} {i : Nat}
    (h : 0 < i) : t.before system tools i =
      .ok ⟨if i % 2 = 0 then t.separator.skeleton else [], ""⟩ := by
  rw [before, if_neg (by omega)]
  split <;> rfl

/-- A turn behind the first one says what separates it from the turn before and its content. -/
theorem turnSlots_later {t : Template} (tok : τ) (user : t.user.SaysOnce)
    (assistant : t.assistant.SaysOnce) (system : String) (tools : Option String) {i : Nat}
    (hi : 0 < i) {turn : Turn} (role : turn.role = Role.ofTurn i)
    (free : turn.role = .user → t.Unnumbered turn.content) :
    ∃ slots, t.turnSlots system tools i turn = .ok slots ∧
      slotsText tok slots = t.separatorText tok i ++ t.turnText tok turn := by
  have start : t.before system tools i = _ := before_of_pos hi
  have ahead : slotsText tok (if i % 2 = 0 then t.separator.skeleton else []) =
      t.separatorText tok i := by
    rw [separatorText]
    split <;> rfl
  by_cases even : i % 2 = 0
  · have isUser : turn.role = .user := by rw [role, Role.ofTurn, if_pos even]
    have said := user.slotsText_apply tok ⟨some turn.content, some (toString (i / 2))⟩ rfl
      fun s hs => .inr (free isUser _ hs s rfl)
    refine ⟨_, turnSlots_of_ok start (by rw [say, isUser]), ?_⟩
    rw [slotsText_append, ahead, String.empty_append, said, turnText, if_neg (by simp [isUser])]
  · have isAssistant : turn.role = .assistant := by rw [role, Role.ofTurn, if_neg even]
    have said := assistant.slotsText_apply tok (.ofContent turn.content) rfl
      fun s _ => .inl rfl
    refine ⟨_, turnSlots_of_ok start (by rw [say, isAssistant]), ?_⟩
    rw [slotsText_append, ahead, said, turnText, if_pos isAssistant]

/-- Turns behind the first one say their contents with the separator behind each response. The
separator ahead of the first of them belongs to the response before; that behind the last of them
is no slot of theirs. -/
theorem dialogueSlots_later {t : Template} (tok : τ) (user : t.user.SaysOnce)
    (assistant : t.assistant.SaysOnce) (system : String) (tools : Option String) {i : Nat}
    (hi : 0 < i) {turns : List Turn} (alt : Alternates i turns)
    (free : ∀ turn ∈ turns, turn.role = .user → t.Unnumbered turn.content) :
    ∃ slots, t.dialogueSlots system tools i turns = .ok slots ∧
      slotsText tok slots ++ t.separatorText tok (i + turns.length) = t.separatorText tok i ++
        t.turnsText tok (fun _ => slotsText tok t.separator.skeleton) turns := by
  induction turns generalizing i with
  | nil => exact ⟨[], rfl, by simp [slotsText, turnsText]⟩
  | cons turn turns ih =>
    obtain ⟨first, hf, firstText⟩ := turnSlots_later tok user assistant system tools hi alt.1
      (free turn (List.mem_cons_self ..))
    obtain ⟨rest, hr, restText⟩ := ih (Nat.succ_pos i) alt.2
      fun turn h => free turn (List.mem_cons_of_mem _ h)
    refine ⟨first ++ rest, dialogueSlots_cons_eq_ok_iff.2 ⟨first, rest, hf, hr, rfl⟩, ?_⟩
    -- A separator stands ahead of the next turn just if this one is a response.
    have next : t.separatorText tok (i + 1) =
        if turn.role = .assistant then slotsText tok t.separator.skeleton else [] := by
      rw [separatorText, alt.1, Role.ofTurn]
      by_cases even : i % 2 = 0
      · rw [if_neg (by omega), if_pos even]
        rfl
      · rw [if_pos (by omega), if_neg even]
        rfl
    have count : i + (turn :: turns).length = i + 1 + turns.length := by
      rw [List.length_cons]
      omega
    rw [slotsText_append, List.append_assoc, count, restText, firstText, next, turnsText, turnsText,
      List.flatMap_cons]
    simp only [List.append_assoc]

end Template

end Colloquy
