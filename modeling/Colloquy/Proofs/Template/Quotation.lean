import Colloquy.Tokenizer.CharLevel
import Colloquy.Proofs.Jinja.Outline
import Colloquy.Proofs.Template.Rendering

/-!
# Texts in a compiled template

A compiled template quotes the texts of a template and of the special tokens. None of them gets out
of its string, whatever its characters are: the statements of the compiled template depend on no
text (`outline`), and its strings are the quoted texts, in order (`quotedTexts`). Both is
`contained_of_compile`.
-/

namespace Colloquy.Template

open Jinja (Expr Stmt Statement)

variable {τ : Type} [Tokenizer τ]

/-! ## Strings of slots -/

/-- The text of a special token, if it has an id. -/
def namedText? (id : Option TokenId) (name : Option String) : Option (List Char) :=
  if id.isSome then name.map String.toList else none

/-- The texts of a slot that are quoted: the pieces around its places for a content, and special
tokens that have an id. -/
def slotStrings (tok : τ) : Slot → List (List Char)
  | .text s => (Text.splitOn Placeholder.content s.toList).filter (· ≠ [])
  | .token _ => []
  | .bos => (namedText? (Tokenizer.bosId tok) (Tokenizer.bos tok)).toList
  | .eos => (namedText? (Tokenizer.eosId tok) (Tokenizer.eos tok)).toList

/-- Whether a slot stands for no expression. -/
def saysNothing (tok : τ) : Slot → Bool
  | .text s => s.isEmpty
  | .token _ => false
  | .bos => (namedText? (Tokenizer.bosId tok) (Tokenizer.bos tok)).isNone
  | .eos => (namedText? (Tokenizer.eosId tok) (Tokenizer.eos tok)).isNone

/-- The texts of slots that are quoted, or an empty one where they stand for no expression. -/
def slotsStrings (tok : τ) (slots : List Slot) : List (List Char) :=
  if slots.all (saysNothing tok) then [[]] else slots.flatMap (slotStrings tok)

theorem strings_textItem (s : List Char) :
    (textItem s).flatMap Expr.strings = [s].filter (· ≠ []) := by
  unfold textItem
  cases s <;> simp [Expr.strings]

theorem strings_fillIn (name : String) (pieces : List (List Char)) :
    (fillIn (.var name) pieces).flatMap Expr.strings = pieces.filter (· ≠ []) := by
  cases pieces with
  | nil => rfl
  | cons piece rest =>
    have later : (rest.flatMap fun p => .var name :: textItem p).flatMap Expr.strings =
        rest.filter (· ≠ []) := by
      induction rest with
      | nil => rfl
      | cons p rest ih =>
        have var : (Expr.var name).strings = [] := rfl
        rw [List.flatMap_cons, List.flatMap_append, ih, List.flatMap_cons, strings_textItem, var,
          List.nil_append]
        exact (List.filter_append [p] rest).symm
    rw [fillIn, List.flatMap_append, strings_textItem, later]
    exact (List.filter_append [piece] rest).symm

theorem strings_specialItem (id : Option TokenId) (name : Option String) :
    (specialItem id name).flatMap Expr.strings = (namedText? id name).toList := by
  unfold specialItem namedText?
  cases id <;> cases name <;> rfl

theorem specialItem_eq_nil_iff (id : Option TokenId) (name : Option String) :
    specialItem id name = [] ↔ (namedText? id name).isNone := by
  unfold specialItem namedText?
  cases id <;> cases name <;> simp

theorem textItem_eq_nil_iff (s : List Char) : textItem s = [] ↔ s = [] := by
  unfold textItem
  cases s <;> simp

/-- Only the empty text makes no expression. -/
theorem fillIn_splitOn_eq_nil_iff (var : Expr) (s : List Char) :
    fillIn var (Text.splitOn Placeholder.content s) = [] ↔ s = [] := by
  constructor
  · intro none
    rw [← Text.replaceAll_self (p := Placeholder.content) (by decide) s, Text.replaceAll]
    cases pieces : Text.splitOn Placeholder.content s with
    | nil => rfl
    | cons piece rest =>
      rw [pieces, fillIn, List.append_eq_nil_iff, textItem_eq_nil_iff, List.flatMap_eq_nil_iff]
        at none
      cases rest with
      | nil => rw [none.1, List.intercalate_singleton]
      | cons p rest => exact absurd (none.2 p (List.mem_cons_self ..)) (List.cons_ne_nil _ _)
  · rintro rfl
    rfl

/-- The expressions of a slot hold its texts, and there are none where it says nothing. -/
theorem strings_slotItems {tok : τ} {name : String} {slot : Slot} {items : List Expr}
    (h : slotItems tok (.var name) slot = .ok items) :
    items.flatMap Expr.strings = slotStrings tok slot ∧ (items = [] ↔ saysNothing tok slot) := by
  cases slot with
  | text s =>
    rw [slotItems] at h
    split at h
    · cases h
    · obtain rfl := Except.ok.inj h
      exact ⟨strings_fillIn name _, by simp [fillIn_splitOn_eq_nil_iff, saysNothing]⟩
  | token name => cases h
  | bos =>
    obtain rfl := Except.ok.inj h
    exact ⟨strings_specialItem _ _, specialItem_eq_nil_iff _ _⟩
  | eos =>
    obtain rfl := Except.ok.inj h
    exact ⟨strings_specialItem _ _, specialItem_eq_nil_iff _ _⟩

theorem strings_slotsExpr {tok : τ} {role : Role} {name : String} {slots : List Slot} {e : Expr}
    (h : slotsExpr tok role (.var name) slots = .ok e) :
    e.strings = slotsStrings tok slots := by
  obtain ⟨items, hi, rfl⟩ := slotsExpr_eq_ok_iff.1 h
  have parts : items.flatten.flatMap Expr.strings = slots.flatMap (slotStrings tok) ∧
      (items.flatten = [] ↔ slots.all (saysNothing tok)) := by
    clear h
    induction hi with
    | nil => exact ⟨rfl, by simp⟩
    | cons first _ ih =>
      obtain ⟨strings, none⟩ := strings_slotItems first
      rw [List.flatten_cons, List.flatMap_append, strings, ih.1, List.append_eq_nil_iff, none,
        ih.2, List.flatMap_cons, List.all_cons, Bool.and_eq_true]
      exact ⟨rfl, Iff.rfl⟩
  rw [Jinja.strings_joinAll, slotsStrings, parts.1]
  simp only [parts.2]

/-! ## The program -/

/-- The statements ahead of all messages that say the system prompt. -/
def systemOutline (force : Bool) : SystemInjection → List Statement
  | .leading => if force then [.output] else [.cond, .output, .endCond]
  | .prependToFirstUser => []

/-- The statements that put the system prompt in front of a content. -/
def glueOutline : SystemInjection → List Statement
  | .leading => []
  | .prependToFirstUser => [.cond, .set, .endCond]

/-- The statements of a compiled template. -/
def outline (hasDefault : Bool) (injection : SystemInjection) (force : Bool) : List Statement :=
  [if hasDefault then [.set] else [], [.cond, .set, .endCond], systemOutline force injection,
    [.each, .set], glueOutline injection,
    [.cond, .output, .other, .output, .endCond, .endEach]].flatten

/-- The texts in what says the system prompt ahead of all messages. -/
def systemTexts (system : List (List Char)) : SystemInjection → List (List Char)
  | .leading => system
  | .prependToFirstUser => []

/-- The texts in what puts the system prompt in front of a content. -/
def glueTexts (system : List (List Char)) : SystemInjection → List (List Char)
  | .leading => []
  | .prependToFirstUser =>
    ["role".toList, "user".toList, "role".toList, "system".toList] ++ system ++
      ["content".toList]

/-- The texts in the strings of a compiled template, in order. -/
def quotedTexts (t : Template) (tok : τ) : List (List Char) :=
  [if t.defaultSystem.isEmpty then [] else [t.defaultSystem.toList],
    ["role".toList, "system".toList, "content".toList],
    systemTexts (slotsStrings tok t.system.skeleton) t.injection,
    ["content".toList], glueTexts (slotsStrings tok t.system.skeleton) t.injection,
    ["role".toList, "user".toList], slotsStrings tok t.user.skeleton,
    ["role".toList, "assistant".toList],
    slotsStrings tok (t.assistant.skeleton ++ t.separator.skeleton)].flatten

theorem statements_program {t : Template} {tok : τ} {p : List Stmt} (h : t.program tok = .ok p) :
    (Jinja.tagsOfAll p).map Jinja.Tag.statement =
      outline (!t.defaultSystem.isEmpty) t.injection t.forceSystem := by
  obtain ⟨system, user, assistant, -, -, -, rfl⟩ := program_eq_ok_iff.1 h
  unfold defaultPart systemPart messageLoop gluePart outline
  cases t.injection <;> cases t.forceSystem <;> cases t.defaultSystem.isEmpty <;> rfl

theorem strings_defaultPart (t : Template) : Jinja.stringsOfAll t.defaultPart =
    if t.defaultSystem.isEmpty then [] else [t.defaultSystem.toList] := by
  unfold defaultPart
  split <;> rfl

theorem strings_systemPart (t : Template) (system : Expr) :
    Jinja.stringsOfAll (t.systemPart system) = systemTexts system.strings t.injection := by
  have output : Jinja.stringsOfAll [.output system] = system.strings := List.append_nil _
  unfold systemPart
  cases t.injection with
  | leading =>
    cases t.forceSystem with
    | true => exact output
    | false =>
      have defined : (Expr.isDefined systemVar).strings = [] := rfl
      simp only [Bool.false_eq_true, if_false, Jinja.stringsOfAll_cons, Jinja.strings_cond, output,
        defined, List.nil_append]
      exact List.append_nil _
  | prependToFirstUser => rfl

theorem strings_gluePart (t : Template) (system : Expr) :
    Jinja.stringsOfAll (t.gluePart system) = glueTexts system.strings t.injection := by
  unfold gluePart
  cases t.injection with
  | leading => rfl
  | prependToFirstUser =>
    rw [Jinja.stringsOfAll_cons, Jinja.strings_cond]
    simp [Jinja.stringsOfAll, Jinja.tagsOfAll, Stmt.tags, Jinja.Tag.strings, Expr.strings,
      glueTexts, hasRole, roleOf, contentOf, firstMessage, thisMessage, systemVar, Role.name]

theorem strings_messageLoop (t : Template) (system user assistant : Expr) :
    Jinja.stringsOfAll [t.messageLoop system user assistant] =
      [["content".toList], glueTexts system.strings t.injection, ["role".toList, "user".toList],
        user.strings, ["role".toList, "assistant".toList], assistant.strings].flatten := by
  rw [messageLoop, Jinja.stringsOfAll_cons, Jinja.strings_each, Jinja.stringsOfAll_append,
    Jinja.stringsOfAll_cons, strings_gluePart]
  simp [Jinja.stringsOfAll, Jinja.tagsOfAll, Jinja.tagsOfOthers, Stmt.tags, Jinja.Tag.strings,
    Expr.strings, hasRole, roleOf, contentOf, thisMessage, Role.name]

theorem strings_program {t : Template} {tok : τ} {p : List Stmt} (h : t.program tok = .ok p) :
    Jinja.stringsOfAll p = t.quotedTexts tok := by
  obtain ⟨system, user, assistant, hs, hu, ha, rfl⟩ := program_eq_ok_iff.1 h
  have message : messagePart.tags.flatMap Jinja.Tag.strings =
      ["role".toList, "system".toList, "content".toList] := rfl
  rw [Jinja.stringsOfAll_append, Jinja.stringsOfAll_append, Jinja.stringsOfAll_cons,
    strings_defaultPart, message, strings_systemPart, strings_messageLoop, quotedTexts,
    strings_slotsExpr hs, strings_slotsExpr hu, strings_slotsExpr ha]
  simp

/-- The statements of a compiled template are those of the outline and its strings have the quoted
texts, whatever the texts of the template and of the special tokens are. -/
theorem contained_of_compile {t : Template} {tok : τ} {text : String}
    (h : t.compile tok = .ok text) :
    Jinja.outline? text.toList =
        some (outline (!t.defaultSystem.isEmpty) t.injection t.forceSystem) ∧
      Jinja.strings? text.toList = some (t.quotedTexts tok) := by
  obtain ⟨p, hp, rfl⟩ := compile_eq_ok_iff.1 h
  have words := (readable_program hp).hasWords
  rw [Jinja.write, String.toList_ofList, Jinja.outline?_writeAll words,
    Jinja.strings?_writeAll words, statements_program hp, strings_program hp]
  exact ⟨rfl, rfl⟩

/-- A template whose texts look like ends of strings and of tags. -/
def misleading : Template :=
  Spec.build {
    name := "misleading"
    user := some (.fixed [.bos])
    system := some (.content [.text "'\x7b\x7bcontent\x7d\x7d %\x7d", .eos])
    separator := some (.fixed [.text "\\' + \x7d\x7d"])
    defaultSystem := "it's \x7b% endif %\x7d\n\\"
    injection := some .prependToFirstUser }

/-- The text of an expression that says nothing is the empty one, here that of the user. -/
theorem contained_of_compile_misleading :
    ∃ text, misleading.compile (CharLevel.empty.withEos "</s>") = .ok text ∧
      Jinja.outline? text.toList = some [.set, .cond, .set, .endCond, .each, .set, .cond, .set,
        .endCond, .cond, .output, .other, .output, .endCond, .endEach] ∧
      Jinja.strings? text.toList = some (["it's \x7b% endif %\x7d\n\\", "role", "system", "content",
        "content", "role", "user", "role", "system", "'", " %\x7d", "</s>", "content",
        "role", "user", "", "role", "assistant", "</s>", "\\' + \x7d\x7d"].map String.toList) := by
  obtain ⟨text, h⟩ : ∃ text, misleading.compile (CharLevel.empty.withEos "</s>") = .ok text :=
    ⟨_, rfl⟩
  obtain ⟨outlined, quoted⟩ := contained_of_compile h
  refine ⟨text, h, outlined.trans (by decide), quoted.trans ?_⟩
  decide

end Colloquy.Template
