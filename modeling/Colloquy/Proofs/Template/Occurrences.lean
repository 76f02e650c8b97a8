import Mathlib.Algebra.Order.BigOperators.Group.List
import Colloquy.Proofs.Template.Dialogues

/-!
# Contents said more than once

A formatter puts a content into the first place that each of its texts has for it; the expression
that its slots compile to says the content in all of them. What is written for the expression says
the slots with every place filled, so the two say the same content in the same way exactly if no
text has two places for it or the content is the placeholder itself (`outputs?_eq_apply_iff`).
-/

namespace Colloquy

/-! ## Texts part by part -/

/-- Parts none of which is longer than its counterpart make the same text only if they are the
same. -/
theorem flatMap_eq_iff_of_length_le {α β : Type} {f g : α → List β} {l : List α}
    (h : ∀ a ∈ l, (f a).length ≤ (g a).length) :
    l.flatMap f = l.flatMap g ↔ ∀ a ∈ l, f a = g a := by
  refine ⟨fun eq => ?_, List.flatMap_congr⟩
  induction l with
  | nil => simp
  | cons a l ih =>
    have later : ∀ b ∈ l, (f b).length ≤ (g b).length := fun b hb => h b (List.mem_cons_of_mem _ hb)
    have rest : (l.flatMap f).length ≤ (l.flatMap g).length := by
      rw [List.length_flatMap, List.length_flatMap]
      exact List.sum_le_sum later
    have first := h a (List.mem_cons_self ..)
    rw [List.flatMap_cons, List.flatMap_cons] at eq
    have lengths := congrArg List.length eq
    simp only [List.length_append] at lengths
    obtain ⟨same, eq⟩ := List.append_inj eq (by omega)
    intro b hb
    rcases List.mem_cons.1 hb with rfl | hb
    · exact same
    · exact ih later eq b hb

namespace Formatter

variable {τ : Type} [Tokenizer τ]

/-! ## First and all places -/

theorem length_plainText_mapText_le (tok : τ) {f g : List Char → List Char}
    (h : ∀ s, (f s).length ≤ (g s).length) (slot : Slot) :
    ((slot.mapText f).plainText tok).length ≤ ((slot.mapText g).plainText tok).length := by
  cases slot with
  | text s => simpa [Slot.mapText, Slot.plainText] using h s.toList
  | token name => exact Nat.le_refl _
  | bos => exact Nat.le_refl _
  | eos => exact Nat.le_refl _

theorem plainText_mapText_eq_iff (tok : τ) {f g : List Char → List Char} {slot : Slot} :
    (slot.mapText f).plainText tok = (slot.mapText g).plainText tok ↔
      ∀ s ∈ slot.text?, f s.toList = g s.toList := by
  cases slot <;> simp [Slot.mapText, Slot.plainText, Slot.text?]

/-- A content is said in the first places as in all places exactly if no text has two of them or it
is the placeholder. -/
theorem slotsText_apply_eq_fillText_iff (tok : τ) (slots : List Slot) (v : String) :
    slotsText tok ((content slots).apply (.ofContent v)) = fillText tok slots v.toList ↔
      (content slots).SaysOnce ∨ v.toList = Placeholder.content := by
  have parts : slotsText tok ((content slots).apply (.ofContent v)) =
      fillText tok slots v.toList ↔ ∀ slot ∈ slots, ∀ s ∈ slot.text?,
        Text.replaceFirst Placeholder.content v.toList s.toList =
          Text.replaceAll Placeholder.content v.toList s.toList := by
    have first : fillContent (.ofContent v) =
        Text.replaceFirst Placeholder.content v.toList := rfl
    rw [slotsText_apply_content, fillText_eq_flatMap, first]
    -- All parts differ in length in the same direction, if they do.
    rcases Nat.le_total v.toList.length Placeholder.content.length with le | le
    · rw [eq_comm, flatMap_eq_iff_of_length_le fun slot _ => length_plainText_mapText_le tok
        (Text.length_replaceAll_le_replaceFirst (by decide) le) slot]
      simp only [plainText_mapText_eq_iff, eq_comm]
    · rw [flatMap_eq_iff_of_length_le fun slot _ => length_plainText_mapText_le tok
        (Text.length_replaceFirst_le_replaceAll (by decide) le) slot]
      simp only [plainText_mapText_eq_iff]
  have ne : Placeholder.content ≠ [] := by decide
  rw [parts]
  by_cases same : v.toList = Placeholder.content
  · simp [same, Text.replaceFirst_self, Text.replaceAll_self ne]
  · simp [Text.replaceFirst_eq_replaceAll_iff ne, same, SaysOnce]

end Formatter

namespace Template

variable {τ : Type} [Tokenizer τ]

/-! ## Expressions as they are written -/

section

variable {tok : τ} {role : Role} {name v : String} {slots : List Slot} {e : Jinja.Expr}
  {env : Jinja.Env}

/-- What is written for the expression of slots says a content in all places. -/
theorem outputs?_slotsExpr (hname : Jinja.IsVariable name)
    (compiled : slotsExpr tok role (.var name) slots = .ok e) (bound : env name = .text v.toList) :
    Jinja.outputs? env e.write = some (fillText tok slots v.toList) := by
  have var : (Jinja.Expr.var name).eval? env = some (.text v.toList) := congrArg some bound
  rw [Jinja.outputs?_write (joinable_slotsExpr compiled hname).2, eval?_slotsExpr compiled var]
  rfl

/-- The expression of a formatter says a content as the formatter does exactly if no text has two
places for it or the content is the placeholder. It says the content in all places in any case. -/
theorem outputs?_eq_apply_iff (hname : Jinja.IsVariable name)
    (compiled : slotsExpr tok role (.var name) (Formatter.content slots).skeleton = .ok e)
    (bound : env name = .text v.toList) :
    Jinja.outputs? env e.write = some (fillText tok slots v.toList) ∧
      (Jinja.outputs? env e.write =
          some (slotsText tok ((Formatter.content slots).apply (.ofContent v))) ↔
        (Formatter.content slots).SaysOnce ∨ v.toList = Placeholder.content) := by
  rw [Formatter.skeleton_content] at compiled
  have said := outputs?_slotsExpr hname compiled bound
  refine ⟨said, ?_⟩
  rw [said, Option.some_inj, eq_comm]
  exact Formatter.slotsText_apply_eq_fillText_iff tok slots v

end

/-- Two texts with one place each, which have a quotation mark and a backslash beside them. -/
def marked : List Slot :=
  [.text "\x7b\x7bcontent\x7d\x7d'", .eos, .text "\\\x7b\x7bcontent\x7d\x7d"]

/-- The variables with a text as the content. -/
def contentIs (v : String) : Jinja.Env := Jinja.Env.set (Jinja.start []) "content" (.text v.toList)

/-- A text that looks like a placeholder is said as it stands. -/
theorem outputs?_eq_apply_iff_marked :
    ∃ e, slotsExpr CharLevel.empty .user contentVar (Formatter.content marked).skeleton = .ok e ∧
      e.write = "content + '\\'' + '\\\\' + content".toList ∧
      Jinja.outputs? (contentIs "\x7b\x7bidx\x7d\x7d") e.write =
        some (slotsText CharLevel.empty
          ((Formatter.content marked).apply (.ofContent "\x7b\x7bidx\x7d\x7d"))) := by
  obtain ⟨e, compiled, written⟩ : ∃ e, slotsExpr CharLevel.empty .user contentVar
      (Formatter.content marked).skeleton = .ok e ∧
        e.write = "content + '\\'' + '\\\\' + content".toList := ⟨_, rfl, by decide⟩
  exact ⟨e, compiled, written,
    (outputs?_eq_apply_iff isVariable_content compiled rfl).2.2 (.inl (by decide))⟩

/-- A text with two places for a content. -/
def repeating : List Slot := [.text "\x7b\x7bcontent\x7d\x7d|\x7b\x7bcontent\x7d\x7d"]

/-- The formatter puts a content into the first of two places, its expression into both. -/
theorem outputs?_ne_apply_repeating :
    ∃ e, slotsExpr CharLevel.empty .user contentVar (Formatter.content repeating).skeleton = .ok e ∧
      Jinja.outputs? (contentIs "x") e.write = some "x|x".toList ∧
      Jinja.outputs? (contentIs "x") e.write ≠ some
        (slotsText CharLevel.empty ((Formatter.content repeating).apply (.ofContent "x"))) := by
  obtain ⟨e, compiled⟩ : ∃ e, slotsExpr CharLevel.empty .user contentVar repeating = .ok e :=
    ⟨_, rfl⟩
  have said : Jinja.outputs? (contentIs "x") e.write = some (fillText _ repeating "x".toList) :=
    outputs?_slotsExpr isVariable_content compiled rfl
  refine ⟨e, by rwa [Formatter.skeleton_content], ?_, ?_⟩
  all_goals
    rw [said]
    decide

end Template

end Colloquy
