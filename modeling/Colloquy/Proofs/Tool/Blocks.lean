import Mathlib.Data.List.TakeWhile
import Colloquy.Proofs.Tool.Calls

/-!
# Action blocks in a text

An action block is a name mark, blanks, a name, a gap, an input mark and an input, which runs to the
end of the text (`IsBlock`). A text may hold many: a name may end sooner, and a mark may stand in an
input. The search for a block finds the one of the leftmost name mark that starts any, with the
longest name that an input mark follows, up to the first such mark (`find?_cases`).
-/

namespace Colloquy.Tool

open ActionBlock

/-! ## Blocks -/

/-- A text that starts with a name, behind which an input mark follows. -/
structure StartsBlock (s name gap input : List Char) : Prop where
  isName : IsName name
  eq : s = name ++ (gap ++ (inputMark ++ input))

/-- The longest name that an input mark follows, up to the first such mark. -/
structure StartsFirstBlock (s name gap input : List Char) : Prop where
  startsBlock : StartsBlock s name gap input
  longest : ∀ name' gap' input', StartsBlock s name' gap' input' → name'.length ≤ name.length
  soonest : ∀ gap' input', StartsBlock s name gap' input' → gap.length ≤ gap'.length

/-- An action block in a text: behind what is ahead of it a name mark, blanks, a name, a gap, an
input mark and the input. -/
def IsBlock (s ahead name gap input : List Char) : Prop :=
  ∃ after, s = ahead ++ (nameMark ++ after) ∧
    StartsBlock (after.dropWhile Text.isAsciiBlank) name gap input

/-- The block of the first name mark that starts any, with the longest name that an input mark
follows, up to the first such mark. -/
structure IsFirstBlock (s ahead name gap input : List Char) : Prop where
  isBlock : IsBlock s ahead name gap input
  leftmost : ∀ ahead' name' gap' input', IsBlock s ahead' name' gap' input' →
    ahead.length ≤ ahead'.length
  longest : ∀ name' gap' input', IsBlock s ahead name' gap' input' → name'.length ≤ name.length
  soonest : ∀ gap' input', IsBlock s ahead name gap' input' → gap.length ≤ gap'.length

/-! ## The search for a block -/

theorem nameMark_eq : nameMark = 'A' :: "ction:".toList := by decide

theorem inputMark_eq : inputMark = 'A' :: "ction Input:".toList := by decide

theorem find?_cons_of_some {c : Char} {s : List Char} {block : List Char × List Char}
    (h : at? (c :: s) = some block) : find? (c :: s) = some block := by
  rw [find?, h]

theorem find?_cons_of_none {c : Char} {s : List Char} (h : at? (c :: s) = none) :
    find? (c :: s) = find? s := by
  rw [find?, h]

/-- Of the beginnings of a word that an input mark follows the longest is taken, with the first
mark behind it. -/
theorem shrink?_cases (word after : List Char) :
    (shrink? word after = none ∧ ∀ name gap input, name ≠ [] → name <+: word.reverse →
      word.reverse ++ after ≠ name ++ (gap ++ (inputMark ++ input))) ∨
    ∃ name gap input, shrink? word after = some (name, input.dropWhile Text.isAsciiBlank) ∧
      name ≠ [] ∧ name <+: word.reverse ∧
      word.reverse ++ after = name ++ (gap ++ (inputMark ++ input)) ∧
      (∀ name' gap' input', name' <+: word.reverse →
        word.reverse ++ after = name' ++ (gap' ++ (inputMark ++ input')) →
        name'.length ≤ name.length) ∧
      ∀ gap' input', word.reverse ++ after = name ++ (gap' ++ (inputMark ++ input')) →
        gap.length ≤ gap'.length := by
  induction word generalizing after with
  | nil =>
    refine .inl ⟨rfl, fun name gap input ne begins => ?_⟩
    exact absurd (List.prefix_nil.1 begins) ne
  | cons c word ih =>
    cases cut : Text.cut? inputMark after with
    | some parts =>
      obtain ⟨gap, input⟩ := parts
      obtain ⟨whole, least⟩ := Text.cut?_eq_some_iff.1 cut
      refine .inr ⟨(c :: word).reverse, gap, input, by rw [shrink?, cut], by simp,
        List.prefix_refl _, by rw [whole, List.append_assoc], fun name' _ _ begins _ =>
        begins.length_le, fun gap' input' same => ?_⟩
      rw [List.append_cancel_left_eq, ← List.append_assoc] at same
      exact least gap' input' same
    | none =>
      -- The whole word is no name, so a name begins the word without its last character.
      have shorter : ∀ {name gap input : List Char}, name <+: (c :: word).reverse →
          (c :: word).reverse ++ after = name ++ (gap ++ (inputMark ++ input)) →
          name <+: word.reverse := by
        intro name gap input begins same
        rw [List.reverse_cons, List.prefix_concat_iff, ← List.reverse_cons] at begins
        rcases begins with rfl | begins
        · rw [List.append_cancel_left_eq, ← List.append_assoc] at same
          exact absurd same (Text.cut?_eq_none_iff.1 cut gap input)
        · exact begins
      have moved : (c :: word).reverse ++ after = word.reverse ++ c :: after := by simp
      rw [shrink?, cut]
      dsimp only
      rcases ih (c :: after) with ⟨nothing, unmarked⟩ |
        ⟨name, gap, input, found, ne, begins, whole, longest, soonest⟩
      · refine .inl ⟨nothing, fun name gap input ne begins same => ?_⟩
        exact unmarked name gap input ne (shorter begins same) (moved ▸ same)
      · refine .inr ⟨name, gap, input, found, ne, ?_, moved ▸ whole, ?_, ?_⟩
        · rw [List.reverse_cons]
          exact begins.trans (List.prefix_append _ _)
        · exact fun name' gap' input' begins' same =>
            longest name' gap' input' (shorter begins' same) (moved ▸ same)
        · exact fun gap' input' same => soonest gap' input' (moved ▸ same)

theorem StartsBlock.isPrefix {s name gap input : List Char} (h : StartsBlock s name gap input) :
    name <+: s.takeWhile isNameChar := by
  rw [h.eq, List.takeWhile_append_of_pos h.isName.isNameChar]
  exact List.prefix_append _ _

/-- Behind a name mark a block is found exactly if one starts there, and then the first one. -/
theorem afterMark?_cases (s : List Char) :
    (afterMark? s = none ∧
      ∀ name gap input, ¬ StartsBlock (s.dropWhile Text.isAsciiBlank) name gap input) ∨
    ∃ name gap input, afterMark? s = some (name, input.dropWhile Text.isAsciiBlank) ∧
      StartsFirstBlock (s.dropWhile Text.isAsciiBlank) name gap input := by
  unfold afterMark?
  dsimp only
  generalize s.dropWhile Text.isAsciiBlank = t
  have cases := shrink?_cases (t.takeWhile isNameChar).reverse (t.dropWhile isNameChar)
  rw [List.reverse_reverse, List.takeWhile_append_dropWhile] at cases
  rcases cases with ⟨nothing, unmarked⟩ |
    ⟨name, gap, input, found, ne, begins, whole, longest, soonest⟩
  · refine .inl ⟨nothing, fun name gap input starts => ?_⟩
    exact unmarked name gap input starts.isName.ne_nil starts.isPrefix starts.eq
  · refine .inr ⟨name, gap, input, found, ⟨⟨ne, fun c hc => ?_⟩, whole⟩,
      fun name' gap' input' starts => longest name' gap' input' starts.isPrefix starts.eq,
      fun gap' input' starts => soonest gap' input' starts.eq⟩
    exact List.all_eq_true.1 List.all_takeWhile c (begins.subset hc)

theorem isBlock_nil_iff {s name gap input : List Char} :
    IsBlock s [] name gap input ↔ ∃ after, Text.afterStart? nameMark s = some after ∧
      StartsBlock (after.dropWhile Text.isAsciiBlank) name gap input := by
  simp only [IsBlock, List.nil_append, Text.afterStart?_eq_some]

theorem isBlock_cons_iff {c d : Char} {s ahead name gap input : List Char} :
    IsBlock (c :: s) (d :: ahead) name gap input ↔ d = c ∧ IsBlock s ahead name gap input := by
  constructor
  · rintro ⟨after, whole, starts⟩
    obtain ⟨rfl, rest⟩ := List.cons.inj whole
    exact ⟨rfl, after, rest, starts⟩
  · rintro ⟨rfl, after, rfl, starts⟩
    exact ⟨after, rfl, starts⟩

theorem not_isBlock_nil {ahead name gap input : List Char} : ¬ IsBlock [] ahead name gap input := by
  rintro ⟨after, whole, -⟩
  simp [nameMark_eq] at whole

/-- Where no block starts at the beginning of a text, the blocks are those of the rest. -/
theorem IsFirstBlock.cons {c : Char} {s ahead name gap input : List Char}
    (none : ∀ name gap input, ¬ IsBlock (c :: s) [] name gap input)
    (h : IsFirstBlock s ahead name gap input) :
    IsFirstBlock (c :: s) (c :: ahead) name gap input where
  isBlock := isBlock_cons_iff.2 ⟨rfl, h.isBlock⟩
  leftmost := by
    rintro (_ | ⟨d, ahead'⟩) name' gap' input' block
    · exact absurd block (none name' gap' input')
    · exact Nat.succ_le_succ (h.leftmost _ _ _ _ (isBlock_cons_iff.1 block).2)
  longest name' gap' input' block := h.longest _ _ _ (isBlock_cons_iff.1 block).2
  soonest gap' input' block := h.soonest _ _ (isBlock_cons_iff.1 block).2

/-- At the beginning of a text a block is found exactly if one starts there. -/
theorem at?_cases (s : List Char) :
    (at? s = none ∧ ∀ name gap input, ¬ IsBlock s [] name gap input) ∨
    ∃ name gap input, at? s = some (name, input.dropWhile Text.isAsciiBlank) ∧
      IsFirstBlock s [] name gap input := by
  cases start : Text.afterStart? nameMark s with
  | none =>
    refine .inl ⟨by rw [at?, start]; rfl, fun name gap input block => ?_⟩
    obtain ⟨after, found, -⟩ := isBlock_nil_iff.1 block
    rw [start] at found
    cases found
  | some after =>
    have blocks : ∀ {name gap input}, IsBlock s [] name gap input ↔
        StartsBlock (after.dropWhile Text.isAsciiBlank) name gap input := by
      intro name gap input
      simp only [isBlock_nil_iff, start, Option.some.injEq, exists_eq_left']
    have here : at? s = afterMark? after := by
      rw [at?, start]
      rfl
    rw [here]
    rcases afterMark?_cases after with ⟨nothing, unmarked⟩ | ⟨name, gap, input, found, first⟩
    · exact .inl ⟨nothing, fun _ _ _ block => unmarked _ _ _ (blocks.1 block)⟩
    · exact .inr ⟨name, gap, input, found, blocks.2 first.startsBlock,
        fun _ _ _ _ _ => Nat.zero_le _,
        fun _ _ _ block => first.longest _ _ _ (blocks.1 block),
        fun _ _ block => first.soonest _ _ (blocks.1 block)⟩

/-- A block is found exactly if there is one, and then the first one. -/
theorem find?_cases (s : List Char) :
    (find? s = none ∧ ∀ ahead name gap input, ¬ IsBlock s ahead name gap input) ∨
    ∃ ahead name gap input, find? s = some (name, input.dropWhile Text.isAsciiBlank) ∧
      IsFirstBlock s ahead name gap input := by
  induction s with
  | nil => exact .inl ⟨rfl, fun _ _ _ _ => not_isBlock_nil⟩
  | cons c s ih =>
    rcases at?_cases (c :: s) with ⟨nothing, none⟩ | ⟨name, gap, input, found, first⟩
    · rw [find?_cons_of_none nothing]
      rcases ih with ⟨later, unmarked⟩ | ⟨ahead, name, gap, input, found, first⟩
      · refine .inl ⟨later, ?_⟩
        rintro (_ | ⟨d, ahead⟩) name gap input block
        · exact none _ _ _ block
        · exact unmarked _ _ _ _ (isBlock_cons_iff.1 block).2
      · exact .inr ⟨c :: ahead, name, gap, input, found, first.cons none⟩
    · exact .inr ⟨[], name, gap, input, find?_cons_of_some found, first⟩

theorem StartsBlock.eq_of_length_eq {s name gap input name' gap' input' : List Char}
    (h : StartsBlock s name gap input) (h' : StartsBlock s name' gap' input')
    (length_name : name.length = name'.length) : name = name' ∧
      (gap.length = gap'.length → gap = gap' ∧ input = input') := by
  obtain ⟨rfl, rest⟩ := List.append_inj (h.eq.symm.trans h'.eq) length_name
  refine ⟨rfl, fun length_gap => ?_⟩
  obtain ⟨rfl, rest⟩ := List.append_inj rest length_gap
  exact ⟨rfl, List.append_cancel_left (List.append_cancel_left rest)⟩

/-- There is one first block. -/
theorem IsFirstBlock.eq {s ahead name gap input ahead' name' gap' input' : List Char}
    (h : IsFirstBlock s ahead name gap input) (h' : IsFirstBlock s ahead' name' gap' input') :
    name = name' ∧ input = input' := by
  obtain ⟨after, whole, starts⟩ := h.isBlock
  obtain ⟨after', whole', starts'⟩ := h'.isBlock
  have length_ahead : ahead.length = ahead'.length :=
    Nat.le_antisymm (h.leftmost _ _ _ _ h'.isBlock) (h'.leftmost _ _ _ _ h.isBlock)
  obtain ⟨rfl, rest⟩ := List.append_inj (whole.symm.trans whole') length_ahead
  obtain rfl := List.append_cancel_left rest
  obtain ⟨rfl, sameRest⟩ := starts.eq_of_length_eq starts'
    (Nat.le_antisymm (h'.longest _ _ _ h.isBlock) (h.longest _ _ _ h'.isBlock))
  exact ⟨rfl, (sameRest
    (Nat.le_antisymm (h.soonest _ _ h'.isBlock) (h'.soonest _ _ h.isBlock))).2⟩

theorem IsFirstBlock.find?_eq {s ahead name gap input : List Char}
    (h : IsFirstBlock s ahead name gap input) :
    find? s = some (name, input.dropWhile Text.isAsciiBlank) := by
  rcases find?_cases s with ⟨-, none⟩ | ⟨_, _, _, _, found, first⟩
  · exact absurd h.isBlock (none _ _ _ _)
  · obtain ⟨rfl, rfl⟩ := h.eq first
    exact found

theorem afterMark?_eq_some {s name input : List Char} (h : afterMark? s = some (name, input)) :
    ∃ x rest, x ≠ [] ∧ s.dropWhile Text.isAsciiBlank = x ++ (inputMark ++ rest) ∧
      input = rest.dropWhile Text.isAsciiBlank := by
  rcases afterMark?_cases s with ⟨nothing, -⟩ | ⟨name', gap, rest, found, ⟨starts, -, -⟩⟩
  · rw [nothing] at h
    cases h
  · obtain ⟨rfl, rfl⟩ := Prod.mk.inj (Option.some.inj (found.symm.trans h))
    refine ⟨name' ++ gap, rest, by simp [starts.isName.ne_nil], ?_, rfl⟩
    rw [starts.eq, List.append_assoc]

/-- The input of a block stands behind an input mark. -/
theorem find?_eq_some {s name input : List Char} (h : find? s = some (name, input)) :
    ∃ x rest, s = x ++ (inputMark ++ rest) ∧ input = rest.dropWhile Text.isAsciiBlank := by
  rcases find?_cases s with ⟨nothing, -⟩ | ⟨ahead, name', gap, rest, found, first⟩
  · rw [nothing] at h
    cases h
  · obtain ⟨rfl, rfl⟩ := Prod.mk.inj (Option.some.inj (found.symm.trans h))
    obtain ⟨after, rfl, starts⟩ := first.isBlock
    refine ⟨ahead ++ (nameMark ++ (after.takeWhile Text.isAsciiBlank ++ (name' ++ gap))), rest,
      ?_, rfl⟩
    have whole := starts.eq
    simp only [List.append_assoc]
    rw [← whole, List.takeWhile_append_dropWhile]

end Colloquy.Tool
