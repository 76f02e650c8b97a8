import Colloquy.Placeholder
import Colloquy.Proofs.Text

/-!
# Placeholders in a text

The names that are found in a text are those of the placeholders that stand in it
(`mem_names_iff`), and the first name that is found is that of the placeholder with the least text
ahead of it (`find?_names_eq_some_iff`).
-/

namespace Colloquy.Placeholder

/-- A name that a placeholder may have. -/
def IsIdentifier (n : List Char) : Prop :=
  ∃ c cs, n = c :: cs ∧ isNameStart c = true ∧ ∀ d ∈ cs, isNameChar d = true

/-- A placeholder stands in a text behind what is ahead of it. -/
structure Stands (s ahead n : List Char) : Prop where
  isIdentifier : IsIdentifier n
  isPrefix : ahead ++ mark (String.ofList n) <+: s

theorem mark_ofList (n : List Char) :
    mark (String.ofList n) = '\x7b' :: '\x7b' :: n ++ ['\x7d', '\x7d'] := by
  rw [mark, String.toList_ofList]
  rfl

/-- A name ends where the placeholder does, since it holds no brace. -/
theorem nameAt?_eq_some_iff {s n : List Char} : nameAt? s = some n ↔ Stands s [] n := by
  constructor
  · intro h
    unfold nameAt? at h
    split at h
    · rename_i c cs
      split_ifs at h with name
      rw [Bool.and_eq_true] at name
      obtain rfl := Option.some.inj h
      obtain ⟨rest, closed⟩ := Option.isSome_iff_exists.1 name.2
      refine ⟨⟨c, _, rfl, name.1, List.all_eq_true.1 List.all_takeWhile⟩, rest, ?_⟩
      have whole : cs = cs.takeWhile isNameChar ++ (['\x7d', '\x7d'] ++ rest) := by
        rw [← Text.afterStart?_eq_some.1 closed, List.takeWhile_append_dropWhile]
      rw [mark_ofList]
      conv_rhs => rw [whole]
      simp
    · cases h
  · rintro ⟨⟨c, cs, rfl, start, chars⟩, rest, rfl⟩
    have text : [] ++ mark (String.ofList (c :: cs)) ++ rest =
        '\x7b' :: '\x7b' :: c :: (cs ++ '\x7d' :: '\x7d' :: rest) := by
      rw [mark_ofList]
      simp
    have brace : isNameChar '\x7d' = false := by decide
    rw [text, nameAt?, List.dropWhile_append_of_pos chars, List.takeWhile_append_of_pos chars,
      List.dropWhile_cons_of_neg (by simp [brace]), List.takeWhile_cons_of_neg (by simp [brace])]
    simp [start, Text.afterStart?]

theorem not_stands_nil {ahead n : List Char} : ¬ Stands [] ahead n := by
  rintro ⟨-, h⟩
  rw [mark_ofList] at h
  simp at h

theorem stands_cons_iff {c d : Char} {s ahead n : List Char} :
    Stands (c :: s) (d :: ahead) n ↔ d = c ∧ Stands s ahead n := by
  constructor
  · rintro ⟨name, h⟩
    rw [List.cons_append, List.cons_prefix_cons] at h
    exact ⟨h.1, name, h.2⟩
  · rintro ⟨rfl, name, h⟩
    exact ⟨name, by rwa [List.cons_append, List.cons_prefix_cons, and_iff_right rfl]⟩

theorem names_cons (c : Char) (s : List Char) :
    names (c :: s) = (nameAt? (c :: s)).toList ++ names s := by
  rw [names]
  cases nameAt? (c :: s) <;> rfl

theorem mem_names_iff {s n : List Char} : n ∈ names s ↔ ∃ ahead, Stands s ahead n := by
  induction s with
  | nil => simp [names, not_stands_nil]
  | cons c s ih =>
    rw [names_cons, List.mem_append, Option.mem_toList, nameAt?_eq_some_iff, ih]
    constructor
    · rintro (here | ⟨ahead, later⟩)
      · exact ⟨[], here⟩
      · exact ⟨c :: ahead, stands_cons_iff.2 ⟨rfl, later⟩⟩
    · rintro ⟨_ | ⟨d, ahead⟩, h⟩
      · exact .inl h
      · exact .inr ⟨ahead, (stands_cons_iff.1 h).2⟩

theorem occurs_iff {s : List Char} : occurs s = true ↔ ∃ ahead n, Stands s ahead n := by
  rw [occurs, Bool.not_eq_true', List.isEmpty_eq_false_iff_exists_mem, exists_comm]
  simp only [mem_names_iff]

/-- The first of the names of some kind is that of the placeholder of this kind that stands first. -/
theorem find?_names_eq_some_iff {p : List Char → Bool} {s n : List Char} :
    (names s).find? p = some n ↔ ∃ ahead, Stands s ahead n ∧ p n = true ∧
      ∀ ahead' n', Stands s ahead' n' → p n' = true → ahead.length ≤ ahead'.length := by
  induction s with
  | nil => simp [names, not_stands_nil]
  | cons c s ih =>
    rw [names_cons, List.find?_append]
    cases here : (nameAt? (c :: s)).toList.find? p with
    | some m =>
      -- A placeholder of this kind stands at the very start, and none has less ahead of it.
      obtain ⟨hm, pm⟩ : Stands (c :: s) [] m ∧ p m = true := by
        refine ⟨nameAt?_eq_some_iff.1 ?_, List.find?_some here⟩
        exact Option.mem_toList.1 (List.mem_of_find?_eq_some here)
      rw [Option.some_or, Option.some.injEq]
      constructor
      · rintro rfl
        exact ⟨[], hm, pm, fun _ _ _ _ => Nat.zero_le _⟩
      · rintro ⟨ahead, hn, -, first⟩
        obtain rfl := List.eq_nil_of_length_eq_zero (Nat.le_zero.1 (first [] m hm pm))
        have := (nameAt?_eq_some_iff.2 hm).symm.trans (nameAt?_eq_some_iff.2 hn)
        exact Option.some.inj this
    | none =>
      have later : ∀ n', p n' = true → ¬ Stands (c :: s) [] n' := by
        intro n' hp hn
        rw [nameAt?_eq_some_iff.2 hn] at here
        simp [hp] at here
      rw [Option.none_or, ih]
      constructor
      · rintro ⟨ahead, hn, pn, first⟩
        refine ⟨c :: ahead, stands_cons_iff.2 ⟨rfl, hn⟩, pn, ?_⟩
        rintro (_ | ⟨d, ahead'⟩) n' hn' pn'
        · exact absurd hn' (later n' pn')
        · exact Nat.succ_le_succ (first ahead' n' (stands_cons_iff.1 hn').2 pn')
      · rintro ⟨_ | ⟨d, ahead⟩, hn, pn, first⟩
        · exact absurd hn (later n pn)
        · refine ⟨ahead, (stands_cons_iff.1 hn).2, pn, fun ahead' n' hn' pn' => ?_⟩
          exact Nat.le_of_succ_le_succ
            (first (c :: ahead') n' (stands_cons_iff.2 ⟨rfl, hn'⟩) pn')

end Colloquy.Placeholder
