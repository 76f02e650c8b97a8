import Mathlib.Data.List.Basic
import Colloquy.Text.Blank
import Colloquy.Text.Search

/-!
# Laws of searching, replacing and trimming

The first cut of a text, character by character (`cut?_cons_of_start`, `cut?_cons_of_not_start`) or
as the first occurrence (`cut?_eq_some_iff`), and all pieces of a text from its first cut
(`splitOn_of_cut?_some`). A mark whose first character does not come again in it cannot begin before
the text that is put ahead of it ends (`afterStart?_append_mark`), and no occurrence goes beyond a
character that the pattern does not have (`cut?_append_of_stop`). Where a pattern occurs once,
replacing it first is replacing it everywhere, and only there unless it is replaced by itself
(`replaceFirst_eq_replaceAll_iff`). Trimming takes away just what was put around a text
(`trimBy_wrapped`).
-/

namespace Colloquy.Text

/-! ## Cuts -/

theorem cutFrom?_eq_map (p seen s : List Char) :
    cutFrom? p seen s = (cut? p s).map fun x => (seen.reverse ++ x.1, x.2) := by
  unfold cut?
  induction s generalizing seen with
  | nil =>
    by_cases hp : p = []
    · simp [cutFrom?, hp]
    · simp [cutFrom?, hp]
  | cons c s ih =>
    cases h : afterStart? p (c :: s) with
    | some rest => simp [cutFrom?, h]
    | none =>
      simp only [cutFrom?, h]
      rw [ih (c :: seen), ih [c], Option.map_map]
      congr 1
      funext x
      simp

theorem cut?_cons_of_start {p rest : List Char} {c : Char} {s : List Char}
    (h : afterStart? p (c :: s) = some rest) : cut? p (c :: s) = some ([], rest) := by
  rw [cut?, cutFrom?, h]
  rfl

theorem cut?_cons_of_not_start {p : List Char} {c : Char} {s : List Char}
    (h : afterStart? p (c :: s) = none) :
    cut? p (c :: s) = (cut? p s).map fun x => (c :: x.1, x.2) := by
  rw [cut?, cutFrom?, h]
  exact cutFrom?_eq_map p [c] s

theorem afterStart?_append (p s : List Char) : afterStart? p (p ++ s) = some s :=
  afterStart?_eq_some.2 rfl

theorem afterStart?_cons_of_ne {a c : Char} (p s : List Char) (h : a ≠ c) :
    afterStart? (a :: p) (c :: s) = none := by
  rw [afterStart?, if_neg h]

/-- A mark is found behind a text without its first character. -/
theorem cut?_append_of_not_mem {a : Char} {p s : List Char} (h : a ∉ s) (t : List Char) :
    cut? (a :: p) (s ++ (a :: p ++ t)) = some (s, t) := by
  induction s with
  | nil => exact cut?_cons_of_start (afterStart?_append (a :: p) t)
  | cons c s ih =>
    rw [List.mem_cons, not_or] at h
    rw [List.cons_append, cut?_cons_of_not_start (afterStart?_cons_of_ne p _ h.1), ih h.2]
    rfl

theorem occursIn_cons_eq_false {p : List Char} {c : Char} {s : List Char}
    (h : occursIn p (c :: s) = false) :
    afterStart? p (c :: s) = none ∧ occursIn p s = false := by
  unfold occursIn at h ⊢
  cases hs : afterStart? p (c :: s) with
  | some rest =>
    rw [cut?_cons_of_start hs] at h
    cases h
  | none =>
    rw [cut?_cons_of_not_start hs, Option.isSome_map] at h
    exact ⟨rfl, h⟩

/-- A mark whose first character comes only once starts where it stands and not before. -/
theorem afterStart?_append_mark {a : Char} {p s : List Char} (single : a ∉ p)
    (h : afterStart? (a :: p) s = none) (hs : s ≠ []) (t : List Char) :
    afterStart? (a :: p) (s ++ (a :: p ++ t)) = none := by
  rw [Option.eq_none_iff_forall_ne_some] at h ⊢
  intro r hr
  rw [afterStart?_eq_some, List.append_eq_append_iff] at hr
  rcases hr with ⟨q, hq, ht⟩ | ⟨q, hq, -⟩
  · cases q with
    | nil =>
      rw [List.append_nil] at hq
      exact h [] (afterStart?_eq_some.2 (by rw [hq, List.append_nil]))
    | cons b q =>
      -- The mark would go on with its own first character.
      obtain rfl : a = b := (List.cons.inj ht).1
      obtain ⟨c, s, rfl⟩ := List.exists_cons_of_ne_nil hs
      have hp : p = s ++ a :: q := (List.cons.inj hq).2
      exact single (hp ▸ by simp)
  · exact h q (afterStart?_eq_some.2 hq)

/-! ## The first occurrence -/

theorem exists_cut?_of_eq {p s a b : List Char} (h : s = a ++ p ++ b) :
    ∃ c d, cut? p s = some (c, d) ∧ c.length ≤ a.length := by
  induction a generalizing s with
  | nil =>
    have start : afterStart? p s = some b := by rw [afterStart?_eq_some, h, List.nil_append]
    cases s with
    | nil =>
      obtain ⟨rfl, rfl⟩ : p = [] ∧ b = [] := by simpa using h
      exact ⟨[], [], rfl, Nat.le_refl _⟩
    | cons e s => exact ⟨[], b, cut?_cons_of_start start, Nat.le_refl _⟩
  | cons e a ih =>
    subst h
    cases start : afterStart? p (e :: (a ++ p ++ b)) with
    | some rest => exact ⟨[], rest, cut?_cons_of_start start, Nat.zero_le _⟩
    | none =>
      obtain ⟨c, d, h, hc⟩ := ih rfl
      refine ⟨e :: c, d, ?_, Nat.succ_le_succ hc⟩
      rw [List.cons_append, List.cons_append, cut?_cons_of_not_start start, h]
      rfl

theorem cut?_eq_none_iff {p s : List Char} : cut? p s = none ↔ ∀ a b, s ≠ a ++ p ++ b := by
  constructor
  · intro h a b hs
    obtain ⟨c, d, hc, -⟩ := exists_cut?_of_eq hs
    rw [h] at hc
    cases hc
  · intro h
    rw [Option.eq_none_iff_forall_ne_some]
    rintro ⟨a, b⟩ hc
    exact h a b (cut?_eq_some hc)

/-- A cut is made where a pattern first occurs. -/
theorem cut?_eq_some_iff {p s a b : List Char} : cut? p s = some (a, b) ↔
    s = a ++ p ++ b ∧ ∀ c d, s = c ++ p ++ d → a.length ≤ c.length := by
  have first : ∀ {a b}, cut? p s = some (a, b) → ∀ c d, s = c ++ p ++ d → a.length ≤ c.length := by
    intro a b h c d hs
    obtain ⟨c', d', hc, hl⟩ := exists_cut?_of_eq hs
    obtain ⟨rfl, rfl⟩ : a = c' ∧ b = d' := by simpa using h.symm.trans hc
    exact hl
  constructor
  · exact fun h => ⟨cut?_eq_some h, first h⟩
  · rintro ⟨hs, least⟩
    obtain ⟨c, d, hc, hl⟩ := exists_cut?_of_eq hs
    have whole := cut?_eq_some hc
    have same : a.length = c.length := Nat.le_antisymm (least c d whole) hl
    rw [hs, List.append_assoc, List.append_assoc] at whole
    obtain ⟨rfl, rest⟩ := List.append_inj whole same
    rw [hc, List.append_cancel_left rest]

theorem cut?_append_of_some {p s a b : List Char} (h : cut? p s = some (a, b)) (t : List Char) :
    cut? p (s ++ t) = some (a, b ++ t) := by
  obtain ⟨rfl, least⟩ := cut?_eq_some_iff.1 h
  rw [cut?_eq_some_iff]
  refine ⟨by simp, fun c d hs => ?_⟩
  by_contra lt
  -- An earlier occurrence would end before the first one does.
  have fits : (c ++ p).length ≤ (a ++ p ++ b).length := by
    simp only [List.length_append]
    omega
  obtain ⟨rest, hrest⟩ : c ++ p <+: a ++ p ++ b :=
    List.prefix_of_prefix_length_le ⟨d, hs.symm⟩ (List.prefix_append _ t) fits
  exact lt (least c rest hrest.symm)

/-- What stands ahead of all occurrences of a pattern does not matter to its cut. -/
theorem cut?_append_of_behind {p x s : List Char}
    (behind : ∀ c d, x ++ s = c ++ p ++ d → x.length ≤ c.length) :
    cut? p (x ++ s) = (cut? p s).map fun c => (x ++ c.1, c.2) := by
  have rest : ∀ c d, x ++ s = c ++ p ++ d → ∃ m, c = x ++ m ∧ s = m ++ p ++ d := by
    intro c d hs
    obtain ⟨m, rfl⟩ : x <+: c := List.prefix_of_prefix_length_le (List.prefix_append x s)
      ⟨p ++ d, by rw [hs, List.append_assoc]⟩ (behind c d hs)
    have same : x ++ s = x ++ (m ++ p ++ d) := by
      rw [hs]
      simp only [List.append_assoc]
    exact ⟨m, rfl, List.append_cancel_left same⟩
  cases h : cut? p s with
  | none =>
    rw [Option.map_none, cut?_eq_none_iff]
    intro c d hs
    obtain ⟨m, -, hm⟩ := rest c d hs
    exact cut?_eq_none_iff.1 h m d hm
  | some y =>
    obtain ⟨rfl, least⟩ := cut?_eq_some_iff.1 h
    rw [Option.map_some, cut?_eq_some_iff]
    refine ⟨by simp, fun c d hs => ?_⟩
    obtain ⟨m, rfl, hm⟩ := rest c d hs
    simpa using least m d hm

theorem occursIn_eq_false_iff {p s : List Char} : occursIn p s = false ↔ cut? p s = none := by
  rw [occursIn, Option.isSome_eq_false_iff, Option.isNone_iff_eq_none]

theorem occursIn_eq_true_iff {p s : List Char} : occursIn p s = true ↔ p <:+: s := by
  rw [← Bool.not_eq_false, occursIn_eq_false_iff, cut?_eq_none_iff]
  simp only [List.IsInfix, ne_eq, not_forall, not_not, eq_comm]

/-- A pattern does not go on behind a character that is not in it. -/
theorem afterStart?_append_of_stop {p s : List Char} (h : afterStart? p s = none) {d : Char}
    (hd : d ∉ p) (t : List Char) : afterStart? p (s ++ d :: t) = none := by
  induction p generalizing s with
  | nil => cases h
  | cons a p ih =>
    rw [List.mem_cons, not_or] at hd
    cases s with
    | nil => exact afterStart?_cons_of_ne p t (Ne.symm hd.1)
    | cons b s =>
      rw [afterStart?] at h
      rw [List.cons_append, afterStart?]
      split
      · rw [if_pos ‹_›] at h
        exact ih h hd.2
      · rfl

theorem cut?_append_of_stop {p s : List Char} (hp : p ≠ []) (h : cut? p s = none) {d : Char}
    (hd : d ∉ p) (t : List Char) :
    cut? p (s ++ d :: t) = (cut? p t).map fun x => (s ++ d :: x.1, x.2) := by
  induction s with
  | nil =>
    obtain ⟨a, p, rfl⟩ := List.exists_cons_of_ne_nil hp
    rw [List.mem_cons, not_or] at hd
    exact cut?_cons_of_not_start (afterStart?_cons_of_ne p t (Ne.symm hd.1))
  | cons c s ih =>
    obtain ⟨start, rest⟩ := occursIn_cons_eq_false (occursIn_eq_false_iff.2 h)
    have here := afterStart?_append_of_stop start hd t
    rw [List.cons_append] at here ⊢
    rw [cut?_cons_of_not_start here, ih (occursIn_eq_false_iff.1 rest), Option.map_map]
    rfl

/-! ## Pieces -/

theorem splitFrom_skip (p u t : List Char) :
    splitFrom p u.length [] (u ++ t) = splitFrom p 0 [] t := by
  induction u with
  | nil => rfl
  | cons c u ih => rw [List.length_cons, List.cons_append, splitFrom, ih]

/-- The pieces of a text are what stands before its first cut and the pieces of what follows. -/
theorem splitFrom_eq {p : List Char} (hp : p ≠ []) (piece s : List Char) :
    splitFrom p 0 piece s =
      match cut? p s with
      | none => [piece.reverse ++ s]
      | some (a, b) => (piece.reverse ++ a) :: splitOn p b := by
  induction s generalizing piece with
  | nil => simp [splitFrom, cut?, cutFrom?, hp]
  | cons c s ih =>
    cases h : afterStart? p (c :: s) with
    | some rest =>
      obtain ⟨a, q, rfl⟩ := List.exists_cons_of_ne_nil hp
      have hs : s = q ++ rest := (List.cons.inj (afterStart?_eq_some.1 h)).2
      rw [cut?_cons_of_start h, splitFrom, h, hs]
      simp only [Option.isSome_some, if_true, List.length_cons, Nat.add_sub_cancel,
        List.append_nil]
      rw [splitFrom_skip, splitOn]
    | none =>
      rw [cut?_cons_of_not_start h, splitFrom, h]
      simp only [Option.isSome_none, Bool.false_eq_true, if_false]
      rw [ih (c :: piece)]
      cases cut? p s with
      | none => simp
      | some x => simp

theorem splitOn_of_cut?_none {p s : List Char} (hp : p ≠ []) (h : cut? p s = none) :
    splitOn p s = [s] := by
  rw [splitOn, splitFrom_eq hp, h]
  rfl

theorem splitOn_of_cut?_some {p s a b : List Char} (hp : p ≠ []) (h : cut? p s = some (a, b)) :
    splitOn p s = a :: splitOn p b := by
  rw [splitOn, splitFrom_eq hp, h]
  rfl

/-! ## Replacing -/

theorem cut?_of_not_occursIn {p s : List Char} (h : occursIn p s = false) : cut? p s = none :=
  occursIn_eq_false_iff.1 h

theorem replaceFirst_of_not_occursIn {p s : List Char} (h : occursIn p s = false) (v : List Char) :
    replaceFirst p v s = s := by
  rw [replaceFirst, cut?_of_not_occursIn h]

theorem replaceAll_of_cut?_none {p s : List Char} (hp : p ≠ []) (h : cut? p s = none)
    (v : List Char) : replaceAll p v s = s := by
  rw [replaceAll, splitOn_of_cut?_none hp h, List.intercalate_singleton]

theorem replaceAll_of_not_occursIn {p s : List Char} (hp : p ≠ []) (h : occursIn p s = false)
    (v : List Char) : replaceAll p v s = s :=
  replaceAll_of_cut?_none hp (cut?_of_not_occursIn h) v

theorem replaceFirst_self (p s : List Char) : replaceFirst p p s = s := by
  unfold replaceFirst
  cases h : cut? p s with
  | none => rfl
  | some x => exact (cut?_eq_some h).symm

/-- A text in the place of a pattern stands in what comes out. -/
theorem isInfix_replaceFirst {p s : List Char} (h : p <:+: s) (v : List Char) :
    v <:+: replaceFirst p v s := by
  obtain ⟨⟨a, b⟩, cut⟩ := Option.isSome_iff_exists.1 (occursIn_eq_true_iff.2 h)
  rw [replaceFirst, cut]
  exact ⟨a, b, rfl⟩

theorem replaceFirst_inj {p s v w : List Char} (h : p <:+: s) :
    replaceFirst p v s = replaceFirst p w s ↔ v = w := by
  obtain ⟨⟨a, b⟩, cut⟩ := Option.isSome_iff_exists.1 (occursIn_eq_true_iff.2 h)
  rw [replaceFirst, replaceFirst, cut]
  simp

/-- A shorter text in the place of a pattern makes the whole shorter. -/
theorem length_replaceFirst {p v w s : List Char} (h : v.length < w.length) :
    (replaceFirst p v s).length ≤ (replaceFirst p w s).length ∧
      (occursIn p s = true → (replaceFirst p v s).length < (replaceFirst p w s).length) := by
  unfold replaceFirst occursIn
  cases cut? p s with
  | none => simp
  | some x =>
    simp only [List.length_append]
    omega

theorem one_le_length_splitOn {p : List Char} (hp : p ≠ []) (s : List Char) :
    1 ≤ (splitOn p s).length := by
  cases h : cut? p s with
  | none => simp [splitOn_of_cut?_none hp h]
  | some x => simp [splitOn_of_cut?_some (a := x.1) (b := x.2) hp h]

/-- A text is in several pieces exactly where a pattern occurs in it. -/
theorem two_le_length_splitOn_iff {p s : List Char} (hp : p ≠ []) :
    2 ≤ (splitOn p s).length ↔ occursIn p s = true := by
  unfold occursIn
  cases h : cut? p s with
  | none => simp [splitOn_of_cut?_none hp h]
  | some x =>
    have := one_le_length_splitOn hp x.2
    simp only [splitOn_of_cut?_some (a := x.1) (b := x.2) hp h, List.length_cons,
      Option.isSome_some, iff_true]
    omega

/-- Where a pattern stands at most once, replacing the first occurrence replaces all. -/
theorem replaceFirst_eq_replaceAll {p s : List Char} (hp : p ≠ [])
    (once : (splitOn p s).length ≤ 2) (v : List Char) :
    replaceFirst p v s = replaceAll p v s := by
  cases h : cut? p s with
  | none =>
    have absent : occursIn p s = false := by rw [occursIn, h]; rfl
    rw [replaceFirst_of_not_occursIn absent, replaceAll_of_not_occursIn hp absent]
  | some x =>
    obtain ⟨a, b⟩ := x
    have pieces := splitOn_of_cut?_some hp h
    rw [pieces, List.length_cons] at once
    cases hb : cut? p b with
    | none =>
      rw [replaceFirst, h, replaceAll, pieces, splitOn_of_cut?_none hp hb]
      simp [List.intercalate]
    | some y =>
      have more := one_le_length_splitOn hp y.2
      rw [splitOn_of_cut?_some (a := y.1) (b := y.2) hp hb, List.length_cons] at once
      omega

/-! ## Replacing the first occurrence or all -/

/-- What holds of a text without a pattern, and of a text if it holds of what follows its first cut,
holds of all texts. -/
theorem cut_induction {p : List Char} (hp : p ≠ []) {motive : List Char → Prop}
    (whole : ∀ s, cut? p s = none → motive s)
    (first : ∀ s a b, cut? p s = some (a, b) → motive b → motive s) (s : List Char) :
    motive s := by
  induction n : s.length using Nat.strongRecOn generalizing s with
  | _ n ih =>
    cases h : cut? p s with
    | none => exact whole s h
    | some x =>
      obtain ⟨a, b⟩ := x
      refine first s a b h (ih b.length ?_ b rfl)
      have pos := List.length_pos_of_ne_nil hp
      rw [← n, cut?_eq_some h]
      simp only [List.length_append]
      omega

/-- Replacing all occurrences is replacing the first one and then those behind it. -/
theorem replaceAll_of_cut?_some {p s a b : List Char} (hp : p ≠ []) (h : cut? p s = some (a, b))
    (v : List Char) : replaceAll p v s = a ++ v ++ replaceAll p v b := by
  rw [replaceAll, replaceAll, splitOn_of_cut?_some hp h]
  cases pieces : splitOn p b with
  | nil => simpa [pieces] using one_le_length_splitOn hp b
  | cons piece rest => rw [List.intercalate_cons_cons]

/-- Where no occurrence begins in what stands ahead of a text, the occurrences are those of the
text. -/
theorem replaceAll_append_of_cut? {p x s : List Char} (hp : p ≠ [])
    (h : cut? p (x ++ s) = (cut? p s).map fun c => (x ++ c.1, c.2)) (v : List Char) :
    replaceAll p v (x ++ s) = x ++ replaceAll p v s := by
  cases cut : cut? p s with
  | none =>
    rw [cut, Option.map_none] at h
    rw [replaceAll_of_cut?_none hp h, replaceAll_of_cut?_none hp cut]
  | some c =>
    rw [cut, Option.map_some] at h
    rw [replaceAll_of_cut?_some hp h, replaceAll_of_cut?_some hp (a := c.1) (b := c.2) cut]
    simp only [List.append_assoc]

/-- Occurrences on both sides of a character that is not in a pattern are replaced apart. -/
theorem replaceAll_append_of_stop {p : List Char} (hp : p ≠ []) {d : Char} (hd : d ∉ p)
    (v s t : List Char) : replaceAll p v (s ++ d :: t) = replaceAll p v s ++ d :: replaceAll p v t := by
  induction s using cut_induction hp with
  | whole s h =>
    have behind : cut? p (s ++ [d] ++ t) = (cut? p t).map fun c => (s ++ [d] ++ c.1, c.2) := by
      simpa using cut?_append_of_stop hp h hd t
    rw [replaceAll_of_cut?_none hp h, List.append_cons, replaceAll_append_of_cut? hp behind,
      ← List.append_cons]
  | first s a b h ih =>
    rw [replaceAll_of_cut?_some hp h, replaceAll_of_cut?_some hp (cut?_append_of_some h _), ih]
    simp

theorem cut?_self_append {p : List Char} (hp : p ≠ []) (b : List Char) :
    cut? p (p ++ b) = some ([], b) := by
  obtain ⟨c, p, rfl⟩ := List.exists_cons_of_ne_nil hp
  exact cut?_cons_of_start (afterStart?_append (c :: p) b)

theorem replaceAll_self_append {p : List Char} (hp : p ≠ []) (v b : List Char) :
    replaceAll p v (p ++ b) = v ++ replaceAll p v b :=
  replaceAll_of_cut?_some hp (cut?_self_append hp b) v

/-- A text in the place of the whole pattern. -/
theorem replaceAll_whole {p : List Char} (hp : p ≠ []) (v : List Char) :
    replaceAll p v p = v := by
  have rest : replaceAll p v [] = [] := rfl
  have alone := replaceAll_self_append hp v []
  rwa [rest, List.append_nil, List.append_nil] at alone

theorem replaceAll_self {p : List Char} (hp : p ≠ []) (s : List Char) : replaceAll p p s = s := by
  induction s using cut_induction hp with
  | whole s h => exact replaceAll_of_cut?_none hp h p
  | first s a b h ih => rw [replaceAll_of_cut?_some hp h, ih, ← cut?_eq_some h]

theorem length_replaceAll_le {p v w : List Char} (hp : p ≠ []) (h : v.length ≤ w.length)
    (s : List Char) : (replaceAll p v s).length ≤ (replaceAll p w s).length := by
  induction s using cut_induction hp with
  | whole s hs => simp only [replaceAll_of_cut?_none hp hs, Nat.le_refl]
  | first s a b hs ih =>
    rw [replaceAll_of_cut?_some hp hs, replaceAll_of_cut?_some hp hs]
    simp only [List.length_append]
    omega

/-- A text no longer than the pattern makes the whole no longer if it replaces it everywhere. -/
theorem length_replaceAll_le_replaceFirst {p v : List Char} (hp : p ≠ [])
    (h : v.length ≤ p.length) (s : List Char) :
    (replaceAll p v s).length ≤ (replaceFirst p v s).length := by
  unfold replaceFirst
  cases hs : cut? p s with
  | none => simp [replaceAll_of_cut?_none hp hs]
  | some x =>
    have rest := length_replaceAll_le hp h x.2
    rw [replaceAll_self hp] at rest
    simp only [replaceAll_of_cut?_some hp hs, List.length_append]
    omega

theorem length_replaceFirst_le_replaceAll {p v : List Char} (hp : p ≠ [])
    (h : p.length ≤ v.length) (s : List Char) :
    (replaceFirst p v s).length ≤ (replaceAll p v s).length := by
  unfold replaceFirst
  cases hs : cut? p s with
  | none => simp [replaceAll_of_cut?_none hp hs]
  | some x =>
    have rest := length_replaceAll_le hp h x.2
    rw [replaceAll_self hp] at rest
    simp only [replaceAll_of_cut?_some hp hs, List.length_append]
    omega

/-- A replacement that changes nothing puts the pattern itself in its place. -/
theorem eq_of_replaceAll_eq_self {p v s : List Char} (hp : p ≠ []) (h : replaceAll p v s = s)
    (mentions : occursIn p s = true) : v = p := by
  obtain ⟨⟨a, b⟩, hs⟩ := Option.isSome_iff_exists.1 mentions
  have parts := (replaceAll_of_cut?_some hp hs v).symm.trans (h.trans (cut?_eq_some hs))
  rw [List.append_assoc, List.append_assoc, List.append_cancel_left_eq] at parts
  have lengths := congrArg List.length parts
  simp only [List.length_append] at lengths
  have whole := congrArg List.length (replaceAll_self hp b)
  rcases Nat.le_total v.length p.length with le | le
  · have := length_replaceAll_le hp le b
    exact (List.append_inj parts (by omega)).1
  · have := length_replaceAll_le hp le b
    exact (List.append_inj parts (by omega)).1

theorem replaceFirst_eq_replaceAll_iff {p v s : List Char} (hp : p ≠ []) :
    replaceFirst p v s = replaceAll p v s ↔ (splitOn p s).length ≤ 2 ∨ v = p := by
  constructor
  · intro same
    by_cases once : (splitOn p s).length ≤ 2
    · exact .inl once
    cases hs : cut? p s with
    | none =>
      rw [splitOn_of_cut?_none hp hs] at once
      exact absurd (Nat.le_succ 1) once
    | some x =>
      obtain ⟨a, b⟩ := x
      rw [replaceFirst, hs, replaceAll_of_cut?_some hp hs, List.append_cancel_left_eq] at same
      rw [splitOn_of_cut?_some hp hs, List.length_cons] at once
      exact .inr (eq_of_replaceAll_eq_self hp same.symm
        ((two_le_length_splitOn_iff hp).1 (by omega)))
  · rintro (once | rfl)
    · exact replaceFirst_eq_replaceAll hp once v
    · rw [replaceFirst_self, replaceAll_self hp]

/-! ## Pieces between single characters -/

theorem cut?_singleton_eq_none_iff {d : Char} {s : List Char} : cut? [d] s = none ↔ d ∉ s := by
  rw [cut?_eq_none_iff]
  constructor
  · intro h hd
    obtain ⟨a, b, rfl⟩ := List.append_of_mem hd
    exact h a b (by simp)
  · rintro h a b rfl
    exact h (by simp)

/-- A text of two pieces. -/
theorem splitOn_singleton_eq_pair {d : Char} {s a b : List Char} :
    splitOn [d] s = [a, b] ↔ s = a ++ d :: b ∧ d ∉ a ∧ d ∉ b := by
  have hp : [d] ≠ [] := by simp
  constructor
  · intro h
    cases cut : cut? [d] s with
    | none =>
      rw [splitOn_of_cut?_none hp cut] at h
      cases h
    | some x =>
      obtain ⟨a', b'⟩ := x
      rw [splitOn_of_cut?_some hp cut] at h
      obtain ⟨rfl, rest⟩ := List.cons.inj h
      obtain ⟨rfl, least⟩ := cut?_eq_some_iff.1 cut
      have first : d ∉ a' := by
        intro hd
        obtain ⟨u, w, rfl⟩ := List.append_of_mem hd
        have := least u (w ++ [d] ++ b') (by simp)
        simp only [List.length_append, List.length_cons] at this
        omega
      cases more : cut? [d] b' with
      | none =>
        rw [splitOn_of_cut?_none hp more] at rest
        obtain rfl := List.singleton_inj.1 rest
        exact ⟨by simp, first, cut?_singleton_eq_none_iff.1 more⟩
      | some y =>
        rw [splitOn_of_cut?_some (a := y.1) (b := y.2) hp more] at rest
        have := one_le_length_splitOn hp y.2
        rw [(List.cons.inj rest).2] at this
        exact absurd this (by decide)
  · rintro ⟨rfl, ha, hb⟩
    have cut : cut? [d] (a ++ d :: b) = some (a, b) := cut?_append_of_not_mem ha b
    rw [splitOn_of_cut?_some hp cut,
      splitOn_of_cut?_none hp (cut?_singleton_eq_none_iff.2 hb)]

/-! ## Trimming -/

/-- The code points of the blank characters. -/
def blankCodes : List Nat :=
  [9, 10, 11, 12, 13, 0x20, 0x85, 0xa0, 0x1680, 0x2000, 0x2001, 0x2002, 0x2003, 0x2004, 0x2005,
    0x2006, 0x2007, 0x2008, 0x2009, 0x200a, 0x2028, 0x2029, 0x202f, 0x205f, 0x3000]

theorem toNat_mem_blankCodes {c : Char} (h : isBlank c = true) : c.toNat ∈ blankCodes := by
  simp only [isBlank, Bool.or_eq_true, Bool.and_eq_true, decide_eq_true_eq, beq_iff_eq] at h
  simp only [blankCodes, List.mem_cons, List.not_mem_nil, or_false]
  omega

theorem dropWhile_append_of_head {q : Char → Bool} {x s : List Char} (hx : ∀ c ∈ x, q c = true)
    (hs : ∀ c ∈ s.head?, q c = false) : (x ++ s).dropWhile q = s := by
  rw [List.dropWhile_append_of_pos hx]
  cases s with
  | nil => rfl
  | cons c s => exact List.dropWhile_cons_of_neg (by simp [hs c (by simp)])

theorem takeWhile_append_of_head {q : Char → Bool} {x s : List Char} (hx : ∀ c ∈ x, q c = true)
    (hs : ∀ c ∈ s.head?, q c = false) : (x ++ s).takeWhile q = x := by
  have stop : s.takeWhile q = [] := by
    cases s with
    | nil => rfl
    | cons c s => exact List.takeWhile_cons_of_neg (by simp [hs c (by simp)])
  rw [List.takeWhile_append_of_pos hx, stop, List.append_nil]

theorem dropWhile_append_cons {q : Char → Bool} {a : Char} (ha : q a = false) (x y : List Char) :
    (x ++ a :: y).dropWhile q = x.dropWhile q ++ a :: y := by
  have stop : (a :: y).dropWhile q = a :: y := List.dropWhile_cons_of_neg (by simp [ha])
  rw [List.dropWhile_append, stop]
  split
  · rename_i empty
    rw [List.isEmpty_iff.1 empty, List.nil_append]
  · rfl

theorem takeWhile_append_cons {q : Char → Bool} {a : Char} (ha : q a = false) (x y : List Char) :
    (x ++ a :: y).takeWhile q = x.takeWhile q := by
  have stop : (a :: y).takeWhile q = [] := List.takeWhile_cons_of_neg (by simp [ha])
  rw [List.takeWhile_append, stop, List.append_nil]
  split
  · exact ((List.takeWhile_prefix q).eq_of_length ‹_›).symm
  · rfl

/-- A text that neither starts nor ends with a character of a class. -/
structure Bare (q : Char → Bool) (s : List Char) : Prop where
  ne_nil : s ≠ []
  head : ∀ c ∈ s.head?, q c = false
  last : ∀ c ∈ s.getLast?, q c = false

instance (q : Char → Bool) (s : List Char) : Decidable (Bare q s) :=
  decidable_of_iff (s ≠ [] ∧ s.head?.any q = false ∧ s.getLast?.any q = false)
    ⟨fun h => ⟨h.1, (Option.any_eq_false q _).1 h.2.1, (Option.any_eq_false q _).1 h.2.2⟩,
      fun h => ⟨h.ne_nil, (Option.any_eq_false q _).2 h.head, (Option.any_eq_false q _).2 h.last⟩⟩

/-- Characters outside of a class may be put around a text. -/
theorem Bare.replicate {q : Char → Bool} {s : List Char} (h : Bare q s) {a : Char}
    (ha : q a = false) (m n : Nat) :
    Bare q (List.replicate m a ++ s ++ List.replicate n a) where
  ne_nil := by simp [h.ne_nil]
  head := by
    intro c hc
    cases m with
    | zero =>
      obtain ⟨d, s, rfl⟩ := List.exists_cons_of_ne_nil h.ne_nil
      exact h.head c (by simpa using hc)
    | succ m =>
      obtain rfl : a = c := by simpa [List.replicate_succ] using hc
      exact ha
  last := by
    intro c hc
    cases n with
    | zero =>
      rw [List.replicate_zero, List.append_nil, List.getLast?_append_of_ne_nil _ h.ne_nil] at hc
      exact h.last c hc
    | succ n =>
      obtain rfl : a = c := by simpa [List.replicate_succ'] using hc
      exact ha

/-- Trimming takes away just what was put around a bare text. -/
theorem trimBy_wrapped {q : Char → Bool} {x s y : List Char} (hx : ∀ c ∈ x, q c = true)
    (hy : ∀ c ∈ y, q c = true) (hs : Bare q s) : trimBy q (x ++ s ++ y) = s := by
  have head : ∀ c ∈ (s ++ y).head?, q c = false := by
    rw [List.head?_append_of_ne_nil _ hs.ne_nil]
    exact hs.head
  have front : (x ++ s ++ y).dropWhile q = s ++ y := by
    rw [List.append_assoc]
    exact dropWhile_append_of_head hx head
  have back : (s ++ y).reverse.dropWhile q = s.reverse := by
    rw [List.reverse_append]
    refine dropWhile_append_of_head (fun c hc => hy c (List.mem_reverse.1 hc)) ?_
    rw [List.head?_reverse]
    exact hs.last
  rw [trimBy, front, back, List.reverse_reverse]

theorem trimBy_replicate {a : Char} {s : List Char} (hs : Bare (· == a) s) (m n : Nat) :
    trimBy (· == a) (List.replicate m a ++ s ++ List.replicate n a) = s := by
  have all : ∀ k, ∀ c ∈ List.replicate k a, (c == a) = true := by
    intro k c hc
    rw [List.eq_of_mem_replicate hc, beq_self_eq_true]
  exact trimBy_wrapped (all m) (all n) hs

/-- Blanks that are gone already make no difference to trimming. -/
theorem trimBy_dropWhile {q r : Char → Bool} (h : ∀ c, r c = true → q c = true) (s : List Char) :
    trimBy q (s.dropWhile r) = trimBy q s := by
  have start : (s.dropWhile r).dropWhile q = s.dropWhile q := by
    induction s with
    | nil => rfl
    | cons c s ih =>
      cases hr : r c with
      | true =>
        rw [List.dropWhile_cons_of_pos hr, List.dropWhile_cons_of_pos (h c hr), ih]
      | false => rw [List.dropWhile_cons_of_neg (by simp [hr])]
  rw [trimBy, trimBy, start]

theorem trimBy_of_bare {q : Char → Bool} {s : List Char} (h : Bare q s) : trimBy q s = s := by
  have whole := trimBy_wrapped (x := []) (y := []) (by simp) (by simp) h
  rwa [List.nil_append, List.append_nil] at whole

/-- What is trimmed away are characters of the class at both ends. -/
theorem exists_eq_trimBy (q : Char → Bool) (s : List Char) :
    ∃ x y, s = x ++ trimBy q s ++ y ∧ (∀ c ∈ x, q c = true) ∧ ∀ c ∈ y, q c = true := by
  have ends : ∀ t : List Char, ∀ c ∈ t.takeWhile q, q c = true :=
    fun t => List.all_eq_true.1 List.all_takeWhile
  refine ⟨s.takeWhile q, ((s.dropWhile q).reverse.takeWhile q).reverse, ?_, ends s,
    fun c hc => ends _ c (List.mem_reverse.1 hc)⟩
  rw [trimBy, List.append_assoc, ← List.reverse_append, List.takeWhile_append_dropWhile,
    List.reverse_reverse, List.takeWhile_append_dropWhile]

/-- A character of another class stops trimming from both ends. -/
theorem trimBy_append_cons {q : Char → Bool} {a : Char} (ha : q a = false) (x y : List Char) :
    ∃ x' y', trimBy q (x ++ a :: y) = x' ++ a :: y' ∧ x' <:+ x := by
  refine ⟨x.dropWhile q, (y.reverse.dropWhile q).reverse, ?_, List.dropWhile_suffix q⟩
  have back : (x.dropWhile q ++ a :: y).reverse =
      y.reverse ++ a :: (x.dropWhile q).reverse := by simp
  rw [trimBy, dropWhile_append_cons ha, back, dropWhile_append_cons ha, List.reverse_append,
    List.reverse_cons, List.reverse_reverse, List.append_assoc, List.singleton_append]

/-- What is left has no character of the class at an end. -/
theorem bare_trimBy {q : Char → Bool} {s : List Char} (ne : trimBy q s ≠ []) :
    Bare q (trimBy q s) where
  ne_nil := ne
  head := by
    intro c hc
    have start : (s.dropWhile q).head? = some c := by
      obtain ⟨x, hx⟩ : trimBy q s <+: s.dropWhile q := by
        rw [trimBy, ← List.reverse_suffix, List.reverse_reverse]
        exact List.dropWhile_suffix q
      rw [← hx, List.head?_append_of_ne_nil _ ne]
      exact hc
    have := List.head?_dropWhile_not q s
    rw [start] at this
    simpa using this
  last := by
    intro c hc
    rw [trimBy, List.getLast?_reverse] at hc
    have := List.head?_dropWhile_not q (s.dropWhile q).reverse
    rw [show _ = some c from hc] at this
    simpa using this

theorem trimBy_ne_nil {q : Char → Bool} {s : List Char} {c : Char} (hc : c ∈ s)
    (hq : q c = false) : trimBy q s ≠ [] := by
  intro h
  obtain ⟨x, y, hs, hx, hy⟩ := exists_eq_trimBy q s
  rw [h, List.append_nil] at hs
  rw [hs, List.mem_append] at hc
  rcases hc with hc | hc
  · rw [hx c hc] at hq
    cases hq
  · rw [hy c hc] at hq
    cases hq

theorem Bare.eq_nil_of_append {q : Char → Bool} {s t : List Char} (h : Bare q (s ++ t))
    (ht : ∀ c ∈ t, q c = true) : t = [] := by
  rcases List.eq_nil_or_concat' t with rfl | ⟨u, c, rfl⟩
  · rfl
  · have last : (s ++ (u ++ [c])).getLast? = some c := by
      rw [← List.append_assoc, List.getLast?_concat]
    have hc := ht c (by simp)
    rw [h.last c last] at hc
    cases hc

/-- Two bare texts with anything in between. -/
theorem Bare.append {q : Char → Bool} {s t : List Char} (hs : Bare q s) (ht : Bare q t)
    (m : List Char) : Bare q (s ++ (m ++ t)) where
  ne_nil := by simp [hs.ne_nil]
  head := by
    rw [List.head?_append_of_ne_nil _ hs.ne_nil]
    exact hs.head
  last := by
    have ne : m ++ t ≠ [] := by simp [ht.ne_nil]
    rw [List.getLast?_append_of_ne_nil _ ne, List.getLast?_append_of_ne_nil _ ht.ne_nil]
    exact ht.last

end Colloquy.Text
