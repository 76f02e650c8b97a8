import Colloquy.Toml.Printer
import Colloquy.Proofs.Text
import Mathlib.Tactic.SplitIfs

/-!
# Texts as TOML strings

Any text is read back from the form in which it is written (`readText?_writeText`). On one line the
text ends at the next mark that is not escaped. Over several lines it ends at three marks in a row,
and up to two marks right before these belong to the text: so the writer never leaves three of them
in a row, and what is left of a text at any point starts with two marks at most, or with something
else behind fewer (`escapeLong_cases`, `longestRunFrom_cases`).
-/

namespace Colloquy.Toml

/-! ## Characters -/

/-- The two digits of a control in an escape. -/
def hexDigits (n : Nat) : List Char :=
  (Nat.toDigits 16 (n / 16) ++ Nat.toDigits 16 (n % 16)).map Char.toUpper

theorem readHex?_hexDigits {n : Nat} (h : n < 0x80) :
    ∃ a b, hexDigits n = [a, b] ∧ Json.readHex? 0 ['0', '0', a, b] = some n := by
  have checked : ∀ m : Fin 0x80, (hexDigits m).length = 2 ∧
      Json.readHex? 0 ('0' :: '0' :: hexDigits m) = some m.val := by
    decide +kernel
  obtain ⟨two, read⟩ := checked ⟨n, h⟩
  obtain ⟨a, b, digits⟩ := List.length_eq_two.1 two
  simp only at digits read
  rw [digits] at read
  exact ⟨a, b, digits, read⟩

theorem lt_of_isControl {c : Char} (h : isControl c = true) : c.toNat < 0x80 := by
  simp only [isControl, Bool.and_eq_true, Bool.or_eq_true, decide_eq_true_eq, beq_iff_eq] at h
  omega

theorem isPlain_of_not_isControl {c : Char} (h : isControl c = false) (newLine : c ≠ '\n') :
    isPlain c = true := by
  by_cases tab : c = '\t'
  · subst tab
    rfl
  · simp only [isControl, Bool.and_eq_false_iff, Bool.or_eq_false_iff, decide_eq_false_iff_not,
      beq_eq_false_iff_ne, bne_eq_false_iff_eq, tab, newLine, or_false] at h
    simp only [isPlain, Bool.or_eq_true, Bool.and_eq_true, decide_eq_true_eq, bne_iff_ne]
    exact .inr ⟨by omega, h.2⟩

/-- A character other than a line feed is written as it is, where it may stand in a text, or as an
escape that stands for it. -/
theorem escape_cases {c : Char} (newLine : c ≠ '\n') :
    (∃ t, escape c = '\\' :: t ∧ (∀ rest, unescape? (t ++ rest) = some (c, rest)) ∧
      ∀ rest, afterFold? (t ++ rest) = none) ∨
    escape c = [c] ∧ c ≠ '\\' ∧ isPlain c = true := by
  by_cases h₁ : c = '\x08'
  · subst c
    exact .inl ⟨['b'], rfl, fun _ => rfl, fun _ => rfl⟩
  by_cases h₂ : c = '\t'
  · subst c
    exact .inl ⟨['t'], rfl, fun _ => rfl, fun _ => rfl⟩
  by_cases h₃ : c = '\x0c'
  · subst c
    exact .inl ⟨['f'], rfl, fun _ => rfl, fun _ => rfl⟩
  by_cases h₄ : c = '\r'
  · subst c
    exact .inl ⟨['r'], rfl, fun _ => rfl, fun _ => rfl⟩
  by_cases h₅ : c = '\\'
  · subst c
    exact .inl ⟨['\\'], rfl, fun _ => rfl, fun _ => rfl⟩
  cases control : isControl c with
  | true =>
    have below := lt_of_isControl control
    obtain ⟨a, b, digits, read⟩ := readHex?_hexDigits below
    have valid : c.toNat.isValidChar := by
      left
      omega
    refine .inl ⟨['u', '0', '0', a, b], ?_, fun rest => ?_, fun rest => rfl⟩
    · rw [hexDigits] at digits
      simp [escape, h₁, h₂, h₃, h₄, h₅, control, digits]
    · simp only [List.cons_append, List.nil_append, unescape?, read, Option.bind_some, charOf?,
        if_pos valid, Char.ofNat_toNat, Option.map_some]
  | false =>
    refine .inr ⟨?_, h₅, isPlain_of_not_isControl control newLine⟩
    simp [escape, h₁, h₂, h₃, h₄, h₅, control]

theorem escape_ne_nil (c : Char) : escape c ≠ [] := by
  by_cases newLine : c = '\n'
  · subst newLine
    decide
  rcases escape_cases newLine with ⟨t, written, -⟩ | ⟨written, -⟩ <;> simp [written]

/-! ## Strings on one line -/

theorem readBasic?_plain (n : Nat) (done : List Char) {c : Char} (rest : List Char)
    (quote : c ≠ '"') (backslash : c ≠ '\\') (plain : isPlain c = true) :
    readBasic? (n + 1) done (c :: rest) = readBasic? n (c :: done) rest := by
  rw [readBasic?]
  · rw [if_pos plain]
  · exact quote
  · exact backslash

theorem readBasic?_escaped (n : Nat) (done : List Char) {c : Char} {t : List Char}
    (rest : List Char) (h : unescape? (t ++ rest) = some (c, rest)) :
    readBasic? (n + 1) done ('\\' :: t ++ rest) = readBasic? n (c :: done) rest := by
  rw [List.cons_append, readBasic?, h]

/-- The inside of a string on one line is read up to its closing quotation mark. -/
theorem readBasic?_escapeShort (s rest done : List Char) {n : Nat} (h : s.length < n) :
    readBasic? n done (escapeShort s ++ '"' :: rest) = some (done.reverse ++ s, rest) := by
  induction s generalizing n done with
  | nil =>
    obtain ⟨n, rfl⟩ := Nat.exists_eq_add_of_lt h
    simp [escapeShort, readBasic?]
  | cons c s ih =>
    obtain ⟨n, rfl⟩ : ∃ m, n = m + 1 := ⟨n - 1, by omega⟩
    rw [List.length_cons] at h
    have next := ih (c :: done) (n := n) (by omega)
    rw [List.reverse_cons, List.append_assoc] at next
    rw [escapeShort, List.flatMap_cons, ← escapeShort, List.append_assoc]
    by_cases quote : c = '"'
    · rw [if_pos quote]
      exact (readBasic?_escaped n done _ (by rw [quote]; rfl)).trans next
    rw [if_neg quote]
    by_cases newLine : c = '\n'
    · rw [if_pos newLine]
      exact (readBasic?_escaped n done _ (by rw [newLine]; rfl)).trans next
    rw [if_neg newLine]
    rcases escape_cases newLine with ⟨t, written, stands, -⟩ | ⟨written, backslash, plain⟩
    · rw [written, readBasic?_escaped n done _ (stands _)]
      exact next
    · rw [written]
      exact (readBasic?_plain n done _ quote backslash plain).trans next

theorem length_le_length_escapeShort (s : List Char) : s.length ≤ (escapeShort s).length := by
  induction s with
  | nil => exact Nat.le_refl _
  | cons c s ih =>
    rw [escapeShort, List.flatMap_cons, ← escapeShort, List.length_append, List.length_cons]
    have one : 1 ≤ (if c = '"' then ['\\', '"'] else
        if c = '\n' then ['\\', 'n'] else escape c).length := by
      split_ifs
      · decide
      · decide
      · exact List.length_pos_iff.2 (escape_ne_nil c)
    omega

/-- The inside of a string between apostrophes is read up to the closing one. -/
theorem readLiteral?_append {s : List Char} (mark : '\x27' ∉ s) (plain : ∀ c ∈ s, isPlain c = true)
    (rest done : List Char) :
    readLiteral? done (s ++ '\x27' :: rest) = some (done.reverse ++ s, rest) := by
  induction s generalizing done with
  | nil => simp [readLiteral?]
  | cons c s ih =>
    rw [List.mem_cons, not_or] at mark
    rw [List.forall_mem_cons] at plain
    rw [List.cons_append, readLiteral?, if_neg (Ne.symm mark.1), if_pos plain.1,
      ih mark.2 plain.2, List.reverse_cons, List.append_assoc]
    rfl

/-! ## Marks in a row -/

section

variable {mark : Char} {t : List Char}

theorem atThree_replicate (h : t.head? ≠ some mark) (q : Nat) :
    atThree mark (List.replicate q mark ++ t) = decide (3 ≤ q) := by
  match q with
  | 0 =>
    match t with
    | [] | [_] | [_, _] => rfl
    | a :: b :: c :: rest =>
      have other : a ≠ mark := fun same => h (by rw [same]; rfl)
      simp [atThree, other]
  | 1 =>
    match t with
    | [] | [_] => rfl
    | a :: b :: rest =>
      have other : a ≠ mark := fun same => h (by rw [same]; rfl)
      simp [atThree, other]
  | 2 =>
    match t with
    | [] => rfl
    | a :: rest =>
      have other : a ≠ mark := fun same => h (by rw [same]; rfl)
      simp [atThree, other]
  | q + 3 => simp [atThree, List.replicate_succ]

theorem closing?_replicate (h : t.head? ≠ some mark) {q : Nat} (few : q ≤ 2) :
    closing? mark (List.replicate (q + 3) mark ++ t) = some (List.replicate q mark, t) := by
  have marks : (List.replicate (q + 3) mark ++ t).takeWhile (· == mark) =
      List.replicate (q + 3) mark := by
    refine Text.takeWhile_append_of_head (by simp) fun c first => ?_
    rw [beq_eq_false_iff_ne]
    rintro rfl
    exact h first
  simp only [closing?, marks, List.length_replicate]
  rw [if_pos (by omega), Nat.add_sub_cancel, List.drop_left' (List.length_replicate ..)]

end

theorem afterBreak?_of_isPlain {c : Char} (plain : isPlain c = true) (rest : List Char) :
    afterBreak? (c :: rest) = none := by
  rw [afterBreak?]
  · rintro _ h
    cases h
    cases plain
  · rintro _ h
    cases h
    cases plain

/-! ## Strings over several lines -/

/-- A text with escapes starts with at most as many marks as may still come in a row: it holds
nothing else, or something else follows. -/
theorem escapeLong_cases {run : Nat} (h : run ≤ 2) (s : List Char) :
    (∃ q, q + run ≤ 2 ∧ s = List.replicate q '"' ∧ escapeLong run s = List.replicate q '"') ∨
    ∃ q c t, q + run ≤ 2 ∧ c ≠ '"' ∧ escapeLong run s = List.replicate q '"' ++ c :: t := by
  induction s generalizing run with
  | nil => exact .inl ⟨0, by omega, rfl, rfl⟩
  | cons c s ih =>
    rw [escapeLong]
    by_cases quote : c = '"'
    · rw [if_pos quote, quote]
      by_cases third : run = 2
      · rw [if_pos third]
        exact .inr ⟨0, '\\', _, by omega, by decide, rfl⟩
      rw [if_neg third]
      rcases ih (show run + 1 ≤ 2 by omega) with
        ⟨q, few, rfl, written⟩ | ⟨q, d, t, few, other, written⟩
      · exact .inl ⟨q + 1, by omega, rfl, by rw [written]; rfl⟩
      · exact .inr ⟨q + 1, d, t, by omega, other, by rw [written]; rfl⟩
    rw [if_neg quote]
    by_cases newLine : c = '\n'
    · rw [if_pos newLine]
      exact .inr ⟨0, '\n', _, by omega, by decide, rfl⟩
    rw [if_neg newLine]
    rcases escape_cases newLine with ⟨t, written, -⟩ | ⟨written, -⟩
    · rw [written]
      exact .inr ⟨0, '\\', _, by omega, by decide, rfl⟩
    · rw [written]
      exact .inr ⟨0, c, _, by omega, quote, rfl⟩

section

variable (n : Nat) (done : List Char)

theorem readLongBasic?_closing {rest : List Char} (h : rest.head? ≠ some '"') {q : Nat}
    (few : q ≤ 2) :
    readLongBasic? (n + 1) done (List.replicate (q + 3) '"' ++ rest) =
      some (done.reverse ++ List.replicate q '"', rest) := by
  unfold readLongBasic?
  rw [atThree_replicate h, if_pos (by simp), closing?_replicate h few]
  rfl

theorem readLongBasic?_newLine (rest : List Char) :
    readLongBasic? (n + 1) done ('\n' :: rest) = readLongBasic? n ('\n' :: done) rest := by
  have other : atThree '"' ('\n' :: rest) = false := atThree_replicate (q := 0) (by simp)
  rw [readLongBasic?, if_neg (by simp [other])]
  · rfl
  · decide

theorem readLongBasic?_plain {c : Char} {rest : List Char} (other : atThree '"' (c :: rest) = false)
    (backslash : c ≠ '\\') (plain : isPlain c = true) :
    readLongBasic? (n + 1) done (c :: rest) = readLongBasic? n (c :: done) rest := by
  rw [readLongBasic?, if_neg (by simp [other]), afterBreak?_of_isPlain plain]
  · exact if_pos plain
  · exact backslash

theorem readLongBasic?_escaped {c : Char} {t : List Char} (rest : List Char)
    (stands : unescape? (t ++ rest) = some (c, rest)) (noFold : afterFold? (t ++ rest) = none) :
    readLongBasic? (n + 1) done ('\\' :: t ++ rest) = readLongBasic? n (c :: done) rest := by
  have other : atThree '"' ('\\' :: (t ++ rest)) = false := atThree_replicate (q := 0) (by simp)
  have noBreak : afterBreak? ('\\' :: (t ++ rest)) = none := afterBreak?_of_isPlain rfl _
  rw [List.cons_append, readLongBasic?, if_neg (by simp [other]), noBreak]
  simp only [noFold, stands]

end

/-- The inside of a string over several lines is read up to its closing marks. -/
theorem readLongBasic?_escapeLong {run : Nat} (few : run ≤ 2) (s : List Char) {rest : List Char}
    (h : rest.head? ≠ some '"') (done : List Char) {n : Nat} (fuel : s.length < n) :
    readLongBasic? n done (escapeLong run s ++ '"' :: '"' :: '"' :: rest) =
      some (done.reverse ++ s, rest) := by
  induction s generalizing run done n with
  | nil =>
    obtain ⟨n, rfl⟩ : ∃ m, n = m + 1 := ⟨n - 1, by omega⟩
    exact readLongBasic?_closing n done (q := 0) h (by omega)
  | cons c s ih =>
    obtain ⟨n, rfl⟩ : ∃ m, n = m + 1 := ⟨n - 1, by omega⟩
    rw [List.length_cons] at fuel
    have next (run : Nat) (few : run ≤ 2) :
        readLongBasic? n (c :: done) (escapeLong run s ++ '"' :: '"' :: '"' :: rest) =
          some (done.reverse ++ c :: s, rest) := by
      rw [ih few (c :: done) (by omega), List.reverse_cons, List.append_assoc]
      rfl
    rcases escapeLong_cases few (c :: s) with
      ⟨q, fewer, marks, written⟩ | ⟨q, d, t, fewer, other, written⟩
    · -- Nothing but marks is left, and they are read together with the closing ones.
      have closing := readLongBasic?_closing n done h (q := q) (by omega)
      rw [written, marks]
      rwa [← List.replicate_append_replicate, List.append_assoc] at closing
    have notThree : atThree '"' (escapeLong run (c :: s) ++ '"' :: '"' :: '"' :: rest) = false := by
      rw [written, List.append_assoc, atThree_replicate (by simpa using other)]
      simp; omega
    rw [escapeLong] at notThree ⊢
    by_cases quote : c = '"'
    · rw [if_pos quote] at notThree ⊢
      by_cases third : run = 2
      · rw [if_pos third]
        refine (readLongBasic?_escaped n done (t := ['"']) _ rfl rfl).trans ?_
        exact quote ▸ next 0 (by omega)
      · rw [if_neg third] at notThree ⊢
        refine (readLongBasic?_plain n done notThree (by decide) (by decide)).trans ?_
        exact quote ▸ next (run + 1) (by omega)
    rw [if_neg quote] at notThree ⊢
    by_cases newLine : c = '\n'
    · rw [if_pos newLine]
      refine (readLongBasic?_newLine n done _).trans ?_
      exact newLine ▸ next 0 (by omega)
    rw [if_neg newLine] at notThree ⊢
    rcases escape_cases newLine with ⟨t, escaped, stands, noFold⟩ | ⟨plainly, backslash, plain⟩
    · rw [escaped, List.append_assoc, readLongBasic?_escaped n done _ (stands _) (noFold _)]
      exact next 0 (by omega)
    · rw [plainly] at notThree ⊢
      refine (readLongBasic?_plain n done notThree backslash plain).trans ?_
      exact next 0 (by omega)

/-! ## Strings over several lines as they are -/

theorem le_longestRunFrom (mark : Char) (run best : Nat) (s : List Char) :
    best ≤ longestRunFrom mark run best s := by
  induction s generalizing run best with
  | nil =>
    rw [longestRunFrom]
    exact Nat.le_max_right ..
  | cons c s ih =>
    rw [longestRunFrom]
    split_ifs
    · exact ih _ _
    · exact Nat.le_trans (Nat.le_max_right ..) (ih _ _)

/-- A text without long runs of a mark starts with few of them: it holds nothing else, or something
else follows. -/
theorem longestRunFrom_cases {mark : Char} {run best : Nat} {s : List Char}
    (h : longestRunFrom mark run best s ≤ 2) :
    (∃ q, q + run ≤ 2 ∧ s = List.replicate q mark) ∨
    ∃ q c t, q + run ≤ 2 ∧ c ≠ mark ∧ s = List.replicate q mark ++ c :: t := by
  induction s generalizing run best with
  | nil =>
    rw [longestRunFrom] at h
    exact .inl ⟨0, by omega, rfl⟩
  | cons c s ih =>
    rw [longestRunFrom] at h
    by_cases same : c = mark
    · rw [if_pos same] at h
      rcases ih h with ⟨q, few, rfl⟩ | ⟨q, d, t, few, other, rfl⟩
      · exact .inl ⟨q + 1, by omega, by rw [same]; rfl⟩
      · exact .inr ⟨q + 1, d, t, by omega, other, by rw [same]; rfl⟩
    · rw [if_neg same] at h
      have bound := le_longestRunFrom mark 0 (max run best) s
      exact .inr ⟨0, c, s, by omega, same, rfl⟩

section

variable (n : Nat) (done : List Char)

theorem readLongLiteral?_closing {rest : List Char} (h : rest.head? ≠ some '\x27') {q : Nat}
    (few : q ≤ 2) :
    readLongLiteral? (n + 1) done (List.replicate (q + 3) '\x27' ++ rest) =
      some (done.reverse ++ List.replicate q '\x27', rest) := by
  unfold readLongLiteral?
  rw [atThree_replicate h, if_pos (by simp), closing?_replicate h few]
  rfl

theorem readLongLiteral?_next {c : Char} {rest : List Char}
    (other : atThree '\x27' (c :: rest) = false) (kept : c = '\n' ∨ isPlain c = true) :
    readLongLiteral? (n + 1) done (c :: rest) = readLongLiteral? n (c :: done) rest := by
  rw [readLongLiteral?, if_neg (by simp [other])]
  rcases kept with rfl | plain
  · rfl
  · rw [afterBreak?_of_isPlain plain]
    exact if_pos plain

end

/-- The inside of a string between three apostrophes is read up to the closing ones. -/
theorem readLongLiteral?_append {run best : Nat} {s : List Char}
    (few : longestRunFrom '\x27' run best s ≤ 2) (kept : ∀ c ∈ s, c = '\n' ∨ isPlain c = true)
    {rest : List Char} (h : rest.head? ≠ some '\x27') (done : List Char) {n : Nat}
    (fuel : s.length < n) :
    readLongLiteral? n done (s ++ '\x27' :: '\x27' :: '\x27' :: rest) =
      some (done.reverse ++ s, rest) := by
  induction s generalizing run best done n with
  | nil =>
    obtain ⟨n, rfl⟩ : ∃ m, n = m + 1 := ⟨n - 1, by omega⟩
    exact readLongLiteral?_closing n done (q := 0) h (by omega)
  | cons c s ih =>
    obtain ⟨n, rfl⟩ : ∃ m, n = m + 1 := ⟨n - 1, by omega⟩
    rw [List.length_cons] at fuel
    rw [List.forall_mem_cons] at kept
    rcases longestRunFrom_cases few with ⟨q, fewer, marks⟩ | ⟨q, d, t, fewer, other, begins⟩
    · have closing := readLongLiteral?_closing n done h (q := q) (by omega)
      rw [marks]
      rwa [← List.replicate_append_replicate, List.append_assoc] at closing
    have notThree : atThree '\x27' (c :: s ++ '\x27' :: '\x27' :: '\x27' :: rest) = false := by
      rw [begins, List.append_assoc, atThree_replicate (by simpa using other)]
      simp; omega
    have few' : ∃ run best, longestRunFrom '\x27' run best s ≤ 2 := by
      rw [longestRunFrom] at few
      split_ifs at few
      · exact ⟨_, _, few⟩
      · exact ⟨_, _, few⟩
    obtain ⟨run, best, few'⟩ := few'
    rw [List.cons_append] at notThree ⊢
    refine (readLongLiteral?_next n done notThree kept.1).trans ?_
    rw [ih few' kept.2 (c :: done) (by omega), List.reverse_cons, List.append_assoc]
    rfl

/-! ## All forms -/

theorem skipBreak_of_isPlain {s : List Char} (h : ∀ c ∈ s.head?, isPlain c = true) :
    skipBreak s = s := by
  cases s with
  | nil => rfl
  | cons c s => rw [skipBreak, afterBreak?_of_isPlain (h c rfl), Option.getD_none]

theorem openingBreak_of_mem {s : List Char} (h : '\n' ∈ s) : openingBreak s = ['\n'] :=
  if_pos (List.contains_iff_mem.2 h)

theorem openingBreak_of_not_mem {s : List Char} (h : '\n' ∉ s) : openingBreak s = [] :=
  if_neg fun found => h (List.contains_iff_mem.1 found)

/-- The line break after the opening marks does not belong to the text. -/
theorem skipBreak_openingBreak {s t : List Char}
    (h : '\n' ∉ s → ∀ c ∈ t.head?, isPlain c = true) : skipBreak (openingBreak s ++ t) = t := by
  by_cases lines : '\n' ∈ s
  · rw [openingBreak_of_mem lines]
    rfl
  · rw [openingBreak_of_not_mem lines]
    exact skipBreak_of_isPlain (h lines)

theorem isPlain_head?_escapeLong {run : Nat} {s t : List Char} (lines : '\n' ∉ s)
    (h : ∀ c ∈ t.head?, isPlain c = true) :
    ∀ c ∈ (escapeLong run s ++ t).head?, isPlain c = true := by
  cases s with
  | nil => exact h
  | cons d s =>
    have newLine : d ≠ '\n' := fun same => lines (same ▸ List.mem_cons_self ..)
    rw [escapeLong, if_neg newLine]
    split_ifs with quote
    · rintro c ⟨⟩
      rfl
    · rintro c ⟨⟩
      rfl
    · rcases escape_cases newLine with ⟨u, written, -⟩ | ⟨written, -, plain⟩
      · rw [written]
        rintro c ⟨⟩
        rfl
      · rw [written]
        rintro c ⟨⟩
        exact plain

theorem length_le_length_escapeLong (run : Nat) (s : List Char) :
    s.length ≤ (escapeLong run s).length := by
  induction s generalizing run with
  | nil => exact Nat.zero_le _
  | cons c s ih =>
    rw [escapeLong]
    split_ifs
    · have := ih 0
      simp only [List.length_cons]
      omega
    · exact Nat.succ_le_succ (ih _)
    · exact Nat.succ_le_succ (ih _)
    · have := ih 0
      have := List.length_pos_iff.2 (escape_ne_nil c)
      rw [List.length_append, List.length_cons]
      omega

theorem head?_escapeShort_ne (s rest : List Char) (h : s ≠ []) :
    (escapeShort s ++ rest).head? ≠ some '"' := by
  cases s with
  | nil => exact absurd rfl h
  | cons c s =>
    rw [escapeShort, List.flatMap_cons]
    split_ifs with quote newLine
    · simp
    · simp
    · rcases escape_cases newLine with ⟨t, written, -⟩ | ⟨written, -⟩
      · rw [written]
        simp
      · rw [written]
        simpa using quote

theorem isPlain_or_newLine {s : List Char} (h : s.any isControl = false) :
    ∀ c ∈ s, c = '\n' ∨ isPlain c = true := by
  intro c mem
  by_cases newLine : c = '\n'
  · exact .inl newLine
  · exact .inr (isPlain_of_not_isControl (by simpa using List.any_eq_false.1 h c mem) newLine)

theorem isPlain_of_styleOf_literal {s : List Char} (h : styleOf s = .literal) :
    '\x27' ∉ s ∧ ∀ c ∈ s, isPlain c = true := by
  dsimp only [styleOf] at h
  split_ifs at h with _ fits
  simp only [Bool.and_eq_true, Bool.not_eq_true', List.contains_eq_mem, decide_eq_false_iff_not]
    at fits
  obtain ⟨⟨controls, mark⟩, lines⟩ := fits
  refine ⟨mark, fun c mem => (isPlain_or_newLine controls c mem).resolve_left ?_⟩
  rintro rfl
  exact lines mem

theorem isPlain_of_styleOf_longLiteral {s : List Char} (h : styleOf s = .longLiteral) :
    longestRun '\x27' s ≤ 2 ∧ ∀ c ∈ s, c = '\n' ∨ isPlain c = true := by
  dsimp only [styleOf] at h
  split_ifs at h with _ _ _ fits
  simp only [Bool.and_eq_true, Bool.not_eq_true', decide_eq_true_eq] at fits
  exact ⟨fits.2, isPlain_or_newLine fits.1⟩

/-- A string is read back, whatever its form, if no further mark follows. -/
theorem readText?_writeText (s : List Char) {rest : List Char} (quote : rest.head? ≠ some '"')
    (apostrophe : rest.head? ≠ some '\x27') :
    readText? (writeText s ++ rest) = some (s, rest) := by
  unfold writeText
  cases style : styleOf s with
  | basic =>
    have three : atThree '"' ('"' :: (escapeShort s ++ '"' :: rest)) = false := by
      by_cases none : s = []
      · rw [none]
        exact atThree_replicate quote 2
      · exact atThree_replicate (head?_escapeShort_ne s _ none) 1
    have other : atThree '\x27' ('"' :: (escapeShort s ++ '"' :: rest)) = false :=
      atThree_replicate (q := 0) (by simp)
    have fuel := length_le_length_escapeShort s
    simp only [List.cons_append, List.append_assoc, List.nil_append, readText?, three, other,
      Bool.false_eq_true, if_false, readShort?]
    refine readBasic?_escapeShort s rest [] ?_
    rw [List.length_append]
    omega
  | literal =>
    obtain ⟨mark, plain⟩ := isPlain_of_styleOf_literal style
    have three : atThree '"' ('\x27' :: (s ++ '\x27' :: rest)) = false :=
      atThree_replicate (q := 0) (by simp)
    have other : atThree '\x27' ('\x27' :: (s ++ '\x27' :: rest)) = false := by
      cases s with
      | nil => exact atThree_replicate apostrophe 2
      | cons c s =>
        exact atThree_replicate (t := c :: (s ++ '\x27' :: rest))
          (fun same => mark (Option.some.inj same ▸ List.mem_cons_self ..)) 1
    simp only [List.cons_append, List.append_assoc, List.nil_append, readText?, three, other,
      Bool.false_eq_true, if_false, readShort?]
    exact readLiteral?_append mark plain rest []
  | longBasic =>
    have fuel := length_le_length_escapeLong 0 s
    have skipped : skipBreak (openingBreak s ++ (escapeLong 0 s ++ '"' :: '"' :: '"' :: rest)) =
        escapeLong 0 s ++ '"' :: '"' :: '"' :: rest :=
      skipBreak_openingBreak fun lines => isPlain_head?_escapeLong lines (by simp; decide)
    simp only [List.cons_append, List.append_assoc, List.nil_append, readText?, atThree,
      beq_self_eq_true, Bool.and_self, if_true, List.drop_succ_cons, List.drop_zero, skipped]
    refine readLongBasic?_escapeLong (by omega) s quote [] ?_
    rw [List.length_append]
    omega
  | longLiteral =>
    obtain ⟨few, kept⟩ := isPlain_of_styleOf_longLiteral style
    have skipped : skipBreak (openingBreak s ++ (s ++ '\x27' :: '\x27' :: '\x27' :: rest)) =
        s ++ '\x27' :: '\x27' :: '\x27' :: rest := by
      refine skipBreak_openingBreak fun lines => ?_
      cases s with
      | nil =>
        rintro c ⟨⟩
        rfl
      | cons c s =>
        rintro c ⟨⟩
        exact (kept c (List.mem_cons_self ..)).resolve_left
          fun same => lines (same ▸ List.mem_cons_self ..)
    simp only [List.cons_append, List.append_assoc, List.nil_append, readText?, atThree,
      beq_self_eq_true, Bool.and_self, if_true, List.drop_succ_cons, List.drop_zero, skipped]
    refine readLongLiteral?_append few kept apostrophe [] ?_
    rw [List.length_append]
    omega

end Colloquy.Toml
