import Colloquy.Proofs.Tool.Misheard

/-!
# The first match of an action block

An action block is looked for with a pattern: a name mark, blanks, a greedy name, a gap that is as
short as possible, an input mark, blanks and the input (`actionPattern`). A search with backtracking
tries the matches at one place in a fixed order and the places from left to right (`search?`), and
the search for the first block finds what it finds (`search?_actionPattern`). Said without the
order of trying, this is the block of the leftmost name mark that starts any, with the longest name
that an input mark still follows, up to the first such mark (`IsFirstBlock`).
-/

namespace Colloquy

namespace Text

/-! ## Patterns -/

/-- A part of a pattern: a text as it stands, or at least so many characters of a class. Of a greedy
run the longest is tried first, of any other the shortest. What a captured run matches is kept. -/
inductive Part where
  | text (s : List Char)
  | run (q : Char → Bool) (least : Nat) (greedy captured : Bool)

/-- The runs of a class at the start of a text, each with what follows it, the shortest first. -/
def runs (q : Char → Bool) : List Char → List (List Char × List Char)
  | [] => [([], [])]
  | c :: cs => ([], c :: cs) :: if q c then (runs q cs).map fun r => (c :: r.1, r.2) else []

/-- The captures of all matches of a pattern at the start of a text, in the order in which the
matches are tried. -/
def captures : List Part → List Char → List (List (List Char))
  | [], _ => [[]]
  | .text p :: parts, s =>
    match afterStart? p s with
    | some rest => captures parts rest
    | none => []
  | .run q least greedy captured :: parts, s =>
    let tried := (runs q s).filter fun r => least ≤ r.1.length
    (if greedy then tried.reverse else tried).flatMap fun r =>
      (captures parts r.2).map fun found => if captured then r.1 :: found else found

/-- The captures of the leftmost match of a pattern, and of all matches there of the one that is
tried first. -/
def search? (parts : List Part) : List Char → Option (List (List Char))
  | [] => (captures parts []).head?
  | c :: cs =>
    match (captures parts (c :: cs)).head? with
    | some found => some found
    | none => search? parts cs

theorem head?_captures_run (q : Char → Bool) (least : Nat) (greedy captured : Bool)
    (parts : List Part) (s : List Char) :
    (captures (.run q least greedy captured :: parts) s).head? =
      (if greedy then ((runs q s).filter fun r => least ≤ r.1.length).reverse
        else (runs q s).filter fun r => least ≤ r.1.length).findSome? fun r =>
          (captures parts r.2).head?.map fun found => if captured then r.1 :: found else found := by
  rw [captures, List.head?_flatMap]
  simp only [List.head?_map]

/-! ## Greedy runs -/

/-- The beginnings of a word, each with what follows it, the longest first. The word is given
backwards. -/
def giveBack : List Char → List Char → List (List Char × List Char)
  | [], after => [([], after)]
  | c :: word, after => ((c :: word).reverse, after) :: giveBack word (c :: after)

theorem giveBack_concat (word : List Char) (c : Char) (after : List Char) :
    giveBack (word ++ [c]) after =
      (giveBack word after).map (fun r => (c :: r.1, r.2)) ++
        [([], c :: (word.reverse ++ after))] := by
  induction word generalizing after with
  | nil => rfl
  | cons d word ih =>
    rw [List.cons_append, giveBack, ih, giveBack]
    simp

/-- A greedy run gives back one character after the other. -/
theorem reverse_runs (q : Char → Bool) (s : List Char) :
    (runs q s).reverse = giveBack (s.takeWhile q).reverse (s.dropWhile q) := by
  induction s with
  | nil => rfl
  | cons c s ih =>
    cases hc : q c with
    | true =>
      rw [runs, if_pos hc, List.takeWhile_cons_of_pos hc, List.dropWhile_cons_of_pos hc,
        List.reverse_cons, List.reverse_cons, giveBack_concat, List.reverse_reverse,
        List.takeWhile_append_dropWhile, ← ih, List.map_reverse]
    | false =>
      rw [runs, hc, List.takeWhile_cons_of_neg (by simp [hc]),
        List.dropWhile_cons_of_neg (by simp [hc])]
      rfl

theorem exists_giveBack_eq_cons (word after : List Char) :
    ∃ rest, giveBack word after = (word.reverse, after) :: rest ∧
      ∀ r ∈ rest, ∃ c ∈ word, ∃ u, r.2 = c :: u := by
  induction word generalizing after with
  | nil => exact ⟨[], rfl, by simp⟩
  | cons c word ih =>
    obtain ⟨rest, hrest, later⟩ := ih (c :: after)
    refine ⟨_, rfl, fun r hr => ?_⟩
    rw [hrest, List.mem_cons] at hr
    rcases hr with rfl | hr
    · exact ⟨c, List.mem_cons_self .., after, rfl⟩
    · obtain ⟨d, hd, u, hu⟩ := later r hr
      exact ⟨d, List.mem_cons_of_mem _ hd, u, hu⟩

theorem filter_zero_le (l : List (List Char × List Char)) :
    (l.filter fun r => 0 ≤ r.1.length) = l := by
  simp

/-- What follows the longest run decides if it can be matched. -/
theorem head?_captures_greedy_of_some {q : Char → Bool} {parts : List Part} {s : List Char}
    {found : List (List Char)} (h : (captures parts (s.dropWhile q)).head? = some found)
    (captured : Bool) :
    (captures (.run q 0 true captured :: parts) s).head? =
      some (if captured then s.takeWhile q :: found else found) := by
  obtain ⟨rest, hrest, -⟩ :=
    exists_giveBack_eq_cons (s.takeWhile q).reverse (s.dropWhile q)
  rw [head?_captures_run, filter_zero_le, if_pos rfl, reverse_runs, hrest, List.findSome?_cons, h,
    List.reverse_reverse]
  rfl

/-- What follows the longest run decides if nothing that starts with a character of the class can be
matched. -/
theorem head?_captures_greedy {q : Char → Bool} {parts : List Part}
    (h : ∀ c u, q c = true → captures parts (c :: u) = []) (s : List Char) :
    (captures (.run q 0 true false :: parts) s).head? =
      (captures parts (s.dropWhile q)).head? := by
  obtain ⟨rest, hrest, later⟩ :=
    exists_giveBack_eq_cons (s.takeWhile q).reverse (s.dropWhile q)
  have shorter : (rest.findSome? fun r => (captures parts r.2).head?.map fun found =>
      if false = true then r.1 :: found else found) = none := by
    rw [List.findSome?_eq_none_iff]
    intro r hr
    obtain ⟨c, hc, u, hu⟩ := later r hr
    have class_c := List.all_eq_true.1 List.all_takeWhile c (List.mem_reverse.1 hc)
    rw [hu, h c u class_c]
    rfl
  rw [head?_captures_run, filter_zero_le, if_pos rfl, reverse_runs, hrest, List.findSome?_cons,
    shorter]
  cases (captures parts (s.dropWhile q)).head? <;> rfl

/-! ## Gaps -/

/-- The shortest gap ends where a text first occurs, if all that follows can be matched. -/
theorem head?_captures_gap {p : List Char} {parts : List Part} {f : List Char → List (List Char)}
    (h : ∀ s, (captures parts s).head? = some (f s)) (s : List Char) :
    (captures (.run (fun _ => true) 0 false false :: .text p :: parts) s).head? =
      (cut? p s).map fun c => f c.2 := by
  rw [head?_captures_run, filter_zero_le, if_neg (by simp)]
  induction s with
  | nil =>
    rw [runs, List.findSome?_singleton, captures, cut?, cutFrom?]
    cases p with
    | nil => simp [afterStart?, h]
    | cons a p => simp [afterStart?]
  | cons c s ih =>
    rw [runs, if_pos rfl, List.findSome?_cons, captures]
    cases start : afterStart? p (c :: s) with
    | some rest => simp [cut?_cons_of_start start, h]
    | none =>
      rw [cut?_cons_of_not_start start, Option.map_map, List.findSome?_map]
      exact ih

end Text

namespace Tool

open ActionBlock
open Text (Part captures search?)

/-! ## The pattern of an action block -/

/-- What an action block holds behind its name. -/
def inputPattern : List Part :=
  [.run (fun _ => true) 0 false false, .text inputMark, .run Text.isAsciiBlank 0 true false,
    .run (fun _ => true) 0 true true]

/-- The pattern of an action block; the name and the input are kept. -/
def actionPattern : List Part :=
  .text nameMark :: .run Text.isAsciiBlank 0 true false :: .run isNameChar 1 true true ::
    inputPattern

theorem head?_captures_inputPattern (s : List Char) :
    (captures inputPattern s).head? =
      (Text.cut? inputMark s).map fun c => [c.2.dropWhile Text.isAsciiBlank] := by
  refine Text.head?_captures_gap (f := fun s => [s.dropWhile Text.isAsciiBlank]) (fun s => ?_) s
  have all : ∀ s : List Char, s.takeWhile (fun _ => true) = s := by simp
  have rest : (captures [.run (fun _ => true) 0 true true]
      (s.dropWhile Text.isAsciiBlank)).head? = some [s.dropWhile Text.isAsciiBlank] := by
    have done : ∀ s, (captures [] s).head? = some [] := fun _ => rfl
    rw [Text.head?_captures_greedy_of_some (done _), if_pos rfl, all]
  rw [Text.head?_captures_greedy_of_some rest]
  rfl

/-- Of a word the longest beginning is taken as the name that an input still follows. -/
theorem findSome?_giveBack (word after : List Char) :
    (((Text.giveBack word after).filter fun r => 1 ≤ r.1.length).findSome? fun r =>
        (captures inputPattern r.2).head?.map fun found => r.1 :: found) =
      (shrink? word after).map fun block => [block.1, block.2] := by
  induction word generalizing after with
  | nil => rfl
  | cons c word ih =>
    rw [Text.giveBack, List.filter_cons_of_pos (by simp), List.findSome?_cons, ih, shrink?,
      head?_captures_inputPattern]
    cases Text.cut? inputMark after <;> rfl

theorem head?_captures_name (s : List Char) :
    (captures (.run isNameChar 1 true true :: inputPattern) s).head? =
      (shrink? (s.takeWhile isNameChar).reverse (s.dropWhile isNameChar)).map fun block =>
        [block.1, block.2] := by
  rw [Text.head?_captures_run, if_pos rfl, ← List.filter_reverse, Text.reverse_runs]
  exact findSome?_giveBack _ _

theorem captures_name_of_blank {c : Char} (h : Text.isAsciiBlank c = true) (s : List Char) :
    captures (.run isNameChar 1 true true :: inputPattern) (c :: s) = [] := by
  have hc : isNameChar c = false := by
    rw [Bool.eq_false_iff]
    intro hn
    rw [isAsciiBlank_of_isNameChar hn] at h
    cases h
  simp [captures, Text.runs, hc]

theorem head?_captures_actionPattern (s : List Char) :
    (captures actionPattern s).head? = (at? s).map fun block => [block.1, block.2] := by
  rw [actionPattern, captures, at?]
  cases Text.afterStart? nameMark s with
  | none => rfl
  | some after =>
    simp only [Option.bind_some]
    rw [Text.head?_captures_greedy (fun c u hc => captures_name_of_blank hc u),
      head?_captures_name]
    rfl

/-- The first block is what the search for the pattern with backtracking finds. -/
theorem search?_actionPattern (s : List Char) :
    search? actionPattern s = (find? s).map fun block => [block.1, block.2] := by
  induction s with
  | nil => rfl
  | cons c s ih =>
    rw [search?, head?_captures_actionPattern, find?]
    cases at? (c :: s) with
    | some block => rfl
    | none => exact ih

/-! ## Calls that are heard -/

/-- The call in what the pattern of an action block captures: a name and an input. -/
def callOf? : List (List Char) → Option Call
  | [name, input] => Format.call? (Text.trim name) (unwrap input)
  | _ => none

theorem IsName.trim_eq {name : List Char} (h : IsName name) : Text.trim name = name :=
  Text.trimBy_of_bare (Json.bare_of_forall h.ne_nil fun c hc =>
    isBlank_of_isNameChar (h.isNameChar c hc))

/-- A call is heard in what the leftmost match of the pattern captures that backtracking tries
first. Without a block nothing is heard. Otherwise the first block decides alone: its input is the
arguments of its name if it can be read, and if not, nothing is heard. -/
theorem extract_first_match (answer : String) :
    Format.general.extract? answer = (search? actionPattern answer.toList).bind callOf? ∧
    ((∀ ahead name gap input, ¬ IsBlock answer.toList ahead name gap input) →
      Format.general.extract? answer = none) ∧
    ((∃ ahead name gap input, IsBlock answer.toList ahead name gap input) →
      ∃ ahead name gap input, IsFirstBlock answer.toList ahead name gap input) ∧
    ∀ ahead name gap input, IsFirstBlock answer.toList ahead name gap input →
      Format.general.extract? answer = (Json.parse? (String.ofList (unwrap input))).map fun v =>
        ⟨String.ofList name, v.write .spaced⟩ := by
  have heard : Format.general.extract? answer = (find? answer.toList).bind fun block =>
      Format.call? block.1 (unwrap block.2) := extractGeneral?_eq _
  rw [heard]
  refine ⟨?_, fun none => ?_, fun ⟨_, _, _, _, block⟩ => ?_, fun _ name _ input first => ?_⟩
  · rw [search?_actionPattern]
    rcases find?_cases answer.toList with ⟨nothing, -⟩ | ⟨_, name, _, _, found, first⟩
    · rw [nothing]
      rfl
    · obtain ⟨_, _, starts⟩ := first.isBlock
      rw [found, Option.map_some, Option.bind_some, Option.bind_some, callOf?,
        starts.isName.trim_eq]
  · rcases find?_cases answer.toList with ⟨nothing, -⟩ | ⟨_, _, _, _, -, first⟩
    · rw [nothing]
      rfl
    · exact absurd first.isBlock (none _ _ _ _)
  · rcases find?_cases answer.toList with ⟨-, none⟩ | ⟨_, _, _, _, -, first⟩
    · exact absurd block (none _ _ _ _)
    · exact ⟨_, _, _, _, first⟩
  · rw [first.find?_eq, Option.bind_some, unwrap_dropWhile]
    rfl

/-- A name that runs into the input mark ends where the mark begins. -/
theorem isFirstBlock_glued : IsFirstBlock "Action: fooAction Input: \x7b\x7d".toList []
    "foo".toList [] " \x7b\x7d".toList where
  isBlock := ⟨" fooAction Input: \x7b\x7d".toList, by decide, by decide, by decide⟩
  leftmost _ _ _ _ _ := Nat.zero_le _
  longest name' gap' input' block := by
    obtain ⟨after, start, starts⟩ := isBlock_nil_iff.1 block
    have behind : Text.afterStart? nameMark "Action: fooAction Input: \x7b\x7d".toList =
        some " fooAction Input: \x7b\x7d".toList := by decide
    obtain rfl := Option.some.inj (behind.symm.trans start)
    have whole : "fooAction Input: \x7b\x7d".toList = name' ++ (gap' ++ (inputMark ++ input')) :=
      starts.eq
    -- Behind more than three characters there is no mark left.
    have unmarked : ∀ k ∈ List.range 20, 3 < k →
        Text.cut? inputMark ("fooAction Input: \x7b\x7d".toList.drop k) = none := by decide
    have fits : name' <+: "fooAction Input: \x7b\x7d".toList := ⟨_, whole.symm⟩
    have rest := congrArg (List.drop name'.length) whole
    rw [List.drop_left, ← List.append_assoc] at rest
    by_contra longer
    exact Text.cut?_eq_none_iff.1 (unmarked name'.length
      (List.mem_range.2 (Nat.lt_succ_of_le fits.length_le)) (Nat.lt_of_not_le longer)) gap' input'
        rest
  soonest _ _ _ := Nat.zero_le _

/-- The name is `foo`, and without a name mark nothing is heard. -/
theorem extract_first_match_glued :
    IsFirstBlock "Action: fooAction Input: \x7b\x7d".toList [] "foo".toList []
        " \x7b\x7d".toList ∧
      Format.general.extract? "Action: fooAction Input: \x7b\x7d" = some ⟨"foo", "\x7b\x7d"⟩ ∧
      (∀ ahead name gap input,
        ¬ IsBlock "foo\nAction Input: \x7b\x7d".toList ahead name gap input) ∧
      Format.general.extract? "foo\nAction Input: \x7b\x7d" = none := by
  have first := isFirstBlock_glued
  have heard := (extract_first_match _).2.2.2 _ _ _ _ first
  have none : ∀ ahead name gap input,
      ¬ IsBlock "foo\nAction Input: \x7b\x7d".toList ahead name gap input := by
    rintro ahead name gap input ⟨after, whole, -⟩
    have unmarked : Text.cut? nameMark "foo\nAction Input: \x7b\x7d".toList = .none := by decide
    rw [← List.append_assoc] at whole
    exact Text.cut?_eq_none_iff.1 unmarked ahead after whole
  exact ⟨first, heard.trans (by decide +kernel), none, (extract_first_match _).2.1 none⟩

end Tool

end Colloquy
