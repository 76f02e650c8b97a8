import Colloquy.Proofs.Substitution
import Colloquy.Proofs.Tool.Blocks

/-!
# The first action block of a call

A call is said with its input behind the last line break and the last mark that are its own (`said`).
What comes before that line decides which block is found first (`heard`): the block of the call
itself, a block with an earlier input mark, or one with a mark that stands in the input.
-/

namespace Colloquy.Tool

open ActionBlock

/-- A text with an input on the next line. -/
def said (head input : List Char) : List Char :=
  head ++ '\n' :: (inputMark ++ ' ' :: input)

theorem callHead_append_eq_said (name input : List Char) :
    callHead name ++ input = said (nameMark ++ ' ' :: name) input := by
  rw [callHead_append, said]
  simp only [List.append_assoc, List.cons_append]

/-! ## Texts without a name mark -/

/-- No block starts where there is no first character of a mark. -/
theorem find?_append_of_not_mem {x : List Char} (h : 'A' ∉ x) (s : List Char) :
    find? (x ++ s) = find? s := by
  induction x with
  | nil => rfl
  | cons c x ih =>
    rw [List.mem_cons, not_or] at h
    have start : Text.afterStart? nameMark (c :: (x ++ s)) = none := by
      rw [nameMark_eq]
      exact Text.afterStart?_cons_of_ne _ _ h.1
    rw [List.cons_append, find?_cons_of_not_start start, ih h.2]

theorem find?_said_of_not_mem {head : List Char} (h : 'A' ∉ head) (input : List Char) :
    find? (said head input) = find? input := by
  have first : 'A' ∉ head ++ ['\n'] := by
    rw [List.mem_append, not_or]
    exact ⟨h, by decide⟩
  have rest : 'A' ∉ "ction Input: ".toList := by decide
  have parts : said head input =
      (head ++ ['\n']) ++ 'A' :: ("ction Input: ".toList ++ input) := by
    have mark : inputMark ++ [' '] = 'A' :: "ction Input: ".toList := by decide
    have regroup : inputMark ++ ' ' :: input = (inputMark ++ [' ']) ++ input := by simp
    rw [said, regroup, mark]
    simp
  have start : Text.afterStart? nameMark ('A' :: ("ction Input: ".toList ++ input)) = none := rfl
  rw [parts, find?_append_of_not_mem first, find?_cons_of_not_start start,
    find?_append_of_not_mem rest]

/-! ## Blocks of a call -/

/-- A second mark behind the one before an input is in the input. -/
theorem exists_eq_of_second_mark {x input rest : List Char} (ne : x ≠ [])
    (h : inputMark ++ ' ' :: input = x ++ (inputMark ++ rest)) :
    ∃ y, input = y ++ (inputMark ++ rest) := by
  obtain ⟨c, x, rfl⟩ := List.exists_cons_of_ne_nil ne
  have free : Text.EndsFree "ction Input:".toList inputMark := by decide
  have behind : "ction Input:".toList ++ ' ' :: input = x ++ (inputMark ++ rest) := by
    rw [inputMark_eq] at h ⊢
    exact (List.cons.inj h).2
  obtain ⟨y, -, hy⟩ := free.eq_append behind
  cases y with
  | nil =>
    rw [inputMark_eq] at hy
    exact absurd (List.cons.inj hy).1 (by decide)
  | cons d y => exact ⟨y, (List.cons.inj hy).2⟩

/-- What is found first in a text with an input on the next line: the block with that input, whose
name is the word before it; a block with an earlier mark, which takes the rest of the text as its
input; or at most a block with a mark in the input. -/
inductive Heard (head : List Char) : Prop where
  | own (name : List Char) (isName : IsName name)
    (found : ∀ input, find? (said head input) =
      some (name, (' ' :: input).dropWhile Text.isAsciiBlank))
  | early (name left : List Char)
    (found : ∀ input, find? (said head input) =
      some (name, (said left input).dropWhile Text.isAsciiBlank))
  | late (inside : ∀ input name found, find? (said head input) = some (name, found) →
      ∃ x rest, input = x ++ (inputMark ++ rest) ∧ found = rest.dropWhile Text.isAsciiBlank)

theorem Heard.of_eq {head head' : List Char}
    (h : ∀ input, find? (said head' input) = find? (said head input)) (heard : Heard head) :
    Heard head' := by
  cases heard with
  | own name isName found => exact .own name isName fun input => (h input).trans (found input)
  | early name left found => exact .early name left fun input => (h input).trans (found input)
  | late inside => exact .late fun input name found hf => inside input name found (h input ▸ hf)

theorem cut?_said_of_some {head before after : List Char}
    (h : Text.cut? inputMark head = some (before, after)) (input : List Char) :
    Text.cut? inputMark (said head input) = some (before, said after input) :=
  Text.cut?_append_of_some h _

theorem cut?_said_of_none {head : List Char} (h : Text.cut? inputMark head = none)
    (input : List Char) :
    Text.cut? inputMark (said head input) = some (head ++ ['\n'], ' ' :: input) := by
  have mark : Text.cut? inputMark (inputMark ++ ' ' :: input) = some ([], ' ' :: input) :=
    Text.cut?_append_of_not_mem (s := []) (by simp) (' ' :: input)
  rw [said, Text.cut?_append_of_stop (by decide) h (by decide), mark]
  rfl

/-- A name mark with nothing but blanks up to the input: the word behind it is that of the input
mark, and another mark has to come in the input. -/
theorem Heard.of_blank {blanks : List Char} (h : ∀ c ∈ blanks, Text.isAsciiBlank c = true) :
    Heard (nameMark ++ blanks) := by
  refine .late fun input name found hf => ?_
  have line : (said blanks input).dropWhile Text.isAsciiBlank = inputMark ++ ' ' :: input := by
    rw [said, List.dropWhile_append_of_pos h, List.dropWhile_cons_of_pos (by decide), inputMark_eq,
      List.cons_append, List.dropWhile_cons_of_neg (by decide)]
  have parts : said (nameMark ++ blanks) input =
      'A' :: ("ction:".toList ++ said blanks input) := by
    rw [said, nameMark_eq, said]
    simp
  have start : at? ('A' :: ("ction:".toList ++ said blanks input)) =
      afterMark? (said blanks input) := by
    rw [← List.cons_append, ← nameMark_eq, at?, Text.afterStart?_append]
    rfl
  rw [parts, find?, start] at hf
  split at hf
  · rename_i block here
    obtain rfl := Option.some.inj hf
    obtain ⟨x, rest, ne, whole, hrest⟩ := afterMark?_eq_some here
    rw [line] at whole
    obtain ⟨y, hy⟩ := exists_eq_of_second_mark ne whole
    exact ⟨y, rest, hy, hrest⟩
  · have unmarked : 'A' ∉ "ction:".toList ++ blanks := by
      rw [List.mem_append, not_or]
      exact ⟨by decide, fun hA => absurd (h 'A' hA) (by decide)⟩
    have again : "ction:".toList ++ said blanks input = said ("ction:".toList ++ blanks) input :=
      (List.append_assoc ..).symm
    rw [again, find?_said_of_not_mem unmarked] at hf
    exact find?_eq_some hf

/-- Behind a name mark and blanks, what follows the word is cut at the first input mark. -/
theorem afterMark?_said {after : List Char} {c : Char} {cs : List Char}
    (h : after.dropWhile Text.isAsciiBlank = c :: cs) (input : List Char) :
    afterMark? (said after input) =
      shrink? ((c :: cs).takeWhile isNameChar).reverse
        (said ((c :: cs).dropWhile isNameChar) input) := by
  have skip : (said after input).dropWhile Text.isAsciiBlank = said (c :: cs) input := by
    rw [said, List.dropWhile_append, h]
    rfl
  have stop : isNameChar '\n' = false := by decide
  rw [afterMark?, skip, said, Text.takeWhile_append_cons stop, Text.dropWhile_append_cons stop]
  rfl

/-- Any text before the line of the input is heard in one of the three ways. -/
theorem heard (head : List Char) : Heard head := by
  induction head with
  | nil =>
    refine .late fun input name found hf => ?_
    rw [find?_said_of_not_mem (by simp)] at hf
    exact find?_eq_some hf
  | cons c head ih =>
    cases start : Text.afterStart? nameMark (c :: head) with
    | none =>
      exact .of_eq (fun input => find?_cons_of_not_start
        (Text.afterStart?_append_of_stop start (by decide) _)) ih
    | some after =>
      have mark := Text.afterStart?_eq_some.1 start
      cases word : after.dropWhile Text.isAsciiBlank with
      | nil =>
        rw [mark]
        exact .of_blank (List.dropWhile_eq_nil_iff.1 word)
      | cons d rest =>
        have here : ∀ input, at? (said (c :: head) input) =
            shrink? ((d :: rest).takeWhile isNameChar).reverse
              (said ((d :: rest).dropWhile isNameChar) input) := by
          intro input
          rw [← afterMark?_said word input, mark, said, List.append_assoc, at?,
            Text.afterStart?_append]
          rfl
        cases name : ((d :: rest).takeWhile isNameChar).reverse with
        | nil =>
          refine .of_eq (fun input => find?_cons_of_none ?_) ih
          exact (here input).trans (by rw [name, shrink?])
        | cons a as =>
          have whole : (a :: as).reverse = (d :: rest).takeWhile isNameChar := by
            rw [← name, List.reverse_reverse]
          have isName : IsName (a :: as).reverse :=
            ⟨by simp, whole ▸ List.all_eq_true.1 List.all_takeWhile⟩
          cases cut : Text.cut? inputMark ((d :: rest).dropWhile isNameChar) with
          | none =>
            refine .own _ isName fun input => find?_cons_of_some ?_
            exact (here input).trans (by rw [name, shrink?, cut?_said_of_none cut])
          | some parts =>
            obtain ⟨before, left⟩ := parts
            refine .early (a :: as).reverse left fun input => find?_cons_of_some ?_
            exact (here input).trans (by rw [name, shrink?, cut?_said_of_some cut])

end Colloquy.Tool
