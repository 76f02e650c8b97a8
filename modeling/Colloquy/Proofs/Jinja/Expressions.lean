import Colloquy.Proofs.Jinja.Lexer

/-!
# Reading expressions

The grammar of expressions, on tokens. What is picked from an operand binds tighter than a test,
then come `+`, `==` and `and`; a choice stands in parentheses. The readers take a counter that every
call lowers; eight times the number of tokens is enough.

An expression whose parts bind as they are written is read back from its tokens
(`readExpr?_tokens`).
-/

namespace Colloquy.Jinja

/-! ## The grammar -/

/-- The words that name no variable. -/
def reserved : List (List Char) :=
  ["and", "or", "not", "in", "is", "if", "elif", "else", "true", "false", "none"].map String.toList

/-- The expression that a single word is. -/
def atom? (w : List Char) : Option Expr :=
  if w.all Char.isDigit then some (.number (Nat.ofDigitChars 10 w 0))
  else if (w.head?.any Char.isDigit) ∨ w ∈ reserved then none
  else some (.var (String.ofList w))

/-- The operators that chain from left to right. -/
inductive Operator where
  | join
  | both
deriving DecidableEq, Repr

namespace Operator

/-- The token of an operator. -/
def token : Operator → Token
  | join => .mark '+'
  | both => keyword "and"

/-- The expression that an operator makes of two. -/
def apply : Operator → Expr → Expr → Expr
  | join => .join
  | both => .both

end Operator

mutual

/-- A string, a number, a variable or an expression in parentheses, with what is picked from it and
the test for being defined. -/
def readOperand? : Nat → List Token → Option (Expr × List Token)
  | n + 1, .str s :: ts => readPicks? n (.text (String.ofList s)) ts
  | n + 1, .word w :: ts =>
    match atom? w with
    | some e => readPicks? n e ts
    | none => none
  | n + 1, .mark '(' :: ts =>
    match readChoice? n ts with
    | some (e, .mark ')' :: ts) => readPicks? n e ts
    | _ => none
  | _, _ => none

/-- What is picked from an expression, one after the other. -/
def readPicks? : Nat → Expr → List Token → Option (Expr × List Token)
  | 0, _, _ => none
  | _ + 1, e, [] => some (e, [])
  | n + 1, e, t :: ts =>
    if t = .mark '[' then
      match readChoice? n ts with
      | some (key, .mark ']' :: ts) => readPicks? n (.item e key) ts
      | _ => none
    else if t = .mark '.' then
      match ts with
      | .word w :: ts => readPicks? n (.field e (String.ofList w)) ts
      | _ => none
    else if t = keyword "is" then
      match ts with
      | t :: ts => if t = keyword "defined" then some (.isDefined e, ts) else none
      | [] => none
    else some (e, t :: ts)

/-- The expressions that an operator joins. -/
def readPart? : Nat → Operator → List Token → Option (Expr × List Token)
  | 0, _, _ => none
  | n + 1, .join, ts => readOperand? n ts
  | n + 1, .both, ts => readComparison? n ts

/-- Expressions with one operator between them. -/
def readChain? : Nat → Operator → List Token → Option (Expr × List Token)
  | 0, _, _ => none
  | n + 1, o, ts =>
    match readPart? n o ts with
    | some (e, ts) => readMore? n o e ts
    | none => none

/-- More expressions with an operator between them, behind the first. -/
def readMore? : Nat → Operator → Expr → List Token → Option (Expr × List Token)
  | 0, _, _, _ => none
  | _ + 1, _, e, [] => some (e, [])
  | n + 1, o, e, t :: ts =>
    if t = o.token then
      match readPart? n o ts with
      | some (e', ts) => readMore? n o (o.apply e e') ts
      | none => none
    else some (e, t :: ts)

/-- A text or a comparison of two. -/
def readComparison? : Nat → List Token → Option (Expr × List Token)
  | 0, _ => none
  | n + 1, ts =>
    match readChain? n .join ts with
    | some (a, t :: ts) =>
      if t = .equals then
        match readChain? n .join ts with
        | some (b, ts) => some (.equal a b, ts)
        | none => none
      else some (a, t :: ts)
    | result => result

/-- A condition, or a choice between two expressions. -/
def readChoice? : Nat → List Token → Option (Expr × List Token)
  | 0, _ => none
  | n + 1, ts =>
    match readChain? n .both ts with
    | some (yes, t :: ts) =>
      if t = keyword "if" then
        match readChain? n .both ts with
        | some (test, t :: ts) =>
          if t = keyword "else" then
            match readChoice? n ts with
            | some (no, ts) => some (.choose yes test no, ts)
            | none => none
          else none
        | _ => none
      else some (yes, t :: ts)
    | result => result

end

/-- The expression that tokens write. -/
def readExpr? (ts : List Token) : Option Expr :=
  match readChoice? (8 * ts.length) ts with
  | some (e, []) => some e
  | _ => none

/-! ## Binding -/

/-- How an expression binds: what is picked binds tightest. -/
def Expr.rank : Expr → Nat
  | isDefined _ => 1
  | join _ _ => 2
  | equal _ _ => 3
  | both _ _ => 4
  | _ => 0

/-- The rank of the expression that a token goes on to make of the one before it; beyond all ranks
if it ends an expression. -/
def Token.rank (t : Token) : Nat :=
  if t = .mark '[' ∨ t = .mark '.' then 0
  else if t = keyword "is" then 1
  else if t = .mark '+' then 2
  else if t = .equals then 3
  else if t = keyword "and" then 4
  else if t = keyword "if" then 5
  else 6

/-- An expression of a rank goes no further than here. -/
def Stops (rank : Nat) (rest : List Token) : Prop :=
  ∀ t ∈ rest.head?, rank < t.rank

/-- The name of a variable. -/
structure IsVariable (name : String) : Prop where
  isWord : IsWord name
  atom : atom? name.toList = some (.var name)

/-- The parts of an expression bind as they are written. -/
def Expr.Readable : Expr → Prop
  | text _ => True
  | number _ => True
  | var name => IsVariable name
  | item e key => e.rank = 0 ∧ e.Readable ∧ key.Readable
  | field e name => e.rank = 0 ∧ e.Readable ∧ IsWord name
  | isDefined a => a.rank = 0 ∧ a.Readable
  | join a b => (a.rank ≤ 2 ∧ a.Readable) ∧ b.rank ≤ 1 ∧ b.Readable
  | equal a b => (a.rank ≤ 2 ∧ a.Readable) ∧ b.rank ≤ 2 ∧ b.Readable
  | both a b => a.Readable ∧ b.rank ≤ 3 ∧ b.Readable
  | choose yes test no => yes.Readable ∧ test.Readable ∧ no.Readable

theorem Expr.Readable.hasWords {e : Expr} (h : e.Readable) : e.HasWords := by
  induction e with
  | text s => trivial
  | number n => trivial
  | var name => exact IsVariable.isWord h
  | item e key ihe ihk => exact ⟨ihe h.2.1, ihk h.2.2⟩
  | field e name ih => exact ⟨ih h.2.1, h.2.2⟩
  | join a b iha ihb => exact ⟨iha h.1.2, ihb h.2.2⟩
  | equal a b iha ihb => exact ⟨iha h.1.2, ihb h.2.2⟩
  | both a b iha ihb => exact ⟨iha h.1, ihb h.2.2⟩
  | isDefined a ih => exact ih h.2
  | choose yes test no ihy iht ihn => exact ⟨ihy h.1, iht h.2.1, ihn h.2.2⟩

/-! ## Where an expression ends -/

theorem stops_cons {rank : Nat} {t : Token} (rest : List Token) (h : rank < t.rank) :
    Stops rank (t :: rest) := by
  intro u hu
  obtain rfl : t = u := by simpa using hu
  exact h

theorem Stops.mono {rank rank' : Nat} {rest : List Token} (h : Stops rank rest)
    (le : rank' ≤ rank) : Stops rank' rest :=
  fun t ht => Nat.lt_of_le_of_lt le (h t ht)

/-- Nothing is picked from an expression that ends here. -/
theorem readPicks?_of_stops {n : Nat} {e : Expr} {rest : List Token} (h : Stops 1 rest)
    (hn : 1 ≤ n) : readPicks? n e rest = some (e, rest) := by
  obtain ⟨n, rfl⟩ : ∃ k, n = k + 1 := ⟨n - 1, by omega⟩
  cases rest with
  | nil => rw [readPicks?]
  | cons t rest =>
    have ht : 1 < t.rank := h t (by simp)
    have bracket : t ≠ .mark '[' := by
      rintro rfl
      exact absurd ht (by decide)
    have dot : t ≠ .mark '.' := by
      rintro rfl
      exact absurd ht (by decide)
    have is : t ≠ keyword "is" := by
      rintro rfl
      exact absurd ht (by decide)
    rw [readPicks?.eq_def]
    simp only [if_neg bracket, if_neg dot, if_neg is]

namespace Operator

/-- The rank of what an operator makes. -/
def rank : Operator → Nat
  | join => 2
  | both => 4

/-- What is left of the counter when an operator's chain is read. -/
def slack : Operator → Nat
  | join => 4
  | both => 1

theorem rank_token (o : Operator) : o.token.rank = o.rank := by
  cases o <;> decide

theorem tokens_apply (o : Operator) (a b : Expr) :
    (o.apply a b).tokens = a.tokens ++ [o.token] ++ b.tokens := by
  cases o <;> rfl

end Operator

/-- No operator goes on with an expression that ends here. -/
theorem readMore?_of_stops {n : Nat} {o : Operator} {e : Expr} {rest : List Token}
    (h : Stops o.rank rest) (hn : 1 ≤ n) : readMore? n o e rest = some (e, rest) := by
  obtain ⟨n, rfl⟩ : ∃ k, n = k + 1 := ⟨n - 1, by omega⟩
  cases rest with
  | nil => rw [readMore?]
  | cons t rest =>
    have ne : t ≠ o.token := by
      rintro rfl
      have lt : o.rank < o.token.rank := h o.token (by simp)
      rw [o.rank_token] at lt
      omega
    rw [readMore?, if_neg ne]

/-! ## Reading back -/

/-- An operand is read up to where more may be picked from it. -/
def PicksFrom (e : Expr) : Prop :=
  ∀ n rest, 8 * e.tokens.length ≤ n + 6 →
    ∃ m, n + 7 ≤ m + 8 * e.tokens.length ∧
      readOperand? n (e.tokens ++ rest) = readPicks? m e rest

/-- An operand is read to its end. -/
def ReadAsOperand (e : Expr) : Prop :=
  ∀ n rest, Stops 1 rest → 8 * e.tokens.length ≤ n + 6 →
    readOperand? n (e.tokens ++ rest) = some (e, rest)

/-- A comparison is read to its end. -/
def ReadAsComparison (e : Expr) : Prop :=
  ∀ n rest, Stops 3 rest → 8 * e.tokens.length ≤ n + 3 →
    readComparison? n (e.tokens ++ rest) = some (e, rest)

/-- A part of a chain is read to its end. -/
def IsPart (o : Operator) (e : Expr) : Prop :=
  ∀ n rest, Stops (o.rank - 1) rest → 8 * e.tokens.length ≤ n + o.slack + 1 →
    readPart? n o (e.tokens ++ rest) = some (e, rest)

/-- A chain is read up to where it may go on. -/
def ChainsFrom (o : Operator) (e : Expr) : Prop :=
  ∀ n rest, Stops (o.rank - 1) rest → 8 * e.tokens.length ≤ n + o.slack →
    ∃ m, n + o.slack + 1 ≤ m + 8 * e.tokens.length ∧
      readChain? n o (e.tokens ++ rest) = readMore? m o e rest

theorem one_le_length_tokens (e : Expr) : 1 ≤ e.tokens.length := by
  cases e <;> simp [Expr.tokens] <;> omega

theorem PicksFrom.readAsOperand {e : Expr} (h : PicksFrom e) : ReadAsOperand e := by
  intro n rest stops hn
  obtain ⟨m, hm, eq⟩ := h n rest hn
  rw [eq, readPicks?_of_stops stops (by omega)]

theorem ReadAsOperand.isPart {e : Expr} (h : ReadAsOperand e) : IsPart .join e := by
  intro n rest stops hn
  have hl := one_le_length_tokens e
  simp only [Operator.slack] at hn
  obtain ⟨n, rfl⟩ : ∃ k, n = k + 1 := ⟨n - 1, by omega⟩
  rw [readPart?, h n rest stops (by omega)]

theorem ReadAsComparison.isPart {e : Expr} (h : ReadAsComparison e) : IsPart .both e := by
  intro n rest stops hn
  have hl := one_le_length_tokens e
  simp only [Operator.slack] at hn
  obtain ⟨n, rfl⟩ : ∃ k, n = k + 1 := ⟨n - 1, by omega⟩
  rw [readPart?, h n rest stops (by omega)]

/-- A single part begins a chain. -/
theorem IsPart.chainsFrom {o : Operator} {e : Expr} (h : IsPart o e) : ChainsFrom o e := by
  intro n rest stops hn
  have hl := one_le_length_tokens e
  have hs : o.slack ≤ 4 := by cases o <;> decide
  obtain ⟨n, rfl⟩ : ∃ k, n = k + 1 := ⟨n - 1, by omega⟩
  refine ⟨n, by omega, ?_⟩
  rw [readChain?, h n rest stops (by omega)]

/-- One more part goes on with a chain. -/
theorem ChainsFrom.apply {o : Operator} {a b : Expr} (ha : ChainsFrom o a) (hb : IsPart o b) :
    ChainsFrom o (o.apply a b) := by
  intro n rest stops hn
  rw [o.tokens_apply] at hn ⊢
  simp only [List.length_append, List.length_cons, List.length_nil] at hn ⊢
  have hl := one_le_length_tokens b
  have begins : Stops (o.rank - 1) (o.token :: (b.tokens ++ rest)) := by
    refine stops_cons _ ?_
    rw [o.rank_token]
    cases o <;> decide
  have assoc : a.tokens ++ [o.token] ++ b.tokens ++ rest =
      a.tokens ++ o.token :: (b.tokens ++ rest) := by simp
  obtain ⟨m, hm, eq⟩ := ha n (o.token :: (b.tokens ++ rest)) begins (by omega)
  obtain ⟨m, rfl⟩ : ∃ k, m = k + 1 := ⟨m - 1, by omega⟩
  refine ⟨m, by omega, ?_⟩
  rw [assoc, eq, readMore?, if_pos rfl, hb m rest stops (by omega)]

/-- A chain is read to its end. -/
theorem ChainsFrom.readChain? {o : Operator} {e : Expr} (h : ChainsFrom o e) {n : Nat}
    {rest : List Token} (stops : Stops o.rank rest) (hn : 8 * e.tokens.length ≤ n + o.slack) :
    readChain? n o (e.tokens ++ rest) = some (e, rest) := by
  obtain ⟨m, hm, eq⟩ := h n rest (stops.mono (Nat.sub_le _ _)) hn
  rw [eq, readMore?_of_stops stops (by omega)]

theorem ChainsFrom.readAsComparison {e : Expr} (h : ChainsFrom .join e) : ReadAsComparison e := by
  intro n rest stops hn
  have hl := one_le_length_tokens e
  obtain ⟨n, rfl⟩ : ∃ k, n = k + 1 := ⟨n - 1, by omega⟩
  rw [readComparison?, h.readChain? (stops.mono (by decide)) (by simp only [Operator.slack]; omega)]
  cases rest with
  | nil => rfl
  | cons t rest =>
    have ne : t ≠ .equals := by
      rintro rfl
      exact absurd (stops .equals (by simp)) (by decide)
    simp only [if_neg ne]

/-- A condition is read to its end. -/
theorem ChainsFrom.readChoice? {e : Expr} (h : ChainsFrom .both e) {n : Nat} {rest : List Token}
    (stops : Stops 5 rest) (hn : 8 * e.tokens.length ≤ n) :
    readChoice? n (e.tokens ++ rest) = some (e, rest) := by
  have hl := one_le_length_tokens e
  obtain ⟨n, rfl⟩ : ∃ k, n = k + 1 := ⟨n - 1, by omega⟩
  rw [Jinja.readChoice?,
    h.readChain? (stops.mono (by decide)) (by simp only [Operator.slack]; omega)]
  cases rest with
  | nil => rfl
  | cons t rest =>
    have ne : t ≠ keyword "if" := by
      rintro rfl
      exact absurd (stops (keyword "if") (by simp)) (by decide)
    simp only [if_neg ne]

/-- How an expression is read, by its rank. -/
structure Found (e : Expr) : Prop where
  picksFrom : e.rank = 0 → PicksFrom e
  readAsOperand : e.rank ≤ 1 → ReadAsOperand e
  joins : e.rank ≤ 2 → ChainsFrom .join e
  readAsComparison : e.rank ≤ 3 → ReadAsComparison e
  both : ChainsFrom .both e

theorem PicksFrom.found {e : Expr} (h : PicksFrom e) : Found e where
  picksFrom _ := h
  readAsOperand _ := h.readAsOperand
  joins _ := h.readAsOperand.isPart.chainsFrom
  readAsComparison _ := h.readAsOperand.isPart.chainsFrom.readAsComparison
  both := h.readAsOperand.isPart.chainsFrom.readAsComparison.isPart.chainsFrom

theorem ReadAsOperand.found {e : Expr} (h : ReadAsOperand e) (rank : e.rank = 1) : Found e where
  picksFrom h := absurd h (by omega)
  readAsOperand _ := h
  joins _ := h.isPart.chainsFrom
  readAsComparison _ := h.isPart.chainsFrom.readAsComparison
  both := h.isPart.chainsFrom.readAsComparison.isPart.chainsFrom

theorem ChainsFrom.found_of_join {e : Expr} (h : ChainsFrom .join e) (rank : e.rank = 2) :
    Found e where
  picksFrom h := absurd h (by omega)
  readAsOperand h := absurd h (by omega)
  joins _ := h
  readAsComparison _ := h.readAsComparison
  both := h.readAsComparison.isPart.chainsFrom

theorem ReadAsComparison.found {e : Expr} (h : ReadAsComparison e) (rank : e.rank = 3) :
    Found e where
  picksFrom h := absurd h (by omega)
  readAsOperand h := absurd h (by omega)
  joins h := absurd h (by omega)
  readAsComparison _ := h
  both := h.isPart.chainsFrom

theorem ChainsFrom.found_of_both {e : Expr} (h : ChainsFrom .both e) (rank : e.rank = 4) :
    Found e where
  picksFrom h := absurd h (by omega)
  readAsOperand h := absurd h (by omega)
  joins h := absurd h (by omega)
  readAsComparison h := absurd h (by omega)
  both := h

/-! ## The kinds of expressions -/

theorem picksFrom_text (s : String) : PicksFrom (.text s) := by
  intro n rest hn
  simp only [Expr.tokens, List.length_singleton] at hn ⊢
  obtain ⟨n, rfl⟩ : ∃ k, n = k + 1 := ⟨n - 1, by omega⟩
  refine ⟨n, by omega, ?_⟩
  rw [List.singleton_append, readOperand?, String.ofList_toList]

/-- A word that is an expression of its own. -/
theorem picksFrom_word {e : Expr} {w : List Char} (tokens : e.tokens = [.word w])
    (atom : atom? w = some e) : PicksFrom e := by
  intro n rest hn
  rw [tokens] at hn ⊢
  simp only [List.length_singleton] at hn ⊢
  obtain ⟨n, rfl⟩ : ∃ k, n = k + 1 := ⟨n - 1, by omega⟩
  refine ⟨n, by omega, ?_⟩
  rw [List.singleton_append, readOperand?, atom]

theorem atom?_toDigits (k : Nat) : atom? (Nat.toDigits 10 k) = some (.number k) := by
  have digits : (Nat.toDigits 10 k).all Char.isDigit = true := by
    rw [List.all_eq_true]
    intro c hc
    exact Nat.isDigit_of_mem_toDigits (by decide) (by decide) hc
  rw [atom?, if_pos digits, Nat.ofDigitChars_ten_toDigits]

theorem picksFrom_item {e key : Expr} (he : PicksFrom e) (hk : ChainsFrom .both key) :
    PicksFrom (.item e key) := by
  intro n rest hn
  simp only [Expr.tokens, List.length_append, List.length_cons, List.length_nil] at hn ⊢
  have assoc : e.tokens ++ .mark '[' :: key.tokens ++ [.mark ']'] ++ rest =
      e.tokens ++ .mark '[' :: (key.tokens ++ (.mark ']' :: rest)) := by simp
  have closes : Stops 5 (.mark ']' :: rest) := stops_cons rest (by decide)
  obtain ⟨m, hm, eq⟩ := he n (.mark '[' :: (key.tokens ++ (.mark ']' :: rest))) (by omega)
  obtain ⟨m, rfl⟩ : ∃ k, m = k + 1 := ⟨m - 1, by omega⟩
  refine ⟨m, by omega, ?_⟩
  rw [assoc, eq, readPicks?.eq_def]
  simp only [if_true]
  rw [hk.readChoice? closes (by omega)]
  rfl

theorem picksFrom_field {e : Expr} (he : PicksFrom e) (name : String) :
    PicksFrom (.field e name) := by
  intro n rest hn
  simp only [Expr.tokens, List.length_append, List.length_cons, List.length_nil] at hn ⊢
  have assoc : e.tokens ++ .mark '.' :: [.word name.toList] ++ rest =
      e.tokens ++ .mark '.' :: .word name.toList :: rest := by simp
  obtain ⟨m, hm, eq⟩ := he n (.mark '.' :: .word name.toList :: rest) (by omega)
  obtain ⟨m, rfl⟩ : ∃ k, m = k + 1 := ⟨m - 1, by omega⟩
  have bracket : Token.mark '.' ≠ .mark '[' := by decide
  refine ⟨m, by omega, ?_⟩
  rw [assoc, eq, readPicks?.eq_def]
  simp only [if_neg bracket, if_true, String.ofList_toList]

theorem readAsOperand_isDefined {a : Expr} (ha : PicksFrom a) : ReadAsOperand (.isDefined a) := by
  intro n rest stops hn
  simp only [Expr.tokens, List.length_append, List.length_cons, List.length_nil] at hn ⊢
  have assoc : a.tokens ++ [keyword "is"] ++ [keyword "defined"] ++ rest =
      a.tokens ++ keyword "is" :: keyword "defined" :: rest := by simp
  obtain ⟨m, hm, eq⟩ := ha n (keyword "is" :: keyword "defined" :: rest) (by omega)
  obtain ⟨m, rfl⟩ : ∃ k, m = k + 1 := ⟨m - 1, by omega⟩
  have bracket : keyword "is" ≠ .mark '[' := by decide
  have dot : keyword "is" ≠ .mark '.' := by decide
  rw [assoc, eq, readPicks?.eq_def]
  simp only [if_neg bracket, if_neg dot, if_true]

theorem readAsComparison_equal {a b : Expr} (ha : ChainsFrom .join a) (hb : ChainsFrom .join b) :
    ReadAsComparison (.equal a b) := by
  intro n rest stops hn
  simp only [Expr.tokens, List.length_append, List.length_cons, List.length_nil] at hn ⊢
  have assoc : a.tokens ++ [.equals] ++ b.tokens ++ rest =
      a.tokens ++ .equals :: (b.tokens ++ rest) := by simp
  have hl := one_le_length_tokens a
  obtain ⟨n, rfl⟩ : ∃ k, n = k + 1 := ⟨n - 1, by omega⟩
  rw [assoc, readComparison?,
    ha.readChain? (stops_cons _ (by decide)) (by simp only [Operator.slack]; omega)]
  simp only [if_true]
  rw [hb.readChain? (stops.mono (by decide)) (by simp only [Operator.slack]; omega)]

theorem picksFrom_choose {yes test no : Expr} (hy : ChainsFrom .both yes)
    (ht : ChainsFrom .both test)
    (hn : ChainsFrom .both no) : PicksFrom (.choose yes test no) := by
  intro n rest fuel
  simp only [Expr.tokens, List.length_append, List.length_cons, List.length_nil] at fuel ⊢
  have assoc : .mark '(' :: (yes.tokens ++ [keyword "if"] ++ test.tokens ++ [keyword "else"] ++
      no.tokens) ++ [.mark ')'] ++ rest = .mark '(' :: (yes.tokens ++ keyword "if" ::
        (test.tokens ++ keyword "else" :: (no.tokens ++ .mark ')' :: rest))) := by simp
  have ly := one_le_length_tokens yes
  obtain ⟨n, rfl⟩ : ∃ k, n = k + 1 + 1 := ⟨n - 2, by omega⟩
  refine ⟨n + 1, by omega, ?_⟩
  rw [assoc, readOperand?, readChoice?,
    hy.readChain? (stops_cons _ (by decide)) (by simp only [Operator.slack]; omega)]
  simp only [if_true]
  rw [ht.readChain? (stops_cons _ (by decide)) (by simp only [Operator.slack]; omega)]
  simp only [if_true]
  rw [hn.readChoice? (stops_cons _ (by decide)) (by omega)]
  rfl

/-- A readable expression is read as its rank says. -/
theorem found {e : Expr} (h : e.Readable) : Found e := by
  -- `Readable` bounds the ranks of the parts, so each of them is read to its end where it stands.
  induction e with
  | text s => exact (picksFrom_text s).found
  | number k => exact (picksFrom_word rfl (atom?_toDigits k)).found
  | var name => exact (picksFrom_word rfl (IsVariable.atom h)).found
  | item e key ihe ihk =>
    exact (picksFrom_item ((ihe h.2.1).picksFrom h.1) (ihk h.2.2).both).found
  | field e name ih => exact (picksFrom_field ((ih h.2.1).picksFrom h.1) name).found
  | join a b iha ihb =>
    have part : IsPart .join b := ((ihb h.2.2).readAsOperand h.2.1).isPart
    exact (((iha h.1.2).joins h.1.1).apply part).found_of_join rfl
  | equal a b iha ihb =>
    exact (readAsComparison_equal ((iha h.1.2).joins h.1.1) ((ihb h.2.2).joins h.2.1)).found rfl
  | both a b iha ihb =>
    have part : IsPart .both b := ((ihb h.2.2).readAsComparison h.2.1).isPart
    exact ((iha h.1).both.apply part).found_of_both rfl
  | isDefined a ih => exact (readAsOperand_isDefined ((ih h.2).picksFrom h.1)).found rfl
  | choose yes test no ihy iht ihn =>
    exact (picksFrom_choose (ihy h.1).both (iht h.2.1).both (ihn h.2.2).both).found

/-- A readable expression is read back from its tokens. -/
theorem readExpr?_tokens {e : Expr} (h : e.Readable) : readExpr? e.tokens = some e := by
  have whole : readChoice? (8 * e.tokens.length) (e.tokens ++ []) = some (e, []) :=
    (found h).both.readChoice? (by simp [Stops]) (by omega)
  rw [List.append_nil] at whole
  rw [readExpr?, whole]

end Colloquy.Jinja
