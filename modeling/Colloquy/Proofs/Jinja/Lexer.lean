import Colloquy.Jinja.Basic

/-!
# Tokens of a template

The text of a template as a Jinja engine cuts it up: texts outside of tags, and the tokens of each
tag (`Chunk`). The lexer takes one character at a time (`Lexer.step`). Inside a string neither a
quotation mark behind a backslash nor the end of a tag has an effect.

What is written for an expression is cut into the tokens of the expression (`reads_expr`), and what
is written for a program into its tags (`chunks?_writeAll`).
-/

namespace Colloquy.Jinja

/-- A token inside a tag: a string, a name, a keyword or a number, one of the signs for assigning
and comparing, or another mark. -/
inductive Token where
  | str (s : List Char)
  | word (s : List Char)
  | assign
  | equals
  | mark (c : Char)
deriving DecidableEq, Repr

/-- A part of a template. -/
inductive Chunk where
  | text (s : List Char)
  | tag (tokens : List Token)
  | output (tokens : List Token)
deriving DecidableEq, Repr

/-- What a tag is for. -/
inductive Kind where
  | tag
  | output
deriving DecidableEq, Repr

namespace Kind

/-- The character after which a brace ends a tag. -/
def closing : Kind → Char
  | tag => '%'
  | output => '\x7d'

/-- The part of a template that a tag with given tokens is. -/
def chunk : Kind → List Token → Chunk
  | tag => .tag
  | output => .output

end Kind

/-- The characters of names, keywords and numbers. -/
def isWordChar (c : Char) : Bool :=
  c.isAlphanum || c == '_'

/-- The marks that are one character long. -/
def marks : List Char := ['[', ']', '(', ')', '.', '+']

/-! ## The lexer -/

/-- Where the lexer is. What it has collected comes latest first. -/
inductive Mode where
  /-- Outside of tags. -/
  | text (s : List Char)
  /-- Outside of tags, behind a brace. -/
  | brace (s : List Char)
  /-- Between two tokens of a tag. -/
  | inside (kind : Kind) (tokens : List Token)
  /-- In a word. -/
  | word (kind : Kind) (tokens : List Token) (s : List Char)
  /-- Behind an equals sign. -/
  | sign (kind : Kind) (tokens : List Token)
  /-- In a string. -/
  | quoted (kind : Kind) (tokens : List Token) (s : List Char)
  /-- In a string, behind a backslash. -/
  | escaped (kind : Kind) (tokens : List Token) (s : List Char)
  /-- Behind the character that announces the end of a tag. -/
  | closing (kind : Kind) (tokens : List Token)
deriving DecidableEq, Repr

/-- A lexer with the parts it has finished, the latest first. -/
structure Lexer where
  done : List Chunk
  mode : Mode
deriving DecidableEq, Repr

namespace Lexer

/-- Parts with the text that was collected, if there is any. -/
def withText (done : List Chunk) (s : List Char) : List Chunk :=
  if s = [] then done else .text s.reverse :: done

/-- A character between two tokens. -/
def stepInside (done : List Chunk) (kind : Kind) (tokens : List Token) (c : Char) :
    Option Lexer :=
  if c = ' ' then some ⟨done, .inside kind tokens⟩
  else if c = kind.closing then some ⟨done, .closing kind tokens⟩
  else if c = '\'' then some ⟨done, .quoted kind tokens []⟩
  else if c = '=' then some ⟨done, .sign kind tokens⟩
  else if isWordChar c then some ⟨done, .word kind tokens [c]⟩
  else if c ∈ marks then some ⟨done, .inside kind (.mark c :: tokens)⟩
  else none

/-- One more character. -/
def step (l : Lexer) (c : Char) : Option Lexer :=
  match l.mode with
  | .text s => if c = '\x7b' then some ⟨l.done, .brace s⟩ else some ⟨l.done, .text (c :: s)⟩
  | .brace s =>
    if c = '%' then some ⟨withText l.done s, .inside .tag []⟩
    else if c = '\x7b' then some ⟨withText l.done s, .inside .output []⟩
    else if c = '#' then none
    else some ⟨l.done, .text (c :: '\x7b' :: s)⟩
  | .inside kind tokens => stepInside l.done kind tokens c
  | .word kind tokens s =>
    if isWordChar c then some ⟨l.done, .word kind tokens (c :: s)⟩
    else stepInside l.done kind (.word s.reverse :: tokens) c
  | .sign kind tokens =>
    if c = '=' then some ⟨l.done, .inside kind (.equals :: tokens)⟩
    else stepInside l.done kind (.assign :: tokens) c
  | .quoted kind tokens s =>
    if c = '\'' then some ⟨l.done, .inside kind (.str s.reverse :: tokens)⟩
    else if c = '\\' then some ⟨l.done, .escaped kind tokens s⟩
    else some ⟨l.done, .quoted kind tokens (c :: s)⟩
  | .escaped kind tokens s =>
    if c = '\'' ∨ c = '\\' then some ⟨l.done, .quoted kind tokens (c :: s)⟩ else none
  | .closing kind tokens =>
    if c = '\x7d' then some ⟨kind.chunk tokens.reverse :: l.done, .text []⟩ else none

/-- The characters of a text one after the other. -/
def run (l : Lexer) (s : List Char) : Option Lexer :=
  s.foldlM step l

/-- The parts of a text that ends here. -/
def finish? (l : Lexer) : Option (List Chunk) :=
  match l.mode with
  | .text s => some (withText l.done s).reverse
  | .brace s => some (withText l.done ('\x7b' :: s)).reverse
  | _ => none

end Lexer

/-- The parts of a template. -/
def chunks? (s : List Char) : Option (List Chunk) :=
  (Lexer.run ⟨[], .text []⟩ s).bind Lexer.finish?

/-! ## Runs -/

namespace Lexer

theorem run_append (l : Lexer) (s t : List Char) :
    l.run (s ++ t) = (l.run s).bind fun l => l.run t :=
  List.foldlM_append

theorem run_cons (l : Lexer) (c : Char) (s : List Char) :
    l.run (c :: s) = (l.step c).bind fun l => l.run s := by
  rw [run, List.foldlM_cons]
  rfl

/-- Behind a word any other character goes on as behind the finished token. -/
theorem step_word (done : List Chunk) (kind : Kind) (tokens : List Token) (s : List Char) {c : Char}
    (h : isWordChar c = false) :
    step ⟨done, .word kind tokens s⟩ c =
      step ⟨done, .inside kind (.word s.reverse :: tokens)⟩ c := by
  simp [step, h]

end Lexer

/-- Inside a tag, a text is cut into tokens without a look at what follows. -/
def Settles (s : List Char) (tokens : List Token) : Prop :=
  ∀ done kind before, Lexer.run ⟨done, .inside kind before⟩ s =
    some ⟨done, .inside kind (tokens.reverse ++ before)⟩

/-- Inside a tag, a text is cut into tokens if no character of a word follows. -/
def Reads (s : List Char) (tokens : List Token) : Prop :=
  ∀ done kind before c rest, isWordChar c = false →
    Lexer.run ⟨done, .inside kind before⟩ (s ++ c :: rest) =
      Lexer.run ⟨done, .inside kind (tokens.reverse ++ before)⟩ (c :: rest)

theorem Settles.reads {s : List Char} {tokens : List Token} (h : Settles s tokens) :
    Reads s tokens := by
  intro done kind before c rest _
  rw [Lexer.run_append, h]
  rfl

theorem Settles.append_reads {s s' : List Char} {tokens tokens' : List Token}
    (h : Settles s tokens) (h' : Reads s' tokens') : Reads (s ++ s') (tokens ++ tokens') := by
  intro done kind before c rest hc
  rw [List.append_assoc, Lexer.run_append, h, Option.bind_some, h' _ _ _ _ _ hc,
    List.reverse_append, List.append_assoc]

/-- A character that is none of a word separates two texts. -/
theorem Reads.append_settles {s s' : List Char} {tokens tokens' : List Token} {c : Char}
    (h : Reads s tokens) (hc : isWordChar c = false) (h' : Settles (c :: s') tokens') :
    Settles (s ++ c :: s') (tokens ++ tokens') := by
  intro done kind before
  rw [h _ _ _ _ _ hc, h', List.reverse_append, List.append_assoc]

theorem Reads.append_reads {s s' : List Char} {tokens tokens' : List Token} {c : Char}
    (h : Reads s tokens) (hc : isWordChar c = false) (h' : Reads (c :: s') tokens') :
    Reads (s ++ c :: s') (tokens ++ tokens') := by
  intro done kind before d rest hd
  rw [List.append_assoc, List.cons_append, h _ _ _ _ _ hc, ← List.cons_append, h' _ _ _ _ _ hd,
    List.reverse_append, List.append_assoc]

/-- Two texts with an operator between them, which starts with a blank. -/
theorem Reads.between {s s' operator : List Char} {tokens tokens' tokens'' : List Token}
    (h : Reads s tokens) (blank : operator.head? = some ' ') (ho : Settles operator tokens')
    (h' : Reads s' tokens'') : Reads (s ++ operator ++ s') (tokens ++ tokens' ++ tokens'') := by
  obtain ⟨operator, rfl⟩ := List.head?_eq_some_iff.1 blank
  exact (h.append_settles (by decide) ho).append_reads h'

/-! ## Words, marks and strings -/

theorem settles_mark {c : Char} (h : c ∈ marks) : Settles [c] [.mark c] := by
  intro done kind before
  simp only [marks, List.mem_cons, List.not_mem_nil, or_false] at h
  rcases h with rfl | rfl | rfl | rfl | rfl | rfl <;> cases kind <;> rfl

theorem stepInside_word (done : List Chunk) (kind : Kind) (tokens : List Token) {c : Char}
    (h : isWordChar c = true) :
    Lexer.stepInside done kind tokens c = some ⟨done, .word kind tokens [c]⟩ := by
  have ne : ∀ d, isWordChar d = false → c ≠ d := by
    rintro d hd rfl
    rw [hd] at h
    cases h
  have closing : c ≠ kind.closing := by
    cases kind <;> exact ne _ (by decide)
  rw [Lexer.stepInside, if_neg (ne ' ' (by decide)), if_neg closing, if_neg (ne '\'' (by decide)),
    if_neg (ne '=' (by decide)), if_pos h]

theorem run_word (done : List Chunk) (kind : Kind) (tokens : List Token) (s rest : List Char)
    {w : List Char} (h : ∀ c ∈ w, isWordChar c = true) :
    Lexer.run ⟨done, .word kind tokens s⟩ (w ++ rest) =
      Lexer.run ⟨done, .word kind tokens (w.reverse ++ s)⟩ rest := by
  induction w generalizing s with
  | nil => rfl
  | cons c w ih =>
    have step : Lexer.step ⟨done, .word kind tokens s⟩ c =
        some ⟨done, .word kind tokens (c :: s)⟩ := by
      simp only [Lexer.step, h c (by simp), if_true]
    rw [List.cons_append, Lexer.run_cons, step, Option.bind_some,
      ih _ fun d hd => h d (List.mem_cons_of_mem _ hd)]
    simp

theorem reads_word {w : List Char} (hw : w ≠ []) (h : ∀ c ∈ w, isWordChar c = true) :
    Reads w [.word w] := by
  intro done kind before c rest hc
  obtain ⟨d, w, rfl⟩ := List.exists_cons_of_ne_nil hw
  have start : Lexer.step ⟨done, .inside kind before⟩ d = some ⟨done, .word kind before [d]⟩ :=
    stepInside_word done kind before (h d (by simp))
  rw [List.cons_append, Lexer.run_cons, start, Option.bind_some,
    run_word _ _ _ _ _ fun e he => h e (List.mem_cons_of_mem _ he), Lexer.run_cons,
    Lexer.step_word _ _ _ _ hc, Lexer.run_cons]
  simp

theorem run_escape (done : List Chunk) (kind : Kind) (tokens : List Token) (read s : List Char) :
    Lexer.run ⟨done, .quoted kind tokens read⟩ (s.flatMap escape) =
      some ⟨done, .quoted kind tokens (s.reverse ++ read)⟩ := by
  induction s generalizing read with
  | nil => rfl
  | cons c s ih =>
    have one : Lexer.run ⟨done, .quoted kind tokens read⟩ (escape c) =
        some ⟨done, .quoted kind tokens (c :: read)⟩ := by
      by_cases backslash : c = '\\'
      · subst c
        rfl
      by_cases mark : c = '\''
      · subst c
        rfl
      rw [escape, if_neg backslash, if_neg mark, Lexer.run_cons, Lexer.step]
      simp only [if_neg backslash, if_neg mark]
      rfl
    rw [List.flatMap_cons, Lexer.run_append, one, Option.bind_some, ih]
    simp

/-- A quoted text is one token, whatever is in it. -/
theorem settles_quote (s : List Char) : Settles (quote s) [.str s] := by
  intro done kind before
  have start : Lexer.step ⟨done, .inside kind before⟩ '\'' =
      some ⟨done, .quoted kind before []⟩ := by
    cases kind <;> rfl
  rw [quote, List.cons_append, Lexer.run_cons, start, Option.bind_some, Lexer.run_append,
    run_escape, Option.bind_some, List.append_nil]
  simp [Lexer.run, Lexer.step]

/-! ## Expressions -/

/-- A name that is read as one word. -/
structure IsWord (name : String) : Prop where
  ne_nil : name.toList ≠ []
  isWordChar : ∀ c ∈ name.toList, isWordChar c = true

theorem IsWord.of_all {name : String}
    (h : name.toList ≠ [] ∧ name.toList.all Jinja.isWordChar = true) : IsWord name :=
  ⟨h.1, List.all_eq_true.1 h.2⟩

theorem IsWord.reads {name : String} (h : IsWord name) : Reads name.toList [.word name.toList] :=
  reads_word h.ne_nil h.isWordChar

def keyword (s : String) : Token := .word s.toList

/-- The tokens of an expression. -/
def Expr.tokens : Expr → List Token
  | text s => [.str s.toList]
  | number n => [.word (Nat.toDigits 10 n)]
  | var name => [.word name.toList]
  | item e key => e.tokens ++ .mark '[' :: key.tokens ++ [.mark ']']
  | field e name => e.tokens ++ .mark '.' :: [.word name.toList]
  | join a b => a.tokens ++ [.mark '+'] ++ b.tokens
  | equal a b => a.tokens ++ [.equals] ++ b.tokens
  | both a b => a.tokens ++ [keyword "and"] ++ b.tokens
  | isDefined a => a.tokens ++ [keyword "is"] ++ [keyword "defined"]
  | choose yes test no =>
    .mark '(' :: (yes.tokens ++ [keyword "if"] ++ test.tokens ++ [keyword "else"] ++ no.tokens) ++
      [.mark ')']

/-- The names in an expression are words. -/
def Expr.HasWords : Expr → Prop
  | text _ => True
  | number _ => True
  | var name => IsWord name
  | item e key => e.HasWords ∧ key.HasWords
  | field e name => e.HasWords ∧ IsWord name
  | join a b => a.HasWords ∧ b.HasWords
  | equal a b => a.HasWords ∧ b.HasWords
  | both a b => a.HasWords ∧ b.HasWords
  | isDefined a => a.HasWords
  | choose yes test no => yes.HasWords ∧ test.HasWords ∧ no.HasWords

theorem isWord_number (n : Nat) : ∀ c ∈ Nat.toDigits 10 n, isWordChar c = true := by
  intro c hc
  have digit : c.isDigit = true := Nat.isDigit_of_mem_toDigits (by decide) (by decide) hc
  simp [isWordChar, Char.isAlphanum, digit]

/-- What is written for an expression is cut into its tokens. -/
theorem reads_expr {e : Expr} (h : e.HasWords) : Reads e.write e.tokens := by
  induction e with
  | text s => exact (settles_quote s.toList).reads
  | number n => exact reads_word Nat.toDigits_ne_nil (isWord_number n)
  | var name => exact IsWord.reads h
  | item e key ihe ihk =>
    have key := (settles_mark (c := '[') (by decide)).append_reads (ihk h.2)
    exact (((ihe h.1).append_reads (by decide) key).append_settles (by decide)
      (settles_mark (by decide))).reads
  | field e name ih =>
    have name := (settles_mark (c := '.') (by decide)).append_reads h.2.reads
    exact (ih h.1).append_reads (by decide) name
  | join a b iha ihb =>
    have plus : Settles " + ".toList [.mark '+'] :=
      fun _ kind _ => by cases kind <;> rfl
    exact (iha h.1).between (by decide) plus (ihb h.2)
  | equal a b iha ihb =>
    have equals : Settles " == ".toList [.equals] :=
      fun _ kind _ => by cases kind <;> rfl
    exact (iha h.1).between (by decide) equals (ihb h.2)
  | both a b iha ihb =>
    have and : Settles " and ".toList [keyword "and"] :=
      fun _ kind _ => by cases kind <;> rfl
    exact (iha h.1).between (by decide) and (ihb h.2)
  | isDefined a ih =>
    have is : Settles " is ".toList [keyword "is"] :=
      fun _ kind _ => by cases kind <;> rfl
    have defined : Reads "defined".toList [keyword "defined"] :=
      (IsWord.of_all (by decide)).reads
    have split : " is defined".toList = " is ".toList ++ "defined".toList := by decide
    rw [Expr.write, split, ← List.append_assoc a.write " is ".toList "defined".toList]
    exact (ih h).between (by decide) is defined
  | choose yes test no ihy iht ihn =>
    have condition : Settles " if ".toList [keyword "if"] :=
      fun _ kind _ => by cases kind <;> rfl
    have otherwise : Settles " else ".toList [keyword "else"] :=
      fun _ kind _ => by cases kind <;> rfl
    have inner := ((ihy h.1).between (by decide) condition (iht h.2.1)).between (by decide)
      otherwise
      (ihn h.2.2)
    have opened := (settles_mark (c := '(') (by decide)).append_reads inner
    exact (opened.append_settles (by decide) (settles_mark (by decide))).reads

/-! ## Programs -/

mutual

/-- The parts that are written for a statement. -/
def Stmt.chunks : Stmt → List Chunk
  | .set name value => [.tag ([keyword "set"] ++ [.word name.toList] ++ [.assign] ++ value.tokens)]
  | .output value => [.output value.tokens]
  | .cond test body others =>
    .tag ([keyword "if"] ++ test.tokens) :: chunksOfAll body ++ chunksOfOthers others ++
      [.tag [keyword "endif"]]
  | .each name sequence body =>
    .tag ([keyword "for"] ++ [.word name.toList] ++ [keyword "in"] ++ sequence.tokens) ::
      chunksOfAll body ++ [.tag [keyword "endfor"]]

def chunksOfAll : List Stmt → List Chunk
  | [] => []
  | s :: rest => s.chunks ++ chunksOfAll rest

def chunksOfOthers : List (Expr × List Stmt) → List Chunk
  | [] => []
  | (test, body) :: rest =>
    .tag ([keyword "elif"] ++ test.tokens) :: chunksOfAll body ++ chunksOfOthers rest

end

mutual

/-- The names in a statement are words. -/
def Stmt.HasWords : Stmt → Prop
  | .set name value => IsWord name ∧ value.HasWords
  | .output value => value.HasWords
  | .cond test body others => test.HasWords ∧ AllHaveWords body ∧ OthersHaveWords others
  | .each name sequence body => IsWord name ∧ sequence.HasWords ∧ AllHaveWords body

def AllHaveWords : List Stmt → Prop
  | [] => True
  | s :: rest => s.HasWords ∧ AllHaveWords rest

def OthersHaveWords : List (Expr × List Stmt) → Prop
  | [] => True
  | (test, body) :: rest => test.HasWords ∧ AllHaveWords body ∧ OthersHaveWords rest

end

/-- Outside of tags, a text is cut into parts. -/
def Cuts (s : List Char) (chunks : List Chunk) : Prop :=
  ∀ done, Lexer.run ⟨done, .text []⟩ s = some ⟨chunks.reverse ++ done, .text []⟩

theorem cuts_nil : Cuts [] [] := fun _ => rfl

theorem Cuts.append {s s' : List Char} {chunks chunks' : List Chunk} (h : Cuts s chunks)
    (h' : Cuts s' chunks') : Cuts (s ++ s') (chunks ++ chunks') := by
  intro done
  rw [Lexer.run_append, h, Option.bind_some, h', List.reverse_append, List.append_assoc]

/-- What stands between the two ends of a tag becomes its tokens. -/
theorem cuts_between (kind : Kind) {first last s : List Char} {tokens : List Token}
    (start : ∀ done, Lexer.run ⟨done, .text []⟩ first = some ⟨done, .inside kind []⟩)
    (blank : last.head? = some ' ')
    (stop : ∀ done tokens, Lexer.run ⟨done, .inside kind tokens⟩ last =
      some ⟨kind.chunk tokens.reverse :: done, .text []⟩)
    (h : Reads s tokens) : Cuts (first ++ s ++ last) [kind.chunk tokens] := by
  intro done
  obtain ⟨last, rfl⟩ := List.head?_eq_some_iff.1 blank
  rw [List.append_assoc, Lexer.run_append, start, Option.bind_some, h _ _ _ _ _ (by decide), stop]
  simp

theorem cuts_tag {s : List Char} {tokens : List Token} (h : Reads s tokens) :
    Cuts (tag s) [.tag tokens] :=
  cuts_between .tag (fun _ => rfl) (by decide) (fun _ _ => rfl) h

theorem cuts_output {s : List Char} {tokens : List Token} (h : Reads s tokens) :
    Cuts ("\x7b\x7b ".toList ++ s ++ " \x7d\x7d".toList) [.output tokens] :=
  cuts_between .output (fun _ => rfl) (by decide) (fun _ _ => rfl) h

mutual

/-- What is written for a statement is cut into its parts. -/
theorem cuts_stmt : ∀ {s : Stmt}, s.HasWords → Cuts s.write s.chunks
  | .set name value, h => by
    have set : Settles "set ".toList [keyword "set"] := fun _ kind _ => by cases kind <;> rfl
    have assign : Settles " = ".toList [.assign] := fun _ kind _ => by cases kind <;> rfl
    exact cuts_tag ((set.append_reads h.1.reads).between (by decide) assign (reads_expr h.2))
  | .output value, h => cuts_output (reads_expr h)
  | .cond test body others, h => by
    have condition : Settles "if ".toList [keyword "if"] := fun _ kind _ => by cases kind <;> rfl
    have last : Reads "endif".toList [keyword "endif"] := (IsWord.of_all (by decide)).reads
    have first := cuts_tag (condition.append_reads (reads_expr h.1))
    exact ((first.append (cuts_writeAll h.2.1)).append (cuts_writeOthers h.2.2)).append
      (cuts_tag last)
  | .each name sequence body, h => by
    have loop : Settles "for ".toList [keyword "for"] := fun _ kind _ => by cases kind <;> rfl
    have sequence : Settles " in ".toList [keyword "in"] := fun _ kind _ => by cases kind <;> rfl
    have last : Reads "endfor".toList [keyword "endfor"] := (IsWord.of_all (by decide)).reads
    have first := cuts_tag
      ((loop.append_reads h.1.reads).between (by decide) sequence (reads_expr h.2.1))
    exact (first.append (cuts_writeAll h.2.2)).append (cuts_tag last)

theorem cuts_writeAll : ∀ {p : List Stmt}, AllHaveWords p → Cuts (writeAll p) (chunksOfAll p)
  | [], _ => cuts_nil
  | _ :: _, h => (cuts_stmt h.1).append (cuts_writeAll h.2)

theorem cuts_writeOthers : ∀ {others : List (Expr × List Stmt)}, OthersHaveWords others →
    Cuts (writeOthers others) (chunksOfOthers others)
  | [], _ => cuts_nil
  | (test, body) :: rest, h => by
    have condition : Settles "elif ".toList [keyword "elif"] :=
      fun _ kind _ => by cases kind <;> rfl
    have first := cuts_tag (condition.append_reads (reads_expr h.1))
    exact (first.append (cuts_writeAll h.2.1)).append (cuts_writeOthers h.2.2)

end

/-- The text of a program falls into its tags with nothing between them. -/
theorem chunks?_writeAll {p : List Stmt} (h : AllHaveWords p) :
    chunks? (writeAll p) = some (chunksOfAll p) := by
  rw [chunks?, cuts_writeAll h]
  simp [Lexer.finish?, Lexer.withText]

end Colloquy.Jinja
