import Colloquy.Proofs.Jinja.Expressions

/-!
# Reading programs

The parts of a template are read as tags (`readTag?`), and tags are put together to statements: a
tag that opens a block is kept until the one that closes it (`Builder`). The reading of a template
is `read?`; text outside of tags is output.

A program whose expressions are readable is read back from what is written for it
(`read?_writeAll`).
-/

namespace Colloquy.Jinja

/-! ## Tags -/

/-- What a part of a template says. -/
inductive Tag where
  | set (name : String) (value : Expr)
  | output (value : Expr)
  | cond (test : Expr)
  | other (test : Expr)
  | endCond
  | each (name : String) (sequence : Expr)
  | endEach
deriving DecidableEq, Repr

/-- The name of the variable that a word is. -/
def boundName? (w : List Char) : Option String :=
  match atom? w with
  | some (.var name) => some name
  | _ => none

/-- The tag with a variable, a sign or a keyword, and an expression. -/
def readBinding? (sign : Token) (make : String → Expr → Tag) : List Token → Option Tag
  | .word w :: t :: ts =>
    if t = sign then
      match boundName? w, readExpr? ts with
      | some name, some value => some (make name value)
      | _, _ => none
    else none
  | _ => none

def readTag? : Chunk → Option Tag
  | .text s => some (.output (.text (String.ofList s)))
  | .output ts => (readExpr? ts).map .output
  | .tag [] => none
  | .tag (t :: ts) =>
    if t = keyword "set" then readBinding? .assign .set ts
    else if t = keyword "if" then (readExpr? ts).map .cond
    else if t = keyword "elif" then (readExpr? ts).map .other
    else if t = keyword "endif" then if ts = [] then some .endCond else none
    else if t = keyword "for" then readBinding? (keyword "in") .each ts
    else if t = keyword "endfor" then if ts = [] then some .endEach else none
    else none

/-! ## Blocks -/

/-- A block that is not closed yet: a condition with the tests that are finished, the latest first,
and the test at hand, or a loop. -/
inductive Block where
  | cond (finished : List (Expr × List Stmt)) (test : Expr)
  | each (name : String) (sequence : Expr)

/-- The statements of the block at hand, the latest first, and the blocks around it with the
statements before each of them. -/
structure Builder where
  current : List Stmt
  outer : List (Block × List Stmt)

namespace Builder

/-- A condition with its tests and their bodies. -/
def condOf? : List (Expr × List Stmt) → Option Stmt
  | [] => none
  | (test, body) :: others => some (.cond test body others)

/-- One more tag. -/
def step (b : Builder) : Tag → Option Builder
  | .set name value => some ⟨.set name value :: b.current, b.outer⟩
  | .output value => some ⟨.output value :: b.current, b.outer⟩
  | .cond test => some ⟨[], (.cond [] test, b.current) :: b.outer⟩
  | .each name sequence => some ⟨[], (.each name sequence, b.current) :: b.outer⟩
  | .other next =>
    match b.outer with
    | (.cond finished test, before) :: outer =>
      some ⟨[], (.cond ((test, b.current.reverse) :: finished) next, before) :: outer⟩
    | _ => none
  | .endCond =>
    match b.outer with
    | (.cond finished test, before) :: outer =>
      (condOf? ((test, b.current.reverse) :: finished).reverse).map fun s => ⟨s :: before, outer⟩
    | _ => none
  | .endEach =>
    match b.outer with
    | (.each name sequence, before) :: outer =>
      some ⟨.each name sequence b.current.reverse :: before, outer⟩
    | _ => none

/-- Tags one after the other. -/
def run (b : Builder) (tags : List Tag) : Option Builder :=
  tags.foldlM step b

/-- The statements of a template that ends here. -/
def finish? (b : Builder) : Option (List Stmt) :=
  match b.outer with
  | [] => some b.current.reverse
  | _ => none

end Builder

/-- The program that a text writes. -/
def read? (s : List Char) : Option (List Stmt) := do
  let chunks ← chunks? s
  let tags ← chunks.mapM readTag?
  let builder ← Builder.run ⟨[], []⟩ tags
  builder.finish?

/-! ## The tags of a program -/

mutual

/-- The tags of a statement. -/
def Stmt.tags : Stmt → List Tag
  | .set name value => [.set name value]
  | .output value => [.output value]
  | .cond test body others => .cond test :: tagsOfAll body ++ tagsOfOthers others ++ [.endCond]
  | .each name sequence body => .each name sequence :: tagsOfAll body ++ [.endEach]

def tagsOfAll : List Stmt → List Tag
  | [] => []
  | s :: rest => s.tags ++ tagsOfAll rest

def tagsOfOthers : List (Expr × List Stmt) → List Tag
  | [] => []
  | (test, body) :: rest => .other test :: tagsOfAll body ++ tagsOfOthers rest

end

mutual

/-- The expressions of a statement are readable. -/
def Stmt.Readable : Stmt → Prop
  | .set name value => IsVariable name ∧ value.Readable
  | .output value => value.Readable
  | .cond test body others => test.Readable ∧ AllReadable body ∧ OthersReadable others
  | .each name sequence body => IsVariable name ∧ sequence.Readable ∧ AllReadable body

def AllReadable : List Stmt → Prop
  | [] => True
  | s :: rest => s.Readable ∧ AllReadable rest

def OthersReadable : List (Expr × List Stmt) → Prop
  | [] => True
  | (test, body) :: rest => test.Readable ∧ AllReadable body ∧ OthersReadable rest

end

mutual

theorem Stmt.Readable.hasWords : ∀ {s : Stmt}, s.Readable → s.HasWords
  | .set _ _, h => ⟨h.1.isWord, h.2.hasWords⟩
  | .output _, h => Expr.Readable.hasWords h
  | .cond _ _ _, h => ⟨h.1.hasWords, h.2.1.hasWords, h.2.2.hasWords⟩
  | .each _ _ _, h => ⟨h.1.isWord, h.2.1.hasWords, h.2.2.hasWords⟩

theorem AllReadable.hasWords : ∀ {p : List Stmt}, AllReadable p → AllHaveWords p
  | [], _ => trivial
  | _ :: _, h => ⟨h.1.hasWords, h.2.hasWords⟩

theorem OthersReadable.hasWords : ∀ {others : List (Expr × List Stmt)}, OthersReadable others →
    OthersHaveWords others
  | [], _ => trivial
  | (_, _) :: _, h => ⟨h.1.hasWords, h.2.1.hasWords, h.2.2.hasWords⟩

end

theorem AllReadable.append : ∀ {p q : List Stmt}, AllReadable p → AllReadable q →
    AllReadable (p ++ q)
  | [], _, _, hq => hq
  | _ :: _, _, hp, hq => ⟨hp.1, hp.2.append hq⟩

/-! ## Reading tags back -/

/-- The parts of a text are the parts of tags. -/
def ReadsTags (chunks : List Chunk) (tags : List Tag) : Prop :=
  chunks.mapM readTag? = some tags

theorem readsTags_nil : ReadsTags [] [] := rfl

theorem ReadsTags.append {chunks chunks' : List Chunk} {tags tags' : List Tag}
    (h : ReadsTags chunks tags) (h' : ReadsTags chunks' tags') :
    ReadsTags (chunks ++ chunks') (tags ++ tags') := by
  unfold ReadsTags at *
  rw [List.mapM_append, h, h']
  rfl

theorem readsTags_single {chunk : Chunk} {tag : Tag} (h : readTag? chunk = some tag) :
    ReadsTags [chunk] [tag] := by
  rw [ReadsTags, List.mapM_cons, h]
  rfl

theorem readBinding?_tokens {name : String} {value : Expr} (hname : IsVariable name)
    (hvalue : value.Readable) (sign : Token) (make : String → Expr → Tag) :
    readBinding? sign make ([.word name.toList] ++ [sign] ++ value.tokens) =
      some (make name value) := by
  have named : boundName? name.toList = some name := by rw [boundName?, hname.atom]
  rw [List.append_assoc, List.singleton_append, List.singleton_append, readBinding?, if_pos rfl,
    named, readExpr?_tokens hvalue]

mutual

theorem readsTags_stmt : ∀ {s : Stmt}, s.Readable → ReadsTags s.chunks s.tags
  | .set name value, h => by
    have binding := readBinding?_tokens h.1 h.2 .assign .set
    have tag : readTag? (.tag (keyword "set" ::
        ([.word name.toList] ++ [.assign] ++ value.tokens))) = some (.set name value) := by
      rw [readTag?, if_pos rfl, binding]
    exact readsTags_single tag
  | .output value, h => by
    refine readsTags_single ?_
    rw [readTag?, readExpr?_tokens h]
    rfl
  | .cond test body others, h => by
    have first : readTag? (.tag ([keyword "if"] ++ test.tokens)) = some (.cond test) := by
      rw [List.singleton_append, readTag?, if_neg (by decide), if_pos rfl, readExpr?_tokens h.1]
      rfl
    have last : readTag? (.tag [keyword "endif"]) = some .endCond := by decide
    exact (((readsTags_single first).append (readsTags_all h.2.1)).append
      (readsTags_others h.2.2)).append (readsTags_single last)
  | .each name sequence body, h => by
    have binding := readBinding?_tokens h.1 h.2.1 (keyword "in") .each
    have first : readTag? (.tag (keyword "for" ::
        ([.word name.toList] ++ [keyword "in"] ++ sequence.tokens))) =
          some (.each name sequence) := by
      rw [readTag?, if_neg (by decide), if_neg (by decide), if_neg (by decide),
        if_neg (by decide), if_pos rfl, binding]
    have last : readTag? (.tag [keyword "endfor"]) = some .endEach := by decide
    exact ((readsTags_single first).append (readsTags_all h.2.2)).append (readsTags_single last)

theorem readsTags_all : ∀ {p : List Stmt}, AllReadable p → ReadsTags (chunksOfAll p) (tagsOfAll p)
  | [], _ => readsTags_nil
  | _ :: _, h => (readsTags_stmt h.1).append (readsTags_all h.2)

theorem readsTags_others : ∀ {others : List (Expr × List Stmt)}, OthersReadable others →
    ReadsTags (chunksOfOthers others) (tagsOfOthers others)
  | [], _ => readsTags_nil
  | (test, body) :: rest, h => by
    have first : readTag? (.tag ([keyword "elif"] ++ test.tokens)) = some (.other test) := by
      rw [List.singleton_append, readTag?, if_neg (by decide), if_neg (by decide), if_pos rfl,
        readExpr?_tokens h.1]
      rfl
    exact ((readsTags_single first).append (readsTags_all h.2.1)).append (readsTags_others h.2.2)

end

/-! ## Building statements -/

namespace Builder

theorem run_append (b : Builder) (tags tags' : List Tag) :
    b.run (tags ++ tags') = (b.run tags).bind fun b => b.run tags' :=
  List.foldlM_append

theorem run_cons (b : Builder) (tag : Tag) (tags : List Tag) :
    b.run (tag :: tags) = (b.step tag).bind fun b => b.run tags := by
  rw [run, List.foldlM_cons]
  rfl

theorem run_single (b : Builder) (tag : Tag) : b.run [tag] = b.step tag := by
  rw [run_cons]
  cases b.step tag <;> rfl

mutual

/-- The tags of a statement add it to the block at hand. -/
theorem run_stmt : ∀ (s : Stmt) (current : List Stmt) (outer : List (Block × List Stmt)),
    run ⟨current, outer⟩ s.tags = some ⟨s :: current, outer⟩
  | .set name value, current, outer => by rw [Stmt.tags, run_single, step]
  | .output value, current, outer => by rw [Stmt.tags, run_single, step]
  | .cond test body others, current, outer => by
    rw [Stmt.tags, List.cons_append, List.cons_append, run_cons, step, Option.bind_some,
      List.append_assoc, run_append, run_all, Option.bind_some]
    have rest := run_others others [] test body current outer
    rw [List.append_nil]
    rw [rest]
    rfl
  | .each name sequence body, current, outer => by
    rw [Stmt.tags, List.cons_append, run_cons, step, Option.bind_some, run_append, run_all,
      Option.bind_some, run_single, step, List.append_nil, List.reverse_reverse]

theorem run_all : ∀ (p current : List Stmt) (outer : List (Block × List Stmt)),
    run ⟨current, outer⟩ (tagsOfAll p) = some ⟨p.reverse ++ current, outer⟩
  | [], current, outer => by rw [tagsOfAll]; rfl
  | s :: rest, current, outer => by
    rw [tagsOfAll, run_append, run_stmt, Option.bind_some, run_all]
    simp

theorem run_others : ∀ (others finished : List (Expr × List Stmt)) (test : Expr)
    (body before : List Stmt) (outer : List (Block × List Stmt)),
    run ⟨body.reverse, (.cond finished test, before) :: outer⟩
        (tagsOfOthers others ++ [.endCond]) =
      (condOf? (finished.reverse ++ (test, body) :: others)).map fun s => ⟨s :: before, outer⟩
  -- The end of the condition puts its tests in order, of which `finished` holds the latest first.
  | [], finished, test, body, before, outer => by
    rw [tagsOfOthers, List.nil_append, run_single, step]
    simp
  | (next, body') :: rest, finished, test, body, before, outer => by
    rw [tagsOfOthers, List.cons_append, List.cons_append, run_cons, step, Option.bind_some,
      List.append_assoc, run_append, run_all, Option.bind_some, List.append_nil, run_others]
    simp

end

end Builder

/-- A readable program is read back from its text. -/
theorem read?_writeAll {p : List Stmt} (h : AllReadable p) : read? (writeAll p) = some p := by
  have built := Builder.run_all p [] []
  rw [List.append_nil] at built
  have tags : (chunksOfAll p).mapM readTag? = some (tagsOfAll p) := readsTags_all h
  simp only [read?, chunks?_writeAll h.hasWords, tags, built, Option.bind_eq_bind,
    Option.bind_some, Builder.finish?, List.reverse_reverse]

end Colloquy.Jinja
