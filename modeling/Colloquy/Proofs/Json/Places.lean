import Colloquy.Json.Reader

/-!
# Places in a JSON text

What may come next in a JSON text depends on the place: outside of strings only the characters of
the grammar, right behind a string only a blank or a mark that ends a value, inside of a string
anything but control characters. `Place.walk?` follows a text from place to place without regard for
its nesting. The reader only takes what can be walked through (`leads_of_readValue?`), so a text
that can be read leads from outside of strings to outside of strings (`walk?_of_parse?`).

A text that can be walked through both from inside of a string and from outside of it ends on
opposite sides (`Place.Opposite.walk?`). So a text cannot be read from the middle of a string on
(`parse?_eq_none_of_inside`).
-/

namespace Colloquy.Json

/-- The marks behind a key and behind a value. -/
def isMark (c : Char) : Bool :=
  c == ',' || c == ':' || c == ']' || c == '\x7d'

/-- The characters of literals, numerals and opening brackets. -/
def isToken (c : Char) : Bool :=
  c.isDigit || c ∈ "nulltruefalse+-.eE[\x7b".toList

/-- A place in a JSON text. -/
inductive Place where
  /-- Outside of strings. -/
  | between
  /-- Behind the closing quotation mark of a string. -/
  | behind
  /-- Inside of a string. -/
  | inside
  /-- Inside of a string behind a backslash. -/
  | escaped
deriving DecidableEq, Repr

namespace Place

/-- Whether a place is outside of strings. -/
def outside : Place → Bool
  | between | behind => true
  | inside | escaped => false

/-- The place behind a character, if it may stand there. -/
def step? : Place → Char → Option Place
  | between, c =>
    if c = '"' then some inside
    else if isSpace c || isMark c || isToken c then some between
    else none
  | behind, c =>
    if isSpace c then some behind else if isMark c then some between else none
  | inside, c =>
    if c = '"' then some behind
    else if c = '\\' then some escaped
    else if c.toNat < 0x20 then none
    else some inside
  | escaped, c =>
    if c = 'u' ∨ (unescape? c).isSome then some inside else none

/-- The place behind a text, if it can be walked through. -/
def walk? (p : Place) : List Char → Option Place
  | [] => some p
  | c :: cs => (p.step? c).bind (·.walk? cs)

theorem walk?_append (p : Place) (x s : List Char) :
    p.walk? (x ++ s) = (p.walk? x).bind (·.walk? s) := by
  induction x generalizing p with
  | nil => rfl
  | cons c x ih =>
    rw [List.cons_append, walk?, walk?]
    cases p.step? c with
    | none => rfl
    | some q => exact ih q

theorem walk?_append_eq_some {p r : Place} {x s : List Char} :
    p.walk? (x ++ s) = some r ↔ ∃ q, p.walk? x = some q ∧ q.walk? s = some r := by
  rw [walk?_append, Option.bind_eq_some_iff]

/-- Characters that do not lead away. -/
theorem walk?_eq_self {p : Place} {x : List Char} (h : ∀ c ∈ x, p.step? c = some p) :
    p.walk? x = some p := by
  induction x with
  | nil => rfl
  | cons c x ih =>
    rw [walk?, h c (by simp), Option.bind_some, ih fun d hd => h d (List.mem_cons_of_mem _ hd)]

/-! ## Steps of the reader -/

/-- A step that takes a text and gives back what follows leads from one place to another. -/
def Leads (p : Place) (s : List Char) (q : Place) (rest : List Char) : Prop :=
  ∃ x, s = x ++ rest ∧ p.walk? x = some q

theorem Leads.refl (p : Place) (s : List Char) : Leads p s p s := ⟨[], rfl, rfl⟩

theorem Leads.trans {p q r : Place} {s t u : List Char} (h : Leads p s q t) (k : Leads q t r u) :
    Leads p s r u := by
  obtain ⟨x, rfl, hx⟩ := h
  obtain ⟨y, rfl, hy⟩ := k
  exact ⟨x ++ y, (List.append_assoc ..).symm, walk?_append_eq_some.2 ⟨q, hx, hy⟩⟩

theorem Leads.of_walk? {p q : Place} {x : List Char} (h : p.walk? x = some q) (s : List Char) :
    Leads p (x ++ s) q s :=
  ⟨x, rfl, h⟩

theorem Leads.cons {p q : Place} {c : Char} (h : p.step? c = some q) (s : List Char) :
    Leads p (c :: s) q s :=
  ⟨[c], rfl, by rw [walk?, h]; rfl⟩

theorem Leads.dropWhile {p : Place} {q : Char → Bool} (h : ∀ c, q c = true → p.step? c = some p)
    (s : List Char) : Leads p s p (s.dropWhile q) :=
  ⟨s.takeWhile q, List.takeWhile_append_dropWhile.symm,
    walk?_eq_self fun c hc => h c (List.all_eq_true.1 List.all_takeWhile c hc)⟩

theorem step?_of_isSpace {p : Place} (hp : p.outside = true) {c : Char} (hc : isSpace c = true) :
    p.step? c = some p := by
  have quote : c ≠ '"' := by
    rintro rfl
    cases hc
  cases p with
  | between => simp [step?, quote, hc]
  | behind => simp [step?, hc]
  | inside => cases hp
  | escaped => cases hp

theorem step?_of_isMark {p : Place} (hp : p.outside = true) {c : Char} (hc : isMark c = true) :
    p.step? c = some between := by
  have quote : c ≠ '"' ∧ isSpace c = false := by
    simp only [isMark, Bool.or_eq_true, beq_iff_eq] at hc
    rcases hc with ((rfl | rfl) | rfl) | rfl <;> decide
  cases p with
  | between => simp [step?, quote, hc]
  | behind => simp [step?, quote, hc]
  | inside => cases hp
  | escaped => cases hp

theorem step?_of_isToken {c : Char} (hc : isToken c = true) : between.step? c = some between := by
  have quote : c ≠ '"' := by
    rintro rfl
    exact absurd hc (by decide)
  simp [step?, quote, hc]

theorem leads_skipSpace {p : Place} (hp : p.outside = true) (s : List Char) :
    Leads p s p (skipSpace s) :=
  Leads.dropWhile (fun _ => step?_of_isSpace hp) s

/-- A mark and the blanks before it lead on to the next value. -/
theorem leads_of_skipSpace_eq_cons {p : Place} (hp : p.outside = true) {c : Char}
    (hc : isMark c = true) {s rest : List Char} (h : skipSpace s = c :: rest) :
    Leads p s between rest :=
  (h ▸ leads_skipSpace hp s).trans (.cons (step?_of_isMark hp hc) rest)

end Place

open Place

namespace Document

/-! ## Strings -/

theorem step?_of_hexValue? {c : Char} {d : Nat} (h : hexValue? c = some d) :
    inside.step? c = some inside := by
  have range : 48 ≤ c.toNat ∧ c.toNat ≤ 57 ∨ 97 ≤ c.toNat ∧ c.toNat ≤ 102 ∨
      65 ≤ c.toNat ∧ c.toNat ≤ 70 := by
    unfold hexValue? at h
    split at h
    · exact .inl ‹_›
    split at h
    · exact .inr (.inl ‹_›)
    split at h
    · exact .inr (.inr ‹_›)
    · cases h
  have quote : c ≠ '"' := by
    rintro rfl
    exact absurd range (by decide)
  have backslash : c ≠ '\\' := by
    rintro rfl
    exact absurd range (by decide)
  rw [step?, if_neg quote, if_neg backslash, if_neg (by omega)]

theorem walk?_of_readHex? {n m : Nat} {s : List Char} (h : readHex? n s = some m) :
    inside.walk? s = some inside := by
  induction s generalizing n with
  | nil => rfl
  | cons c cs ih =>
    rw [readHex?] at h
    split at h
    · rw [walk?, step?_of_hexValue? ‹_›]
      exact ih h
    · cases h

/-- A string is read up to the place behind it. -/
theorem leads_of_readString? {done pieces : List Piece} {s rest : List Char}
    (h : readString? done s = some (pieces, rest)) : Leads inside s behind rest := by
  fun_induction readString? done s with
  | case1 => cases h
  | case2 done a b c d s n hex ih =>
    have unit : inside.walk? ['\\', 'u', a, b, c, d] = some inside := by
      have digits := walk?_of_readHex? hex
      simpa [walk?, step?] using digits
    exact (Leads.of_walk? unit s).trans (ih h)
  | case3 => cases h
  | case4 done e s _ c hc ih =>
    have escape : inside.walk? ['\\', e] = some inside := by
      simp [walk?, step?, hc]
    exact (Leads.of_walk? escape s).trans (ih h)
  | case5 => cases h
  | case6 done s =>
    obtain ⟨-, rfl⟩ := Prod.mk.inj (Option.some.inj h)
    exact .cons rfl _
  | case7 => cases h
  | case8 done c s _ _ quote plain ih =>
    rw [not_or] at plain
    refine Leads.trans (.cons ?_ s) (ih h)
    rw [step?, if_neg quote, if_neg plain.1, if_neg plain.2]

/-! ## Numerals -/

theorem leads_of_readDigits? {s digits rest : List Char}
    (h : readDigits? s = some (digits, rest)) : Leads between s between rest := by
  unfold readDigits? at h
  dsimp only at h
  split at h
  · cases h
  · obtain ⟨-, rfl⟩ := Prod.mk.inj (Option.some.inj h)
    exact Leads.dropWhile (fun c hc => step?_of_isToken (by simp [isToken, hc])) s

theorem leads_of_readWhole? {s digits rest : List Char}
    (h : readWhole? s = some (digits, rest)) : Leads between s between rest := by
  unfold readWhole? at h
  split at h
  · rename_i digits rest hd
    split at h
    · cases h
    · obtain ⟨-, rfl⟩ := Prod.mk.inj (Option.some.inj h)
      exact leads_of_readDigits? hd
  · cases h

theorem leads_of_readFraction? {s digits rest : List Char}
    (h : readFraction? s = some (digits, rest)) : Leads between s between rest := by
  unfold readFraction? at h
  split at h
  · exact .trans (.cons rfl _) (leads_of_readDigits? h)
  · obtain ⟨-, rfl⟩ := Prod.mk.inj (Option.some.inj h)
    exact .refl ..

theorem leads_of_readExponent? {s : List Char} {exponent : Option (Bool × List Char)}
    {rest : List Char} (h : readExponent? s = some (exponent, rest)) :
    Leads between s between rest := by
  unfold readExponent? at h
  split at h
  · split at h
    · rename_i c s hc
      have letter : between.step? c = some between := by
        rcases hc with rfl | rfl <;> rfl
      split at h
      all_goals
        obtain ⟨⟨digits, _⟩, hd, heq⟩ := Option.map_eq_some_iff.1 h
        obtain ⟨-, rfl⟩ := Prod.mk.inj heq
      · exact .trans (.cons letter _) (.trans (.cons rfl _) (leads_of_readDigits? hd))
      · exact .trans (.cons letter _) (.trans (.cons rfl _) (leads_of_readDigits? hd))
      · exact .trans (.cons letter _) (leads_of_readDigits? hd)
    · obtain ⟨-, rfl⟩ := Prod.mk.inj (Option.some.inj h)
      exact .refl ..
  · obtain ⟨-, rfl⟩ := Prod.mk.inj (Option.some.inj h)
    exact .refl ..

theorem leads_of_readUnsigned? {negative : Bool} {s : List Char} {n : Numeral} {rest : List Char}
    (h : readUnsigned? negative s = some (n, rest)) : Leads between s between rest := by
  unfold readUnsigned? at h
  obtain ⟨⟨whole, s₁⟩, hw, h⟩ := Option.bind_eq_some_iff.1 h
  obtain ⟨⟨fraction, s₂⟩, hf, h⟩ := Option.bind_eq_some_iff.1 h
  obtain ⟨⟨exponent, s₃⟩, he, h⟩ := Option.bind_eq_some_iff.1 h
  obtain ⟨-, rfl⟩ := Prod.mk.inj (Option.some.inj h)
  exact (leads_of_readWhole? hw).trans
    ((leads_of_readFraction? hf).trans (leads_of_readExponent? he))

theorem leads_of_readNumeral? {s : List Char} {n : Numeral} {rest : List Char}
    (h : readNumeral? s = some (n, rest)) : Leads between s between rest := by
  unfold readNumeral? at h
  split at h
  · exact .trans (.cons rfl _) (leads_of_readUnsigned? h)
  · exact leads_of_readUnsigned? h

/-! ## Values -/

/-- What it takes to read a value. -/
inductive ReadsValue (n : Nat) : List Char → Document → List Char → Prop where
  | str {body rest : List Char} {pieces : List Piece}
    (read : readString? [] body = some (pieces, rest)) :
      ReadsValue n ('"' :: body) (.str pieces) rest
  | emptyArr {body rest : List Char} (close : skipSpace body = ']' :: rest) :
      ReadsValue n ('[' :: body) (.arr []) rest
  | arr {body rest : List Char} {d : Document}
    (read : readItems? n [] (skipSpace body) = some (d, rest)) : ReadsValue n ('[' :: body) d rest
  | emptyObj {body rest : List Char} (close : skipSpace body = '\x7d' :: rest) :
      ReadsValue n ('\x7b' :: body) (.obj []) rest
  | obj {body rest : List Char} {d : Document}
    (read : readMembers? n [] (skipSpace body) = some (d, rest)) :
      ReadsValue n ('\x7b' :: body) d rest
  | null (rest : List Char) : ReadsValue n ('n' :: 'u' :: 'l' :: 'l' :: rest) .null rest
  | true (rest : List Char) : ReadsValue n ('t' :: 'r' :: 'u' :: 'e' :: rest) (.bool .true) rest
  | false (rest : List Char) :
      ReadsValue n ('f' :: 'a' :: 'l' :: 's' :: 'e' :: rest) (.bool .false) rest
  | num {s rest : List Char} {numeral : Numeral} (read : readNumeral? s = some (numeral, rest)) :
      ReadsValue n s (.num numeral) rest

theorem readsValue_of_readValue? {n : Nat} {s : List Char} {d : Document} {rest : List Char}
    (h : readValue? (n + 1) s = some (d, rest)) : ReadsValue n (skipSpace s) d rest := by
  rw [readValue?] at h
  split at h
  · rename_i heq
    obtain ⟨⟨pieces, rest⟩, read, hd⟩ := Option.map_eq_some_iff.1 h
    obtain ⟨rfl, rfl⟩ := Prod.mk.inj hd
    rw [heq]
    exact .str read
  · rename_i heq
    rw [heq]
    split at h
    · obtain ⟨rfl, rfl⟩ := Prod.mk.inj (Option.some.inj h)
      exact .emptyArr ‹_›
    · exact .arr h
  · rename_i heq
    rw [heq]
    split at h
    · obtain ⟨rfl, rfl⟩ := Prod.mk.inj (Option.some.inj h)
      exact .emptyObj ‹_›
    · exact .obj h
  · rename_i heq
    obtain ⟨rfl, rfl⟩ := Prod.mk.inj (Option.some.inj h)
    rw [heq]
    exact .null _
  · rename_i heq
    obtain ⟨rfl, rfl⟩ := Prod.mk.inj (Option.some.inj h)
    rw [heq]
    exact .true _
  · rename_i heq
    obtain ⟨rfl, rfl⟩ := Prod.mk.inj (Option.some.inj h)
    rw [heq]
    exact .false _
  · obtain ⟨⟨numeral, rest⟩, read, hd⟩ := Option.map_eq_some_iff.1 h
    obtain ⟨rfl, rfl⟩ := Prod.mk.inj hd
    exact .num read

/-- An array ends behind an item or goes on with a comma. -/
theorem readItems?_eq_some {n : Nat} {done : List Document} {s : List Char} {d : Document}
    {rest : List Char} (h : readItems? (n + 1) done s = some (d, rest)) :
    ∃ item after, readValue? n s = some (item, after) ∧
      (skipSpace after = ']' :: rest ∧ d = .arr (item :: done).reverse ∨
        ∃ more, skipSpace after = ',' :: more ∧ readItems? n (item :: done) more = some (d, rest)) := by
  rw [readItems?] at h
  split at h
  · rename_i item after read
    refine ⟨item, after, read, ?_⟩
    split at h
    · exact .inr ⟨_, ‹_›, h⟩
    · obtain ⟨rfl, rfl⟩ := Prod.mk.inj (Option.some.inj h)
      exact .inl ⟨‹_›, rfl⟩
    · cases h
  · cases h

/-- An object ends behind a member or goes on with a comma. -/
theorem readMembers?_eq_some {n : Nat} {done : List (List Piece × Document)} {s : List Char}
    {d : Document} {rest : List Char} (h : readMembers? (n + 1) done s = some (d, rest)) :
    ∃ body key colon text value after, skipSpace s = '"' :: body ∧
      readString? [] body = some (key, colon) ∧ skipSpace colon = ':' :: text ∧
      readValue? n text = some (value, after) ∧
      (skipSpace after = '\x7d' :: rest ∧ d = .obj ((key, value) :: done).reverse ∨
        ∃ more, skipSpace after = ',' :: more ∧
          readMembers? n ((key, value) :: done) more = some (d, rest)) := by
  rw [readMembers?] at h
  split at h
  · rename_i body quote
    split at h
    · rename_i key colon readKey
      split at h
      · rename_i text mark
        split at h
        · rename_i value after readValue
          refine ⟨body, key, colon, text, value, after, quote, readKey, mark, readValue, ?_⟩
          split at h
          · exact .inr ⟨_, ‹_›, h⟩
          · obtain ⟨rfl, rfl⟩ := Prod.mk.inj (Option.some.inj h)
            exact .inl ⟨‹_›, rfl⟩
          · cases h
        · cases h
      · cases h
    · cases h
  · cases h

mutual

/-- A value is read up to a place outside of strings. -/
theorem leads_of_readValue? (n : Nat) {s : List Char} {d : Document} {rest : List Char}
    (h : readValue? n s = some (d, rest)) : ∃ q, q.outside = true ∧ Leads between s q rest := by
  match n with
  | 0 =>
    rw [readValue?] at h
    cases h
  | n + 1 =>
    have start : Leads between s between (skipSpace s) := leads_skipSpace rfl s
    have reads := readsValue_of_readValue? h
    generalize skipSpace s = t at start reads
    cases reads with
    | str read => exact ⟨behind, rfl, start.trans (.trans (.cons rfl _) (leads_of_readString? read))⟩
    | emptyArr close =>
      exact ⟨between, rfl, start.trans (.trans (.cons rfl _)
        (leads_of_skipSpace_eq_cons rfl rfl close))⟩
    | arr read =>
      exact ⟨between, rfl, start.trans (.trans (.cons rfl _)
        (.trans (leads_skipSpace rfl _) (leads_of_readItems? n read)))⟩
    | emptyObj close =>
      exact ⟨between, rfl, start.trans (.trans (.cons rfl _)
        (leads_of_skipSpace_eq_cons rfl rfl close))⟩
    | obj read =>
      exact ⟨between, rfl, start.trans (.trans (.cons rfl _)
        (.trans (leads_skipSpace rfl _) (leads_of_readMembers? n read)))⟩
    | null =>
      have token : between.walk? ['n', 'u', 'l', 'l'] = some between := by decide
      exact ⟨between, rfl, start.trans (.of_walk? token _)⟩
    | true =>
      have token : between.walk? ['t', 'r', 'u', 'e'] = some between := by decide
      exact ⟨between, rfl, start.trans (.of_walk? token _)⟩
    | false =>
      have token : between.walk? ['f', 'a', 'l', 's', 'e'] = some between := by decide
      exact ⟨between, rfl, start.trans (.of_walk? token _)⟩
    | num read => exact ⟨between, rfl, start.trans (leads_of_readNumeral? read)⟩

/-- The items of an array are read up to a place outside of strings. -/
theorem leads_of_readItems? (n : Nat) {done : List Document} {s : List Char} {d : Document}
    {rest : List Char} (h : readItems? n done s = some (d, rest)) :
    Leads between s between rest := by
  match n with
  | 0 =>
    rw [readItems?] at h
    cases h
  | n + 1 =>
    obtain ⟨item, after, read, next⟩ := readItems?_eq_some h
    obtain ⟨q, hq, lead⟩ := leads_of_readValue? n read
    refine lead.trans ?_
    rcases next with ⟨close, -⟩ | ⟨more, comma, read⟩
    · exact leads_of_skipSpace_eq_cons hq rfl close
    · exact (leads_of_skipSpace_eq_cons hq rfl comma).trans (leads_of_readItems? n read)

/-- The members of an object are read up to a place outside of strings. -/
theorem leads_of_readMembers? (n : Nat) {done : List (List Piece × Document)} {s : List Char}
    {d : Document} {rest : List Char} (h : readMembers? n done s = some (d, rest)) :
    Leads between s between rest := by
  match n with
  | 0 =>
    rw [readMembers?] at h
    cases h
  | n + 1 =>
    obtain ⟨body, key, colon, text, value, after, quote, readKey, mark, read, next⟩ :=
      readMembers?_eq_some h
    obtain ⟨q, hq, lead⟩ := leads_of_readValue? n read
    have start : Leads between s between ('"' :: body) := quote ▸ leads_skipSpace rfl s
    have keyed : Leads between ('"' :: body) behind colon :=
      .trans (.cons rfl body) (leads_of_readString? readKey)
    refine start.trans (keyed.trans ((leads_of_skipSpace_eq_cons rfl rfl mark).trans
      (lead.trans ?_)))
    rcases next with ⟨close, -⟩ | ⟨more, comma, read⟩
    · exact leads_of_skipSpace_eq_cons hq rfl close
    · exact (leads_of_skipSpace_eq_cons hq rfl comma).trans (leads_of_readMembers? n read)

end

/-! ## First characters -/

theorem isMark_of_readNumeral? {c : Char} {cs : List Char} {x : Numeral × List Char}
    (h : readNumeral? (c :: cs) = some x) : isMark c = false := by
  rw [Bool.eq_false_iff]
  intro hc
  simp only [isMark, Bool.or_eq_true, beq_iff_eq] at hc
  rcases hc with ((rfl | rfl) | rfl) | rfl <;>
    simp [readNumeral?, readUnsigned?, readWhole?, readDigits?] at h

/-- A value starts with no mark that ends one. -/
theorem exists_skipSpace_eq_cons {n : Nat} {s : List Char} {d : Document} {rest : List Char}
    (h : readValue? n s = some (d, rest)) :
    ∃ c cs, skipSpace s = c :: cs ∧ isMark c = false := by
  match n with
  | 0 =>
    rw [readValue?] at h
    cases h
  | n + 1 =>
    have reads := readsValue_of_readValue? h
    generalize skipSpace s = t at reads
    cases reads with
    | str | emptyArr | arr | emptyObj | obj | null | true | false =>
      exact ⟨_, _, rfl, by decide⟩
    | @num t _ _ read =>
      cases t with
      | nil => exact nomatch read
      | cons c cs => exact ⟨c, cs, rfl, isMark_of_readNumeral? read⟩

theorem exists_eq_arr {n : Nat} {done : List Document} {s : List Char} {d : Document}
    {rest : List Char} (h : readItems? n done s = some (d, rest)) : ∃ items, d = .arr items := by
  induction n generalizing done s with
  | zero =>
    rw [readItems?] at h
    cases h
  | succ n ih =>
    obtain ⟨item, after, -, ⟨-, rfl⟩ | ⟨more, -, read⟩⟩ := readItems?_eq_some h
    · exact ⟨_, rfl⟩
    · exact ih read

theorem exists_eq_obj {n : Nat} {done : List (List Piece × Document)} {s : List Char}
    {d : Document} {rest : List Char} (h : readMembers? n done s = some (d, rest)) :
    ∃ members, d = .obj members := by
  induction n generalizing done s with
  | zero =>
    rw [readMembers?] at h
    cases h
  | succ n ih =>
    obtain ⟨_, _, _, _, _, _, -, -, -, -, ⟨-, rfl⟩ | ⟨more, -, read⟩⟩ := readMembers?_eq_some h
    · exact ⟨_, rfl⟩
    · exact ih read

/-- A string starts with a quotation mark, and more follows. -/
theorem exists_skipSpace_eq_quote {n : Nat} {s : List Char} {pieces : List Piece}
    {rest : List Char} (h : readValue? n s = some (.str pieces, rest)) :
    ∃ z, z ≠ [] ∧ skipSpace s = '"' :: z := by
  match n with
  | 0 =>
    rw [readValue?] at h
    cases h
  | n + 1 =>
    have reads := readsValue_of_readValue? h
    generalize skipSpace s = t at reads
    cases reads with
    | @str body _ _ read =>
      refine ⟨body, ?_, rfl⟩
      rintro rfl
      exact nomatch read
    | arr read =>
      obtain ⟨items, hd⟩ := exists_eq_arr read
      cases hd
    | obj read =>
      obtain ⟨members, hd⟩ := exists_eq_obj read
      cases hd

theorem exists_eq_str {d : Document} {u : String} (h : d.value? = some (.str u)) :
    ∃ pieces, d = .str pieces := by
  rw [value?] at h
  cases d with
  | null =>
    rw [valueWithin?] at h
    cases h
  | bool b =>
    rw [valueWithin?] at h
    cases h
  | num n =>
    rw [valueWithin?, Numeral.value?] at h
    dsimp only at h
    split at h
    · cases h
    · obtain ⟨x, -, hx⟩ := Option.map_eq_some_iff.1 h
      cases hx
  | str pieces => exact ⟨pieces, rfl⟩
  | arr items =>
    rw [valueWithin?, if_neg (by decide)] at h
    obtain ⟨vs, -, hv⟩ := Option.map_eq_some_iff.1 h
    cases hv
  | obj members =>
    rw [valueWithin?, if_neg (by decide)] at h
    obtain ⟨ms, -, hm⟩ := Option.map_eq_some_iff.1 h
    cases hm

end Document

/-! ## Opposite sides -/

namespace Place

/-- One of two places is inside of a string and the other one outside. -/
def Opposite (p q : Place) : Prop :=
  p = inside ∧ q.outside = true ∨ q = inside ∧ p.outside = true

theorem Opposite.symm {p q : Place} (h : Opposite p q) : Opposite q p := Or.symm h

/-- A character either is a quotation mark, which leads both to the other side, or leaves both on
their sides. A backslash may not stand outside of a string. -/
theorem opposite_step? {q p' q' : Place} (hq : q.outside = true) {c : Char}
    (hp' : inside.step? c = some p') (hq' : q.step? c = some q') : Opposite p' q' := by
  by_cases quote : c = '"'
  · subst quote
    obtain rfl : behind = p' := Option.some.inj hp'
    cases q with
    | between =>
      obtain rfl : inside = q' := Option.some.inj hq'
      exact .inr ⟨rfl, rfl⟩
    | behind => exact nomatch (show none = some q' from hq')
    | inside => cases hq
    | escaped => cases hq
  by_cases backslash : c = '\\'
  · subst backslash
    cases q with
    | between => exact nomatch (show none = some q' from hq')
    | behind => exact nomatch (show none = some q' from hq')
    | inside => cases hq
    | escaped => cases hq
  have here : p' = inside := by
    rw [step?, if_neg quote, if_neg backslash] at hp'
    split at hp'
    · cases hp'
    · exact (Option.some.inj hp').symm
  have there : q'.outside = true := by
    cases q with
    | between =>
      rw [step?, if_neg quote] at hq'
      split at hq'
      · rw [← Option.some.inj hq']
        rfl
      · cases hq'
    | behind =>
      rw [step?] at hq'
      split at hq'
      · rw [← Option.some.inj hq']
        rfl
      · split at hq'
        · rw [← Option.some.inj hq']
          rfl
        · cases hq'
    | inside => cases hq
    | escaped => cases hq
  exact .inl ⟨here, there⟩

/-- A text that can be walked through from opposite sides ends on opposite sides. -/
theorem Opposite.walk? {p q p' q' : Place} (h : Opposite p q) {x : List Char}
    (hp : p.walk? x = some p') (hq : q.walk? x = some q') : Opposite p' q' := by
  induction x generalizing p q with
  | nil =>
    obtain rfl := Option.some.inj hp
    obtain rfl := Option.some.inj hq
    exact h
  | cons c x ih =>
    obtain ⟨p₁, hp₁, hp⟩ := Option.bind_eq_some_iff.1 hp
    obtain ⟨q₁, hq₁, hq⟩ := Option.bind_eq_some_iff.1 hq
    refine ih ?_ hp hq
    rcases h with ⟨rfl, out⟩ | ⟨rfl, out⟩
    · exact opposite_step? out hp₁ hq₁
    · exact (opposite_step? out hq₁ hp₁).symm

end Place

/-! ## Texts that are read -/

/-- A text that is read starts with a value and leads from outside of strings to outside. -/
theorem walk?_of_parse? {s : List Char} {v : Json} (h : parse? (String.ofList s) = some v) :
    (∃ c cs, skipSpace s = c :: cs ∧ isMark c = false) ∧
      ∃ q, q.outside = true ∧ between.walk? s = some q := by
  obtain ⟨d, hd, -⟩ := Option.bind_eq_some_iff.1 h
  rw [Document.parse?, String.toList_ofList, Document.read?] at hd
  split at hd
  · rename_i e rest he
    split at hd
    · rename_i ends
      refine ⟨Document.exists_skipSpace_eq_cons he, ?_⟩
      obtain ⟨q, hq, lead⟩ := Document.leads_of_readValue? _ he
      obtain ⟨x, hx, walk⟩ := lead.trans (ends ▸ leads_skipSpace hq rest)
      rw [List.append_nil] at hx
      exact ⟨q, hq, hx ▸ walk⟩
    · cases hd
  · cases hd

/-- A text that is read as a string starts with a quotation mark, and more follows. -/
theorem exists_skipSpace_eq_quote_of_parse? {s : List Char} {u : String}
    (h : parse? (String.ofList s) = some (.str u)) : ∃ z, z ≠ [] ∧ skipSpace s = '"' :: z := by
  obtain ⟨d, hd, value⟩ := Option.bind_eq_some_iff.1 h
  obtain ⟨pieces, rfl⟩ := Document.exists_eq_str value
  rw [Document.parse?, String.toList_ofList, Document.read?] at hd
  split at hd
  · rename_i e rest he
    split at hd
    · rw [Option.some.inj hd] at he
      exact Document.exists_skipSpace_eq_quote he
    · cases hd
  · cases hd

/-- Nothing is read from right behind a string on. -/
theorem parse?_eq_none_of_behind {s : List Char} {q : Place} (h : behind.walk? s = some q) :
    parse? (String.ofList s) = none := by
  rw [Option.eq_none_iff_forall_ne_some]
  intro v hv
  obtain ⟨⟨c, cs, hs, hc⟩, -⟩ := walk?_of_parse? hv
  have space : isSpace c = false := by
    have := List.head?_dropWhile_not isSpace s
    rw [← skipSpace, hs] at this
    simpa using this
  obtain ⟨x, rfl, hx⟩ : Leads behind s behind (c :: cs) := hs ▸ leads_skipSpace rfl s
  obtain ⟨p, hp, rest⟩ := walk?_append_eq_some.1 h
  obtain rfl := Option.some.inj (hx.symm.trans hp)
  simp [walk?, step?, space, hc] at rest

/-- What is read from inside of a string on leads back inside of a string. -/
theorem eq_inside_of_parse? {s : List Char} {v : Json} (h : parse? (String.ofList s) = some v)
    {q : Place} (hq : inside.walk? s = some q) : q = inside := by
  obtain ⟨-, r, hr, walk⟩ := walk?_of_parse? h
  rcases Opposite.walk? (.inl ⟨rfl, rfl⟩) hq walk with ⟨rfl, -⟩ | ⟨rfl, -⟩
  · rfl
  · cases hr

/-- A line break is no part of a string. -/
theorem outside_of_step?_newLine {p q : Place} (h : p.step? '\n' = some q) :
    q.outside = true := by
  cases p with
  | between => exact Option.some.inj h ▸ rfl
  | behind => exact Option.some.inj h ▸ rfl
  | inside => exact nomatch (show none = some q from h)
  | escaped => exact nomatch (show none = some q from h)

end Colloquy.Json
