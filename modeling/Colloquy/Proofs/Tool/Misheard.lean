import Colloquy.Proofs.Json.Places
import Colloquy.Proofs.Tool.FirstBlock

/-!
# Calls that are misheard

A call that is said in the usual way may be heard as another one: of a name with other characters
only a word is heard, and of a string as arguments what stands between its quotation marks, if that
can be read. Arguments of any other kind are heard as they are or not at all. For what is left of
the text behind an earlier input mark holds a line break ahead of the letter of the last mark, which
no JSON text does (`parse?_eq_none_of_letter`), and what is left behind a mark in the arguments
starts inside of a string (`parse?_unwrap_eq_none`).
-/

namespace Colloquy.Tool

open ActionBlock
open Json (Exact Floatless Place)
open Text (Bare)

/-! ## What is taken away around an input -/

/-- A text without quotation marks and then backticks around it. -/
def unquote (s : List Char) : List Char :=
  Text.trimBy (· == '\x60') (Text.trimBy (· == '"') s)

/-- A text without blanks, quotation marks and backticks around it. -/
def unwrap (s : List Char) : List Char :=
  unquote (Text.trim s)

/-- The characters that may stand around an input. -/
def isWrap (c : Char) : Bool :=
  Text.isBlank c || c == '"' || c == '\x60'

theorem extractGeneral?_eq (s : List Char) :
    Format.extractGeneral? s = (find? s).bind fun block => Format.call? block.1 (unwrap block.2) :=
  rfl

theorem unwrap_dropWhile (s : List Char) : unwrap (s.dropWhile Text.isAsciiBlank) = unwrap s := by
  unfold unwrap Text.trim
  rw [Text.trimBy_dropWhile fun c => Text.isBlank_of_isAsciiBlank]

/-- Whether a text is another one with what may stand around an input before it and behind it. -/
def Wrapped (m s : List Char) : Prop :=
  ∃ x y, s = x ++ m ++ y ∧ (∀ c ∈ x, isWrap c = true) ∧ ∀ c ∈ y, isWrap c = true

theorem Wrapped.refl (s : List Char) : Wrapped s s :=
  ⟨[], [], by simp, by simp, by simp⟩

theorem Wrapped.of_trimBy {q : Char → Bool} (hq : ∀ c, q c = true → isWrap c = true)
    {m s : List Char} (h : Wrapped m (Text.trimBy q s)) : Wrapped m s := by
  obtain ⟨x, y, hm, hx, hy⟩ := h
  obtain ⟨x', y', hs, hx', hy'⟩ := Text.exists_eq_trimBy q s
  refine ⟨x' ++ x, y ++ y', ?_, ?_, ?_⟩
  · conv_lhs => rw [hs, hm]
    simp only [List.append_assoc]
  · exact fun c hc => (List.mem_append.1 hc).elim (fun h => hq c (hx' c h)) (hx c)
  · exact fun c hc => (List.mem_append.1 hc).elim (hy c) fun h => hq c (hy' c h)

theorem wrapped_unquote (s : List Char) : Wrapped (unquote s) s := by
  have quote : ∀ c : Char, (c == '"') = true → isWrap c = true := by
    intro c hc
    simp [isWrap, hc]
  have tick : ∀ c : Char, (c == '\x60') = true → isWrap c = true := by
    intro c hc
    simp [isWrap, hc]
  exact .of_trimBy quote (.of_trimBy tick (.refl _))

theorem wrapped_unwrap (s : List Char) : Wrapped (unwrap s) s := by
  have blank : ∀ c, Text.isBlank c = true → isWrap c = true := by
    intro c hc
    simp [isWrap, hc]
  exact .of_trimBy blank (wrapped_unquote _)

/-- Nothing is taken away beyond a letter. -/
theorem unwrap_append_cons (x y : List Char) :
    ∃ x' y', unwrap (x ++ 'A' :: y) = x' ++ 'A' :: y' ∧ x' <:+ x := by
  obtain ⟨x₁, y₁, h₁, hx₁⟩ := Text.trimBy_append_cons (q := Text.isBlank) (a := 'A') (by decide) x y
  obtain ⟨x₂, y₂, h₂, hx₂⟩ := Text.trimBy_append_cons (q := (· == '"')) (a := 'A') (by decide) x₁ y₁
  obtain ⟨x₃, y₃, h₃, hx₃⟩ :=
    Text.trimBy_append_cons (q := (· == '\x60')) (a := 'A') (by decide) x₂ y₂
  refine ⟨x₃, y₃, ?_, hx₃.trans (hx₂.trans hx₁)⟩
  rw [unwrap, Text.trim, h₁, unquote, h₂, h₃]

theorem not_isWrap_of_isEdge {c : Char} (h : Json.isEdge c = true) : isWrap c = false := by
  have quote : c ≠ '"' := by
    rintro rfl
    exact absurd h (by decide)
  have tick : c ≠ '\x60' := by
    rintro rfl
    exact absurd h (by decide)
  simp [isWrap, Json.isBlank_of_isEdge h, quote, tick]

/-- Arguments that are no string stand as they are. -/
theorem unwrap_writeAt {v : Json} (exact : Exact v) (other : ∀ t, v ≠ .str t) :
    unwrap (v.writeAt .spaced 0) = v.writeAt .spaced 0 := by
  unfold unwrap unquote Text.trim
  rw [Text.trimBy_of_bare (Json.bare_isBlank_writeAt exact .spaced 0),
    Text.trimBy_of_bare (Json.bare_beq_writeAt (by decide) exact other .spaced 0),
    Text.trimBy_of_bare (Json.bare_beq_writeAt (by decide) exact other .spaced 0)]

/-! ## Places of the marks -/

theorem step?_letter {p q : Place} (h : p.step? 'A' = some q) : p = .inside ∧ q = .inside := by
  cases p with
  | between => exact nomatch (show none = some q from h)
  | behind => exact nomatch (show none = some q from h)
  | inside => exact ⟨rfl, (Option.some.inj h).symm⟩
  | escaped => exact nomatch (show none = some q from h)

/-- An input mark stands inside of a string. -/
theorem walk?_inputMark {p q : Place} (h : p.walk? inputMark = some q) :
    p = .inside ∧ q = .inside := by
  rw [inputMark_eq] at h
  obtain ⟨r, hr, rest⟩ := Option.bind_eq_some_iff.1 h
  obtain ⟨rfl, rfl⟩ := step?_letter hr
  have mark : Place.inside.walk? "ction Input:".toList = some .inside := by decide
  exact ⟨rfl, (Option.some.inj (mark.symm.trans rest)).symm⟩

/-- No JSON text starts with the letter of a mark or holds it right behind a line break. -/
theorem parse?_eq_none_of_letter {x : List Char} (h : x = [] ∨ ∃ z, x = z ++ ['\n'])
    (y : List Char) : Json.parse? (String.ofList (x ++ 'A' :: y)) = none := by
  rw [Option.eq_none_iff_forall_ne_some]
  intro v hv
  obtain ⟨-, q, -, walk⟩ := Json.walk?_of_parse? hv
  obtain ⟨p, hp, rest⟩ := Place.walk?_append_eq_some.1 walk
  have out : p.outside = true := by
    rcases h with rfl | ⟨z, rfl⟩
    · rw [← Option.some.inj hp]
      rfl
    · obtain ⟨r, -, last⟩ := Place.walk?_append_eq_some.1 hp
      obtain ⟨r', hr', end'⟩ := Option.bind_eq_some_iff.1 last
      rw [← Option.some.inj end']
      exact Json.outside_of_step?_newLine hr'
  obtain ⟨r, hr, -⟩ := Option.bind_eq_some_iff.1 rest
  rw [(step?_letter hr).1] at out
  cases out

/-- Nothing can be read of a text with a whole call in it. -/
theorem parse?_unwrap_said (left input : List Char) :
    Json.parse? (String.ofList (unwrap (said left input))) = none := by
  have parts : said left input =
      (left ++ ['\n']) ++ 'A' :: ("ction Input:".toList ++ ' ' :: input) := by
    rw [said, inputMark_eq, List.append_assoc]
    rfl
  obtain ⟨x, y, whole, suffix⟩ :=
    unwrap_append_cons (left ++ ['\n']) ("ction Input:".toList ++ ' ' :: input)
  have behind : x = [] ∨ ∃ z, x = z ++ ['\n'] := by
    rcases List.suffix_concat_iff.1 suffix with hx | ⟨z, hz, -⟩
    · exact .inl hx
    · exact .inr ⟨z, by simpa using hz⟩
  rw [parts, whole, parse?_eq_none_of_letter behind]

/-- From inside of a string, what may stand around an input leads at most right behind it. -/
theorem walk?_wraps {p q : Place} (hp : p = .inside ∨ p = .behind) {x : List Char}
    (hx : ∀ c ∈ x, isWrap c = true) (h : p.walk? x = some q) : q = .inside ∨ q = .behind := by
  induction x generalizing p with
  | nil =>
    rw [← Option.some.inj h]
    exact hp
  | cons c x ih =>
    obtain ⟨r, hr, rest⟩ := Option.bind_eq_some_iff.1 h
    refine ih ?_ (fun d hd => hx d (List.mem_cons_of_mem _ hd)) rest
    have wrap := hx c (List.mem_cons_self ..)
    rcases hp with rfl | rfl
    · have backslash : c ≠ '\\' := by
        rintro rfl
        exact absurd wrap (by decide)
      rw [Place.step?, if_neg backslash] at hr
      split at hr
      · exact .inr (Option.some.inj hr).symm
      · split at hr
        · cases hr
        · exact .inl (Option.some.inj hr).symm
    · have mark : Json.isMark c = false := by
        rw [Bool.eq_false_iff]
        intro hm
        simp only [Json.isMark, Bool.or_eq_true, beq_iff_eq] at hm
        rcases hm with ((rfl | rfl) | rfl) | rfl <;> exact absurd wrap (by decide)
      rw [Place.step?, mark] at hr
      split at hr
      · exact .inr (Option.some.inj hr).symm
      · rw [if_neg (by decide)] at hr
        cases hr

/-- Nothing can be read behind a mark in arguments that are no string: the rest starts inside of a
string and ends outside. -/
theorem parse?_unwrap_eq_none {v : Json} (exact : Exact v) (fits : v.depth ≤ Json.maxNesting)
    (other : ∀ t, v ≠ .str t) {x rest : List Char}
    (h : v.writeAt .spaced 0 = x ++ (inputMark ++ rest)) :
    Json.parse? (String.ofList (unwrap rest)) = none := by
  have read := Json.parse?_write exact fits .spaced
  obtain ⟨-, last, out, walk⟩ := Json.walk?_of_parse? read
  rw [h] at walk
  obtain ⟨p, -, walk⟩ := Place.walk?_append_eq_some.1 walk
  obtain ⟨q, mark, walk⟩ := Place.walk?_append_eq_some.1 walk
  obtain ⟨-, rfl⟩ := walk?_inputMark mark
  obtain ⟨before, after, hrest, hbefore, hafter⟩ := wrapped_unwrap rest
  -- The arguments end with a character of their own, so nothing is taken away there.
  have ends : after = [] := by
    have bare : Bare isWrap (v.writeAt .spaced 0) :=
      Json.bare_writeAt (fun c => not_isWrap_of_isEdge) exact other .spaced 0
    rw [h, hrest, ← List.append_assoc, ← List.append_assoc] at bare
    exact bare.eq_nil_of_append hafter
  rw [hrest, ends, List.append_nil] at walk
  obtain ⟨r, hr, walk⟩ := Place.walk?_append_eq_some.1 walk
  rcases walk?_wraps (.inl rfl) hbefore hr with rfl | rfl
  · rw [Option.eq_none_iff_forall_ne_some]
    intro u hu
    rw [Json.eq_inside_of_parse? hu walk] at out
    cases out
  · exact Json.parse?_eq_none_of_behind walk

/-! ## Strings as arguments -/

/-- A part of a string without its first quotation mark is no string, unless it begins within an
escape: inside of a string there are no other quotation marks. -/
theorem parse?_ne_str {t : String} {x before m after : List Char}
    (h : Json.writeString t.toList = x ++ (before ++ m ++ after)) (ne : x ≠ [])
    (hx : x.getLast? ≠ some '\\') (hbefore : ∀ c ∈ before, isWrap c = true) (u : String) :
    Json.parse? (String.ofList m) ≠ some (.str u) := by
  intro read
  obtain ⟨z, hz, hm⟩ := Json.exists_skipSpace_eq_quote_of_parse? read
  have parts : Json.writeString t.toList =
      (x ++ (before ++ m.takeWhile Json.isSpace)) ++ '"' :: (z ++ after) := by
    have split : m.takeWhile Json.isSpace ++ '"' :: z = m := by
      rw [← hm]
      exact List.takeWhile_append_dropWhile
    rw [h]
    conv_lhs => rw [← split]
    simp only [List.append_assoc, List.cons_append]
  have plain : '\\' ∉ before ++ m.takeWhile Json.isSpace := by
    rw [List.mem_append, not_or]
    exact ⟨fun hb => absurd (hbefore _ hb) (by decide),
      fun hb => absurd (List.all_eq_true.1 List.all_takeWhile _ hb) (by decide)⟩
  rcases Json.quote_in_writeString parts with first | last | escaped
  · exact ne (List.append_eq_nil_iff.1 first).1
  · exact hz (List.append_eq_nil_iff.1 last).1
  · rw [List.getLast?_append] at escaped
    cases tail : (before ++ m.takeWhile Json.isSpace).getLast? with
    | none =>
      rw [tail] at escaped
      exact hx escaped
    | some c =>
      rw [tail] at escaped
      obtain rfl : c = '\\' := Option.some.inj escaped
      exact plain (List.mem_of_getLast? tail)

/-- What is heard of a string as arguments is read from a part of it and is no string itself. -/
theorem parse?_unwrap_ne_str {t : String} {x rest : List Char}
    (h : Json.writeString t.toList = x ++ (inputMark ++ rest)) (u : String) :
    Json.parse? (String.ofList (unwrap rest)) ≠ some (.str u) := by
  obtain ⟨before, after, hrest, hbefore, -⟩ := wrapped_unwrap rest
  rw [hrest, ← List.append_assoc] at h
  refine parse?_ne_str h (by simp [inputMark_eq]) ?_ hbefore u
  rw [List.getLast?_append_of_ne_nil _ (by simp [inputMark_eq])]
  decide

theorem parse?_unwrap_writeString_ne_str (t u : String) :
    Json.parse? (String.ofList (unwrap (Json.writeString t.toList))) ≠ some (.str u) := by
  have first : Json.writeString t.toList =
      ['"'] ++ (t.toList.flatMap Json.escape ++ ['"']) := rfl
  have dropped : unwrap (Json.writeString t.toList) =
      unquote (t.toList.flatMap Json.escape ++ ['"']) := by
    have bare : Bare Text.isBlank (Json.writeString t.toList) := Json.bare_writeString (by decide) _
    rw [unwrap, Text.trim, Text.trimBy_of_bare bare]
    rfl
  obtain ⟨before, after, hrest, hbefore, -⟩ :=
    wrapped_unquote (t.toList.flatMap Json.escape ++ ['"'])
  rw [dropped]
  exact parse?_ne_str (first.trans (congrArg _ hrest)) (by simp) (by decide) hbefore u

/-! ## What is heard -/

/-- The name that is heard in the head of a call, if its input is that of the call. -/
def heardName? (head : List Char) : Option (List Char) :=
  match find? head with
  | some (name, []) => some name
  | _ => none

theorem callHead_eq_said (name : List Char) :
    callHead name = said (nameMark ++ ' ' :: name) [] := by
  rw [← callHead_append_eq_said, List.append_nil]

/-- A text with a mark in it is not all blanks. -/
theorem dropWhile_said_ne_nil (left input : List Char) :
    (said left input).dropWhile Text.isAsciiBlank ≠ [] := by
  intro nothing
  have all := List.dropWhile_eq_nil_iff.1 nothing 'A' (by simp [said, inputMark_eq])
  exact absurd all (by decide)

/-- What is heard in the head of a call decides what is heard of the whole call: its own input with
that name, or, if no name is heard, at most an input that is not its own. -/
theorem heardName?_cases (name : List Char) :
    (∃ heard, IsName heard ∧ heardName? (callHead name) = some heard ∧
      ∀ input, find? (callHead name ++ input) =
        some (heard, (' ' :: input).dropWhile Text.isAsciiBlank)) ∨
    (heardName? (callHead name) = none ∧
      ∀ input heard found, find? (callHead name ++ input) = some (heard, found) →
        (∃ left, found = (said left input).dropWhile Text.isAsciiBlank) ∨
        ∃ x rest, input = x ++ (inputMark ++ rest) ∧
          found = rest.dropWhile Text.isAsciiBlank) := by
  simp only [heardName?, callHead_append_eq_said]
  cases heard (nameMark ++ ' ' :: name) with
  | own heard isName found =>
    refine .inl ⟨heard, isName, ?_, found⟩
    rw [callHead_eq_said, found]
    rfl
  | early heard left found =>
    refine .inr ⟨?_, fun input word rest hf => .inl ⟨left, ?_⟩⟩
    · obtain ⟨c, cs, hc⟩ := List.exists_cons_of_ne_nil (dropWhile_said_ne_nil left [])
      rw [callHead_eq_said, found, hc]
    · exact (Prod.mk.inj (Option.some.inj ((found input).symm.trans hf))).2.symm
  | late inside =>
    refine .inr ⟨?_, fun input word rest hf => .inr (inside input word rest hf)⟩
    have nothing : find? (callHead name) = none := by
      rw [Option.eq_none_iff_forall_ne_some, callHead_eq_said]
      rintro ⟨heard, input⟩ hf
      obtain ⟨x, rest, h, -⟩ := inside _ _ _ hf
      exact absurd h (by simp [inputMark_eq])
    rw [nothing]

/-- What is heard of a call whose arguments are no string: its arguments with the name that is heard
in its head, or nothing. -/
theorem extractGeneral?_callHead {arguments : Json} (exact : Exact arguments)
    (fits : arguments.depth ≤ Json.maxNesting) (other : ∀ t, arguments ≠ .str t)
    (name : List Char) :
    Format.extractGeneral? (callHead name ++ arguments.writeAt .spaced 0) =
      (heardName? (callHead name)).map fun heard =>
        ⟨String.ofList heard, arguments.write .spaced⟩ := by
  rw [extractGeneral?_eq]
  rcases heardName?_cases name with ⟨heard, -, own, found⟩ | ⟨none, foreign⟩
  · have input : unwrap ((' ' :: arguments.writeAt .spaced 0).dropWhile Text.isAsciiBlank) =
        arguments.writeAt .spaced 0 := by
      rw [unwrap_dropWhile]
      exact unwrap_writeAt exact other
    have read := Json.parse?_write exact fits .spaced
    rw [Json.write] at read
    rw [own, found, Option.bind_some, input, Format.call?, read]
    rfl
  · rw [none]
    cases hf : find? (callHead name ++ arguments.writeAt .spaced 0) with
    | none => rfl
    | some block =>
      obtain ⟨heard, input⟩ := block
      have unread : Json.parse? (String.ofList (unwrap input)) = .none := by
        rcases foreign _ _ _ hf with ⟨left, rfl⟩ | ⟨x, rest, h, rfl⟩
        · rw [unwrap_dropWhile, parse?_unwrap_said]
        · rw [unwrap_dropWhile, parse?_unwrap_eq_none exact fits other h]
      rw [Option.bind_some, Format.call?, unread]
      rfl

theorem heardName?_of_isName {name : List Char} (h : IsName name) :
    heardName? (callHead name) = some name := by
  have found : find? ([] ++ (nameMark ++ (' ' :: (name ++ '\n' :: (inputMark ++ [' ']))))) =
      some (name, []) := find?_append_block (by decide) (afterMark?_name h [' '])
  rw [List.nil_append, ← callHead_eq] at found
  rw [heardName?, found]

/-- A call of a word with arguments that are no string is heard as it is. -/
theorem extractGeneral?_of_isName {name : List Char} {arguments : Json} (isName : IsName name)
    (exact : Exact arguments) (fits : arguments.depth ≤ Json.maxNesting)
    (other : ∀ t, arguments ≠ .str t) :
    Format.extractGeneral? (callHead name ++ arguments.writeAt .spaced 0) =
      some ⟨String.ofList name, arguments.write .spaced⟩ := by
  rw [extractGeneral?_callHead exact fits other, heardName?_of_isName isName]
  rfl

/-- What is heard of a call whose arguments are a string never has a string as its arguments. -/
theorem exists_of_extractGeneral?_string {t : String} {name : List Char} {c : Call}
    (h : Format.extractGeneral? (callHead name ++ (Json.str t).writeAt .spaced 0) = some c) :
    ∃ v : Json, c.arguments = v.write .spaced ∧ ∀ u, v ≠ .str u := by
  rw [extractGeneral?_eq] at h
  obtain ⟨⟨word, input⟩, hf, hc⟩ := Option.bind_eq_some_iff.1 h
  obtain ⟨v, read, rfl⟩ := Option.map_eq_some_iff.1 hc
  refine ⟨v, rfl, fun u hv => ?_⟩
  rw [hv] at read
  rcases heardName?_cases name with ⟨heard, -, -, found⟩ | ⟨-, foreign⟩
  · obtain ⟨-, rfl⟩ := Prod.mk.inj (Option.some.inj ((found _).symm.trans hf))
    rw [unwrap_dropWhile] at read
    exact parse?_unwrap_writeString_ne_str t u read
  · rcases foreign _ _ _ hf with ⟨left, rfl⟩ | ⟨x, rest, whole, rfl⟩
    · rw [unwrap_dropWhile, parse?_unwrap_said] at read
      cases read
    · rw [unwrap_dropWhile] at read
      exact parse?_unwrap_ne_str whole u read

theorem isName_of_heardName? {name heard : List Char}
    (h : heardName? (callHead name) = some heard) : IsName heard := by
  rcases heardName?_cases name with ⟨word, isName, own, -⟩ | ⟨none, -⟩
  · obtain rfl := Option.some.inj (own.symm.trans h)
    exact isName
  · rw [none] at h
    cases h

/-- What is said of a payload in the usual way. -/
def usualAnswer (efficientEos : Bool) (payload : String) : String :=
  Slot.joined ((Formatter.call (Template.Spec.closed efficientEos Template.Spec.callText)).apply
    (.ofContent payload))

/-- The call of a payload is heard as it is exactly if its name is a word and its arguments are no
string. With another name, arguments that are no string are heard as they are with the name that is
heard in the head of the call, or nothing is heard. A string as arguments is never heard as it is,
and what is no payload is not heard as a call. -/
theorem extract_usualAnswer (efficientEos : Bool) (s : String) :
    (∀ {name : String} {arguments : Json}, IsPayload s name arguments → Floatless arguments →
      (Format.general.extract? (usualAnswer efficientEos s) =
          some ⟨name, arguments.write .spaced⟩ ↔
        IsName name.toList ∧ ∀ t, arguments ≠ .str t) ∧
      ((∀ t, arguments ≠ .str t) → Format.general.extract? (usualAnswer efficientEos s) =
        (heardName? (callHead (Text.replaceAll Placeholder.arguments
          (arguments.write .spaced).toList name.toList))).map fun heard =>
            ⟨String.ofList heard, arguments.write .spaced⟩) ∧
      ∀ t, arguments = .str t → ∀ c, Format.general.extract? (usualAnswer efficientEos s) = some c →
        c.arguments ≠ arguments.write .spaced) ∧
    (Call.ofPayload? s = none → Format.general.extract? (usualAnswer efficientEos s) = none) := by
  have text : (usualAnswer efficientEos s).toList = _ :=
    joined_apply_closed efficientEos Template.Spec.callText s
  rw [fillCall_callText_eq] at text
  unfold Format.extract?
  simp only
  rw [text]
  refine ⟨fun {name arguments} payload floatless => ?_, fun malformed => ?_⟩
  · obtain ⟨exact, fits⟩ := payload.exact floatless
    have others := fun other => extractGeneral?_callHead exact fits other
      (Text.replaceAll Placeholder.arguments (arguments.write .spaced).toList name.toList)
    have written : (arguments.write .spaced).toList = arguments.writeAt .spaced 0 := by
      rw [Json.write, String.toList_ofList]
    have strings : ∀ t, arguments = .str t → ∀ c, Format.extractGeneral? (callHead
        (Text.replaceAll Placeholder.arguments (arguments.write .spaced).toList name.toList) ++
          arguments.writeAt .spaced 0) = some c → c.arguments ≠ arguments.write .spaced := by
      rintro t rfl c hc same
      obtain ⟨v, hv, noString⟩ := exists_of_extractGeneral?_string hc
      have first : v.writeAt .spaced 0 = (Json.str t).writeAt .spaced 0 := by
        rw [hv, Json.write, Json.write, String.ofList_inj] at same
        exact same
      obtain ⟨u, hu⟩ := Json.exists_eq_str first
      exact noString u hu
    rw [payload.ofPayload?, Option.getD_some]
    simp only
    rw [← written] at others strings
    refine ⟨⟨fun same => ?_, fun spoken => ?_⟩, others, strings⟩
    · have other : ∀ t, arguments ≠ .str t := fun t ht => strings t ht _ same rfl
      refine ⟨?_, other⟩
      rw [others other] at same
      obtain ⟨word, hw, call⟩ := Option.map_eq_some_iff.1 same
      obtain ⟨rfl, -⟩ := Call.mk.inj call
      rw [String.toList_ofList]
      exact isName_of_heardName? hw
    · obtain ⟨isName, other⟩ := spoken
      rw [isName.replaceAll_arguments, written,
        extractGeneral?_of_isName isName exact fits other, String.ofList_toList]
  · rw [malformed]
    decide +kernel

/-- A word with a list, a name with a hyphen, a string, and a text that is no payload. -/
theorem extract_usualAnswer_of_some :
    Format.general.extract? (usualAnswer false
        ((payload "f" (.arr [.null])).write (.indented 2))) = some ⟨"f", "[null]"⟩ ∧
      Format.general.extract? (usualAnswer true
        ((payload "get-weather" (.bool true)).write .compact)) = some ⟨"get", "true"⟩ ∧
      (∀ c, Format.general.extract? (usualAnswer false
        ((payload "f" (.str "5")).write .compact)) = some c → c.arguments ≠ "\"5\"") ∧
      Format.general.extract? (usualAnswer false "f") = none := by
  have list : Exact (.arr [.null]) := .arr fun v hv => by
    obtain rfl := List.mem_singleton.1 hv
    exact .null
  have word : IsPayload _ "f" _ := isPayload_write list (by decide) (.indented 2)
  have hyphen : IsPayload _ "get-weather" _ := isPayload_write (.bool true) (by decide) .compact
  have string : IsPayload _ "f" _ := isPayload_write (.str "5") (by decide) .compact
  refine ⟨?_, ?_, ?_, (extract_usualAnswer false "f").2 (by decide +kernel)⟩
  · exact ((extract_usualAnswer false _).1 word list.floatless).1.2 ⟨by decide, by simp⟩
  · rw [((extract_usualAnswer true _).1 hyphen (.bool true)).2.1 (by simp)]
    decide +kernel
  · exact ((extract_usualAnswer false _).1 string (.str "5")).2.2 "5" rfl

/-- Of a name with a hyphen the word before it is heard, and a string of one digit is heard as a
number. -/
theorem exists_misheard :
    IsPayload ((payload "get-weather" (.obj [])).write .compact) "get-weather" (.obj []) ∧
      Floatless (.obj []) ∧
      Format.general.extract? (usualAnswer false
        ((payload "get-weather" (.obj [])).write .compact)) = some ⟨"get", "\x7b\x7d"⟩ ∧
      IsPayload ((payload "f" (.str "5")).write .compact) "f" (.str "5") ∧
      Floatless (.str "5") ∧
      Format.general.extract? (usualAnswer false ((payload "f" (.str "5")).write .compact)) =
        some ⟨"f", "5"⟩ ∧
      ¬ ∀ (s name : String) (arguments : Json), IsPayload s name arguments → Floatless arguments →
        ∀ c, Format.general.extract? (usualAnswer false s) = some c →
          c.name = name ∧ c.arguments = arguments.write .spaced := by
  have object : Exact (.obj []) := .obj (by simp) (by simp)
  have hyphen : IsPayload _ "get-weather" _ := isPayload_write object (by decide) .compact
  have string : IsPayload _ "f" _ := isPayload_write (.str "5") (by decide) .compact
  have word : Format.general.extract? (usualAnswer false
      ((payload "get-weather" (.obj [])).write .compact)) = some ⟨"get", "\x7b\x7d"⟩ := by
    decide +kernel
  refine ⟨hyphen, object.floatless, word, string, .str "5", by decide +kernel, fun all => ?_⟩
  exact absurd (all _ _ _ hyphen object.floatless _ word).1 (by decide)

end Colloquy.Tool
