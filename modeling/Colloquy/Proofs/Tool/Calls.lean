import Colloquy.Template.Basic
import Colloquy.Proofs.Json.Lines
import Colloquy.Proofs.Json.Parsed
import Colloquy.Proofs.Template.FirstUser

/-!
# Calls that come back

A payload with a name and arguments is said as an action block (`fillCall_callText`), and the first
action block of an answer is found behind any text without a name mark (`find?_append_block`). What
a model puts around the input, blanks, quotation marks and backticks (`Wrapping`), is taken away
again (`trim_around`), and the input reads back as the arguments. So a call that is said in the
usual way is recognised in the answer that says it (`extract_spoken_call`).
-/

namespace Colloquy.Tool

open Json (Exact Floatless Layout)

/-! ## Names -/

/-- A name of ASCII letters, digits and low lines. -/
structure IsName (name : List Char) : Prop where
  ne_nil : name ≠ []
  isNameChar : ∀ c ∈ name, ActionBlock.isNameChar c = true

instance (name : List Char) : Decidable (IsName name) :=
  decidable_of_iff (name ≠ [] ∧ name.all ActionBlock.isNameChar = true)
    ⟨fun h => ⟨h.1, List.all_eq_true.1 h.2⟩, fun h => ⟨h.ne_nil, List.all_eq_true.2 h.isNameChar⟩⟩

theorem IsName.not_mem {name : List Char} (h : IsName name) {c : Char}
    (hc : ActionBlock.isNameChar c = false) : c ∉ name := by
  intro hm
  rw [h.isNameChar c hm] at hc
  cases hc

/-! ## Saying a call -/

/-- What stands before the input of a call. -/
def callHead (name : List Char) : List Char :=
  "Action: ".toList ++ (name ++ "\nAction Input: ".toList)

/-- The payload that says a call of a tool with arguments. -/
def payload (name : String) (arguments : Json) : Json :=
  .obj [("name", .str name), ("arguments", arguments)]

/-- The head of a call in marks. -/
theorem callHead_eq (name : List Char) :
    callHead name = ActionBlock.nameMark ++
      (' ' :: (name ++ '\n' :: (ActionBlock.inputMark ++ [' ']))) := by
  have first : "Action: ".toList = ActionBlock.nameMark ++ [' '] := by decide
  have second : "\nAction Input: ".toList = '\n' :: (ActionBlock.inputMark ++ [' ']) := by decide
  have regroup : ∀ m s : List Char, m ++ [' '] ++ s = m ++ ' ' :: s := by simp
  unfold callHead
  rw [first, second]
  exact regroup _ _

/-- A text that writes an object with a name and arguments. -/
def IsPayload (s name : String) (arguments : Json) : Prop :=
  ∃ v, Json.parse? s = some v ∧ v.get? "name" = some (.str name) ∧
    v.get? "arguments" = some arguments

theorem isPayload_write {name : String} {arguments : Json} (exact : Exact arguments)
    (fits : (payload name arguments).depth ≤ Json.maxNesting) (layout : Layout) :
    IsPayload ((payload name arguments).write layout) name arguments := by
  have whole : Exact (payload name arguments) := by
    refine .obj (by simp) fun m hm => ?_
    rcases List.mem_cons.1 hm with rfl | hm
    · exact .str name
    · obtain rfl := List.mem_singleton.1 hm
      exact exact
  exact ⟨_, Json.parse?_write whole fits layout, rfl, rfl⟩

theorem IsPayload.ofPayload? {s name : String} {arguments : Json} (h : IsPayload s name arguments) :
    Call.ofPayload? s = some ⟨name, arguments.write .spaced⟩ := by
  obtain ⟨v, hv, hname, harguments⟩ := h
  rw [Call.ofPayload?, hv]
  simp only [Option.bind_eq_bind, Option.bind_some, hname, harguments]
  rfl

theorem IsPayload.exact {s name : String} {arguments : Json} (h : IsPayload s name arguments)
    (floatless : Floatless arguments) : Exact arguments ∧ arguments.depth ≤ Json.maxNesting := by
  obtain ⟨v, hv, -, harguments⟩ := h
  exact Json.exact_of_get? hv harguments floatless

theorem ofPayload?_write {name : String} {arguments : Json} (exact : Exact arguments)
    (fits : (payload name arguments).depth ≤ Json.maxNesting) (layout : Layout) :
    Call.ofPayload? ((payload name arguments).write layout) =
      some ⟨name, arguments.write .spaced⟩ :=
  (isPayload_write exact fits layout).ofPayload?

theorem intercalate_pair (v a b : List Char) : v.intercalate [a, b] = a ++ (v ++ b) := by
  simp [List.intercalate]

theorem splitOn_callText : Text.splitOn Placeholder.name Template.Spec.callText =
    ["Action: ".toList, "\nAction Input: ".toList ++ Placeholder.arguments] := by
  decide +kernel

theorem replaceAll_callText (name : List Char) :
    Text.replaceAll Placeholder.name name Template.Spec.callText =
      callHead name ++ Placeholder.arguments := by
  have regroup : ∀ a b c d : List Char, a ++ (b ++ (c ++ d)) = a ++ (b ++ c) ++ d := by simp
  unfold Text.replaceAll callHead
  rw [splitOn_callText, intercalate_pair]
  exact regroup _ _ _ _

/-- A call in marks. -/
theorem callHead_append (name input : List Char) :
    callHead name ++ input = ActionBlock.nameMark ++
      (' ' :: (name ++ '\n' :: (ActionBlock.inputMark ++ ' ' :: input))) := by
  rw [callHead_eq]
  simp only [List.append_assoc, List.cons_append, List.nil_append]

/-- The usual text of a call with its name and its arguments put in. The name is put in first, so a
place for arguments in it is filled, too. -/
theorem fillCall_callText_eq (c : Call) :
    Formatter.fillCall c Template.Spec.callText =
      callHead (Text.replaceAll Placeholder.arguments c.arguments.toList c.name.toList) ++
        c.arguments.toList := by
  have hp : Placeholder.arguments ≠ [] := by decide
  have blank : ' ' ∉ Placeholder.arguments := by decide
  have line : '\n' ∉ Placeholder.arguments := by decide
  have first := Text.replaceAll_of_not_occursIn hp (s := ActionBlock.nameMark) (by decide)
    c.arguments.toList
  have second := Text.replaceAll_of_not_occursIn hp (s := ActionBlock.inputMark) (by decide)
    c.arguments.toList
  unfold Formatter.fillCall
  rw [replaceAll_callText, callHead_append, Text.replaceAll_append_of_stop hp blank, first,
    Text.replaceAll_append_of_stop hp line, Text.replaceAll_append_of_stop hp blank, second,
    Text.replaceAll_whole hp, callHead_append]

/-- A name holds no brace. -/
theorem IsName.not_occursIn_arguments {name : List Char} (h : IsName name) :
    Text.occursIn Placeholder.arguments name = false := by
  rw [Text.occursIn_eq_false_iff, Text.cut?_eq_none_iff]
  rintro a b rfl
  exact h.not_mem (c := '\x7b') (by decide) (by simp [Placeholder.arguments, Placeholder.mark])

theorem IsName.replaceAll_arguments {name : List Char} (h : IsName name) (v : List Char) :
    Text.replaceAll Placeholder.arguments v name = name :=
  Text.replaceAll_of_not_occursIn (by decide) h.not_occursIn_arguments v

theorem fillCall_callText {c : Call} (h : IsName c.name.toList) :
    Formatter.fillCall c Template.Spec.callText = callHead c.name.toList ++ c.arguments.toList := by
  rw [fillCall_callText_eq, h.replaceAll_arguments]

/-- What is said of a payload in a text that is closed as usual. -/
theorem joined_apply_closed (efficientEos : Bool) (s : List Char) (payload : String) :
    (Slot.joined ((Formatter.call (Template.Spec.closed efficientEos s)).apply
      (.ofContent payload))).toList =
        Formatter.fillCall ((Call.ofPayload? payload).getD ⟨"", ""⟩) s := by
  simp only [Formatter.apply, Formatter.Args.ofContent, Template.Spec.closed, List.map_cons,
    Slot.mapText, String.toList_ofList]
  rw [Slot.joined_cons_text]
  cases efficientEos <;> simp [Slot.joined, Slot.text?]

/-! ## Finding an action block -/

theorem find?_cons_of_not_start {c : Char} {s : List Char}
    (h : Text.afterStart? ActionBlock.nameMark (c :: s) = none) :
    ActionBlock.find? (c :: s) = ActionBlock.find? s := by
  rw [ActionBlock.find?, ActionBlock.at?, h]
  rfl

/-- The first block is not looked for beyond the first name mark that starts one. -/
theorem find?_append_block {preamble s : List Char}
    (h : Text.occursIn ActionBlock.nameMark preamble = false)
    {block : List Char × List Char} (hs : ActionBlock.afterMark? s = some block) :
    ActionBlock.find? (preamble ++ (ActionBlock.nameMark ++ s)) = some block := by
  induction preamble with
  | nil =>
    have start : ActionBlock.at? (ActionBlock.nameMark ++ s) = some block := by
      rw [ActionBlock.at?, Text.afterStart?_append]
      exact hs
    have hm : ActionBlock.nameMark = 'A' :: "ction:".toList := by decide
    rw [List.nil_append]
    rw [hm, List.cons_append] at start ⊢
    rw [ActionBlock.find?, start]
  | cons c preamble ih =>
    obtain ⟨hc, hp⟩ := Text.occursIn_cons_eq_false h
    have here : Text.afterStart? ActionBlock.nameMark
        (c :: preamble ++ (ActionBlock.nameMark ++ s)) = none :=
      Text.afterStart?_append_mark (by decide) hc (by simp) s
    rw [List.cons_append] at here ⊢
    rw [find?_cons_of_not_start here, ih hp]

theorem isBlank_of_isNameChar {c : Char} (h : ActionBlock.isNameChar c = true) :
    Text.isBlank c = false := by
  rw [Bool.eq_false_iff]
  intro hb
  have none : ∀ k ∈ Text.blankCodes, ActionBlock.isNameChar (Char.ofNat k) = false := by decide
  rw [← Char.ofNat_toNat c, none _ (Text.toNat_mem_blankCodes hb)] at h
  cases h

theorem isAsciiBlank_of_isNameChar {c : Char} (h : ActionBlock.isNameChar c = true) :
    Text.isAsciiBlank c = false := by
  rw [Bool.eq_false_iff]
  intro hb
  have blank := Text.isBlank_of_isAsciiBlank hb
  rw [isBlank_of_isNameChar h] at blank
  cases blank

/-- Behind the name mark a whole name is taken, and the input starts on the next line. -/
theorem afterMark?_name {name : List Char} (h : IsName name) (input : List Char) :
    ActionBlock.afterMark? (' ' :: (name ++ '\n' :: (ActionBlock.inputMark ++ input))) =
      some (name, input.dropWhile Text.isAsciiBlank) := by
  obtain ⟨c, cs, rfl⟩ := List.exists_cons_of_ne_nil h.ne_nil
  have hc : Text.isAsciiBlank c = false := isAsciiBlank_of_isNameChar (h.isNameChar c (by simp))
  have skip : (' ' :: (c :: cs ++ '\n' :: (ActionBlock.inputMark ++ input))).dropWhile
      Text.isAsciiBlank = c :: cs ++ '\n' :: (ActionBlock.inputMark ++ input) := by
    rw [List.dropWhile_cons_of_pos (by decide), List.cons_append,
      List.dropWhile_cons_of_neg (by simp [hc])]
  have name : (c :: cs ++ '\n' :: (ActionBlock.inputMark ++ input)).takeWhile
      ActionBlock.isNameChar = c :: cs := by
    rw [List.takeWhile_append_of_pos h.isNameChar, List.takeWhile_cons_of_neg (by decide),
      List.append_nil]
  have after : (c :: cs ++ '\n' :: (ActionBlock.inputMark ++ input)).dropWhile
      ActionBlock.isNameChar = '\n' :: (ActionBlock.inputMark ++ input) := by
    rw [List.dropWhile_append_of_pos h.isNameChar, List.dropWhile_cons_of_neg (by decide)]
  have cut : Text.cut? ActionBlock.inputMark ('\n' :: (ActionBlock.inputMark ++ input)) =
      some (['\n'], input) :=
    Text.cut?_append_of_not_mem (a := 'A') (p := ActionBlock.inputMark.tail) (s := ['\n'])
      (by decide) input
  obtain ⟨d, ds, hd⟩ := List.exists_cons_of_ne_nil (l := (c :: cs).reverse) (by simp)
  unfold ActionBlock.afterMark?
  rw [skip]
  simp only
  rw [name, after, hd, ActionBlock.shrink?, cut, ← hd, List.reverse_reverse]

/-! ## What stands around an input -/

/-- What a model puts around an input: backticks, quotation marks outside of them, and blanks at
both ends. -/
structure Wrapping where
  before : List Char
  quotesBefore : Nat
  ticksBefore : Nat
  ticksAfter : Nat
  quotesAfter : Nat
  after : List Char
  isBlank_before : ∀ c ∈ before, Text.isBlank c = true
  isBlank_after : ∀ c ∈ after, Text.isBlank c = true

namespace Wrapping

/-- An input between backticks. -/
def ticked (w : Wrapping) (s : List Char) : List Char :=
  List.replicate w.ticksBefore '\x60' ++ s ++ List.replicate w.ticksAfter '\x60'

/-- An input between backticks between quotation marks. -/
def quoted (w : Wrapping) (s : List Char) : List Char :=
  List.replicate w.quotesBefore '"' ++ w.ticked s ++ List.replicate w.quotesAfter '"'

/-- An input with all that is around it. -/
def around (w : Wrapping) (s : List Char) : List Char :=
  w.before ++ w.quoted s ++ w.after

/-- What is around an input is taken away layer by layer. -/
theorem trim_around (w : Wrapping) {s : List Char} (blank : Text.Bare Text.isBlank s)
    (quote : Text.Bare (· == '"') s) (tick : Text.Bare (· == '\x60') s) :
    Text.trimBy (· == '\x60') (Text.trimBy (· == '"') (Text.trim (w.around s))) = s := by
  have outer : Text.trim (w.around s) = w.quoted s :=
    Text.trimBy_wrapped w.isBlank_before w.isBlank_after
      ((blank.replicate (by decide) _ _).replicate (by decide) _ _)
  have middle : Text.trimBy (· == '"') (w.quoted s) = w.ticked s :=
    Text.trimBy_replicate (quote.replicate (by decide) _ _) _ _
  rw [outer, middle]
  exact Text.trimBy_replicate tick _ _

end Wrapping

/-! ## The round trip -/

/-- A call that is said in the usual way is recognised in an answer that says it, whatever stands
before it and around its input. -/
theorem extract_spoken_call {name : String} {members : List (String × Json)}
    (isName : IsName name.toList) (exact : Exact (.obj members))
    (fits : (payload name (.obj members)).depth ≤ Json.maxNesting) {preamble : String}
    (unmarked : Text.occursIn ActionBlock.nameMark preamble.toList = false)
    (efficientEos : Bool) (layout : Layout) (w : Wrapping) :
    (Formatter.call (Template.Spec.closed efficientEos Template.Spec.callText)).apply
        (.ofContent ((payload name (.obj members)).write layout)) =
      Template.Spec.closed efficientEos
        (callHead name.toList ++ (Json.obj members).writeAt .spaced 0) ∧
    Format.general.extract? (preamble ++ String.ofList
        (callHead name.toList ++ w.around ((Json.obj members).writeAt .spaced 0))) =
      some ⟨name, (Json.obj members).write .spaced⟩ := by
  constructor
  · have filled := fillCall_callText (c := ⟨name, (Json.obj members).write .spaced⟩) isName
    rw [Json.write, String.toList_ofList] at filled
    simp only [Formatter.apply, Formatter.Args.ofContent, ofPayload?_write exact fits layout,
      Option.getD_some, Template.Spec.closed, List.map_cons, Slot.mapText, String.toList_ofList]
    rw [Json.write, filled]
    cases efficientEos <;> rfl
  · have fits : (Json.obj members).depth ≤ Json.maxNesting := by
      simp only [payload, Json.depth, Json.depthOfMembers] at fits ⊢
      omega
    have found : ActionBlock.find? (preamble ++ String.ofList
        (callHead name.toList ++ w.around ((Json.obj members).writeAt .spaced 0))).toList =
          some (name.toList, (' ' :: w.around ((Json.obj members).writeAt .spaced 0)).dropWhile
            Text.isAsciiBlank) := by
      have here := find?_append_block unmarked (afterMark?_name isName
        (' ' :: w.around ((Json.obj members).writeAt .spaced 0)))
      rw [String.toList_append, String.toList_ofList, callHead_eq]
      simpa using here
    have bare : ∀ {q : Char → Bool}, q '\x7b' = false → q '\x7d' = false →
        Text.Bare q ((Json.obj members).writeAt .spaced 0) := by
      intro q first last
      exact Json.bare_writeAt_obj first last .spaced 0 members
    have trimmed : Text.trim
        ((' ' :: w.around ((Json.obj members).writeAt .spaced 0)).dropWhile Text.isAsciiBlank) =
          Text.trim (w.around ((Json.obj members).writeAt .spaced 0)) := by
      rw [Text.trim, Text.trimBy_dropWhile fun c => Text.isBlank_of_isAsciiBlank]
      rfl
    have input := w.trim_around (bare (by decide) (by decide)) (bare (by decide) (by decide))
      (bare (by decide) (by decide))
    have read := Json.parse?_write exact fits .spaced
    rw [Json.write] at read
    unfold Format.extract? Format.extractGeneral?
    simp only
    rw [found]
    simp only [Option.bind_eq_bind, Option.bind_some]
    rw [trimmed, input, Format.call?, read, String.ofList_toList]
    rfl

/-- Quotation marks and backticks with blanks around them. -/
def fenced : Wrapping where
  before := ['\n', ' ']
  quotesBefore := 1
  ticksBefore := 3
  ticksAfter := 2
  quotesAfter := 0
  after := ['\n']
  isBlank_before := List.all_eq_true.1 (by decide)
  isBlank_after := List.all_eq_true.1 (by decide)

/-- Arguments with marks, quotation marks, backticks and a placeholder in them. -/
def markedArguments : List (String × Json) :=
  [("q", .str "Action: \"\x7b\x7bname\x7d\x7d\"\n\x60Action Input:\x60"), ("n", .int (-3))]

/-- Marks inside the arguments of a call do no harm. -/
theorem extract_spoken_call_with_marks :
    Text.occursIn ActionBlock.nameMark "Action by action.\n".toList = false ∧
      Format.general.extract? ("Action by action.\n" ++ String.ofList (callHead "find_2".toList ++
        fenced.around ((Json.obj markedArguments).writeAt .spaced 0))) =
          some ⟨"find_2", (Json.obj markedArguments).write .spaced⟩ := by
  have unmarked : Text.occursIn ActionBlock.nameMark "Action by action.\n".toList = false := by
    decide
  have exact : Exact (.obj markedArguments) := by
    refine .obj (by decide) fun m hm => ?_
    rcases List.mem_cons.1 hm with rfl | hm
    · exact .str _
    · obtain rfl := List.mem_singleton.1 hm
      exact .int (by decide) (by decide)
  exact ⟨unmarked, (extract_spoken_call (by decide) exact (by decide) unmarked false .compact
    fenced).2⟩

end Colloquy.Tool
