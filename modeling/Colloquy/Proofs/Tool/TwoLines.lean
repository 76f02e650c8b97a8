import Colloquy.Proofs.Tool.Calls

/-!
# Calls on two lines

A GLM-4 call is a name and its arguments on two lines. Arguments on one line hold no line break and
are no longer or shorter when they are trimmed, so any name that is a line of its own comes back
with them (`extractGlm4?_lines`). What is recognised in an answer is a name of this kind with
arguments that were read, so it can be said and recognised again (`extract_two_lines`).
-/

namespace Colloquy.Tool

open Json (Exact Floatless Layout)
open Text (Bare)

/-- A text that can stand on a line of its own: it holds no line break, and trimming does not change
it. -/
structure IsLine (s : List Char) : Prop where
  bare : Bare Text.isBlank s
  newLine : '\n' ∉ s

instance (s : List Char) : Decidable (IsLine s) :=
  decidable_of_iff (Bare Text.isBlank s ∧ '\n' ∉ s)
    ⟨fun h => ⟨h.1, h.2⟩, fun h => ⟨h.bare, h.newLine⟩⟩

/-- The text of a call on two lines. -/
def twoLineText : List Char :=
  Placeholder.name ++ '\n' :: Placeholder.arguments

/-! ## Saying a call -/

theorem fillCall_twoLineText (c : Call) :
    Formatter.fillCall c twoLineText =
      Text.replaceAll Placeholder.arguments c.arguments.toList c.name.toList ++
        '\n' :: c.arguments.toList := by
  have line : '\n' ∉ Placeholder.name ∧ '\n' ∉ Placeholder.arguments := by decide
  have hn : Placeholder.name ≠ [] := by decide
  have ha : Placeholder.arguments ≠ [] := by decide
  have apart := Text.replaceAll_of_not_occursIn hn (s := Placeholder.arguments) (by decide)
    c.name.toList
  unfold Formatter.fillCall twoLineText
  rw [Text.replaceAll_append_of_stop hn line.1, Text.replaceAll_whole hn, apart,
    Text.replaceAll_append_of_stop ha line.2, Text.replaceAll_whole ha]

/-- What a call on two lines says of a payload. -/
theorem joined_apply_twoLineText {s name : String} {arguments : Json}
    (h : IsPayload s name arguments)
    (unmarked : Text.occursIn Placeholder.arguments name.toList = false) :
    (Slot.joined ((Formatter.call [.text (String.ofList twoLineText)]).apply
      (.ofContent s))).toList = name.toList ++ '\n' :: arguments.writeAt .spaced 0 := by
  have filled := joined_apply_closed true twoLineText s
  rw [h.ofPayload?, Option.getD_some, fillCall_twoLineText,
    Text.replaceAll_of_not_occursIn (by decide) unmarked, Json.write, String.toList_ofList] at filled
  exact filled

/-! ## Recognising a call -/

/-- A line and arguments are recognised as a call. -/
theorem extractGlm4?_lines {name : List Char} {arguments : Json} (line : IsLine name)
    (exact : Exact arguments) (fits : arguments.depth ≤ Json.maxNesting) :
    Format.extractGlm4? (name ++ '\n' :: arguments.writeAt .spaced 0) =
      some ⟨String.ofList name, arguments.write .spaced⟩ := by
  have input : Bare Text.isBlank (arguments.writeAt .spaced 0) :=
    Json.bare_isBlank_writeAt exact .spaced 0
  have whole : Bare Text.isBlank (name ++ '\n' :: arguments.writeAt .spaced 0) :=
    line.bare.append input ['\n']
  have oneLine : Json.Layout.spaced.isOneLine = true := rfl
  have pieces := Text.splitOn_singleton_eq_pair.2
    ⟨rfl, line.newLine, Json.newLine_not_mem_writeAt oneLine exact 0⟩
  have read := Json.parse?_write exact fits .spaced
  rw [Json.write] at read
  unfold Format.extractGlm4?
  rw [Text.trim, Text.trimBy_of_bare whole, pieces]
  simp only
  rw [Text.trim, Text.trimBy_of_bare line.bare, Text.trim, Text.trimBy_of_bare input,
    Format.call?, read]
  rfl

/-- The two lines in which a call is recognised. The first one is not blank, since blank lines at
the start are trimmed. -/
theorem lines_of_extractGlm4? {s : List Char} {c : Call} (h : Format.extractGlm4? s = some c) :
    ∃ line input arguments, Text.splitOn ['\n'] (Text.trim s) = [line, input] ∧
      IsLine (Text.trim line) ∧
      Json.parse? (String.ofList (Text.trim input)) = some arguments ∧
      c = ⟨String.ofList (Text.trim line), arguments.write .spaced⟩ := by
  unfold Format.extractGlm4? at h
  split at h
  · rename_i line input pieces
    obtain ⟨arguments, read, rfl⟩ := Option.map_eq_some_iff.1 h
    refine ⟨line, input, arguments, pieces, ?_, read, rfl⟩
    obtain ⟨hs, first, -⟩ := Text.splitOn_singleton_eq_pair.1 pieces
    have ne : Text.trim line ≠ [] := by
      have bare : Bare Text.isBlank (Text.trim s) := by
        apply Text.bare_trimBy
        rw [← Text.trim, hs]
        simp
      cases line with
      | nil => exact absurd (bare.head '\n' (by simp [hs])) (by decide)
      | cons d line =>
        exact Text.trimBy_ne_nil (List.mem_cons_self ..) (bare.head d (by simp [hs]))
    obtain ⟨x, y, hline, -, -⟩ := Text.exists_eq_trimBy Text.isBlank line
    refine ⟨Text.bare_trimBy ne, fun hd => first ?_⟩
    rw [hline]
    exact List.mem_append_left _ (List.mem_append_right _ hd)
  · cases h

/-- A call on two lines comes back from what is said of its payload, and a call that is recognised
in any answer is recognised again when it is said on two lines. -/
theorem extract_two_lines :
    (∀ {name : String} {arguments : Json}, IsLine name.toList →
      Text.occursIn Placeholder.arguments name.toList = false → Exact arguments →
        ((payload name arguments).depth ≤ Json.maxNesting → ∀ layout,
          IsPayload ((payload name arguments).write layout) name arguments) ∧
        ∀ s, IsPayload s name arguments →
          Format.glm4.extract? (Slot.joined
              ((Formatter.call [.text (String.ofList twoLineText)]).apply (.ofContent s))) =
            some ⟨name, arguments.write .spaced⟩) ∧
    ∀ {answer : String} {c : Call}, Format.glm4.extract? answer = some c →
      ∃ line input arguments, Text.splitOn ['\n'] (Text.trim answer.toList) = [line, input] ∧
        Json.parse? (String.ofList (Text.trim input)) = some arguments ∧
        c.arguments = arguments.write .spaced ∧
        (Floatless arguments → Format.glm4.extract? (c.name ++ "\n" ++ c.arguments) = some c) := by
  constructor
  · intro name arguments line unmarked exact
    refine ⟨fun fits layout => isPayload_write exact fits layout, fun s hs => ?_⟩
    obtain ⟨-, fits⟩ := hs.exact exact.floatless
    unfold Format.extract?
    simp only
    rw [joined_apply_twoLineText hs unmarked, extractGlm4?_lines line exact fits,
      String.ofList_toList]
  · intro answer c h
    obtain ⟨line, input, arguments, pieces, isLine, read, rfl⟩ := lines_of_extractGlm4? h
    refine ⟨line, input, arguments, pieces, read, rfl, fun floatless => ?_⟩
    obtain ⟨exact, fits⟩ := Json.exact_of_parse? read floatless
    have again := extractGlm4?_lines isLine exact fits
    have newLine : "\n".toList = ['\n'] := by decide
    unfold Format.extract?
    simp only [String.toList_append, String.toList_ofList, Json.write, newLine,
      List.append_assoc, List.cons_append, List.nil_append]
    exact again

/-- A name of two words with a list that holds a line break, and an answer with blanks around both
lines. -/
theorem extract_two_lines_of_two_words :
    IsPayload ((payload "find it" (.arr [.str "a\nb", .int (-3)])).write .compact) "find it"
        (.arr [.str "a\nb", .int (-3)]) ∧
      Format.glm4.extract? (Slot.joined
          ((Formatter.call [.text (String.ofList twoLineText)]).apply (.ofContent
            ((payload "find it" (.arr [.str "a\nb", .int (-3)])).write .compact)))) =
        some ⟨"find it", (Json.arr [.str "a\nb", .int (-3)]).write .spaced⟩ ∧
      Format.glm4.extract? " f\t\n [1,2]\n" = some ⟨"f", "[1, 2]"⟩ ∧
      Format.glm4.extract? ("f" ++ "\n" ++ "[1, 2]") = some ⟨"f", "[1, 2]"⟩ := by
  have line : IsLine "find it".toList := by decide
  have exact : Exact (.arr [.str "a\nb", .int (-3)]) := by
    refine .arr fun v hv => ?_
    rcases List.mem_pair.1 hv with rfl | rfl
    · exact .str _
    · exact .int (by decide) (by decide)
  have answer : Format.glm4.extract? " f\t\n [1,2]\n" = some ⟨"f", "[1, 2]"⟩ := by
    decide +kernel
  obtain ⟨isPayload, back⟩ := extract_two_lines.1 line (by decide) exact
  have fits : (payload "find it" (.arr [.str "a\nb", .int (-3)])).depth ≤ Json.maxNesting := by
    decide
  refine ⟨isPayload fits .compact, back _ (isPayload fits .compact), answer, ?_⟩
  obtain ⟨line, input, arguments, pieces, read, written, again⟩ := extract_two_lines.2 answer
  have lines : Text.splitOn ['\n'] (Text.trim " f\t\n [1,2]\n".toList) =
      [['f', '\t'], [' ', '[', '1', ',', '2', ']']] := by decide
  obtain ⟨-, rfl⟩ : line = ['f', '\t'] ∧ input = [' ', '[', '1', ',', '2', ']'] := by
    simpa using pieces.symm.trans lines
  have two : Exact (.arr [.int 1, .int 2]) := by
    refine .arr fun v hv => ?_
    rcases List.mem_pair.1 hv with rfl | rfl <;> exact .int (by decide) (by decide)
  have value : Json.parse? (String.ofList (Text.trim [' ', '[', '1', ',', '2', ']'])) =
      some (.arr [.int 1, .int 2]) := Json.parse?_write two (by decide) .compact
  obtain rfl := Option.some.inj (value.symm.trans read)
  exact again two.floatless

end Colloquy.Tool
