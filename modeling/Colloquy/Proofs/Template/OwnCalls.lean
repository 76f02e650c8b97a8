import Colloquy.Catalog.Basic
import Colloquy.Proofs.Registry
import Colloquy.Proofs.Tool.Misheard
import Colloquy.Proofs.Tool.TwoLines

/-!
# Calls of the built-in templates

A template says calls in one way and recognises calls in one way. The built-in templates say calls
as action blocks and recognise those, or say them on two lines (`callFormats`). Of the latter, the
template of GLM-4 recognises calls on two lines, so all but two templates recognise the calls that
they say themselves. The two templates of ChatGLM3 look for action blocks, and there is none in a
call on two lines, whatever its arguments say (`extractGeneral?_twoLines`).
-/

namespace Colloquy

open Json (Exact Layout)
open Tool

/-! ## Templates of the catalog -/

namespace Catalog

/-- The names of the templates that say calls in another way than they recognise them. -/
def deafToOwnCalls : List String :=
  ["chatglm3", "chatglm3_system"]

/-- The ways in which the catalog pairs saying and recognising calls. -/
theorem callFormats : ∀ spec ∈ specs,
    (spec.name ∉ deafToOwnCalls ∧ spec.function = none ∧ spec.tools = none) ∨
    (spec.name ∉ deafToOwnCalls ∧ spec.function = some (.call (Template.Spec.closed true twoLineText)) ∧
      spec.tools = some (.manifest .glm4)) ∨
    (spec.name ∈ deafToOwnCalls ∧
      spec.function = some (.call (Template.Spec.closed true twoLineText)) ∧ spec.tools = none) := by
  decide +kernel

end Catalog

namespace Tool

/-- A word is a line. -/
theorem IsName.isLine {name : List Char} (h : IsName name) : IsLine name where
  bare := Json.bare_of_forall h.ne_nil fun c hc => isBlank_of_isNameChar (h.isNameChar c hc)
  newLine := h.not_mem (by decide)

/-- An input mark behind a word on a line of its own comes in the second line. -/
theorem exists_eq_of_mark {name line x rest : List Char} (isName : IsName name)
    (h : name ++ '\n' :: line = x ++ (ActionBlock.inputMark ++ rest)) :
    ∃ y, line = y ++ (ActionBlock.inputMark ++ rest) := by
  have blank : ' ' ∉ name := isName.not_mem (by decide)
  rcases List.append_eq_append_iff.1 h with ⟨y, -, hy⟩ | ⟨y, rfl, hy⟩
  · cases y with
    | nil => exact absurd (List.cons.inj (hy.trans (by rw [inputMark_eq]; rfl))).1 (by decide)
    | cons c y => exact ⟨y, (List.cons.inj hy).2⟩
  · -- The mark holds a blank and no line break, so it does not begin in the name.
    rcases List.append_eq_append_iff.1 hy with ⟨z, rfl, -⟩ | ⟨z, mark, hz⟩
    · exact absurd (List.mem_append_right _ (List.mem_append_left _ (by decide))) blank
    · cases z with
      | nil =>
        rw [List.append_nil] at mark
        rw [← mark] at blank
        exact absurd (List.mem_append_right _ (by decide)) blank
      | cons c z =>
        obtain rfl : '\n' = c := (List.cons.inj hz).1
        have line : '\n' ∈ ActionBlock.inputMark := by
          rw [mark]
          simp
        exact absurd line (by decide)

/-- No call is heard in a word and arguments on two lines: an input mark could only come in the
arguments. -/
theorem extractGeneral?_twoLines {name : List Char} {arguments : Json} (isName : IsName name)
    (exact : Exact arguments) (fits : arguments.depth ≤ Json.maxNesting)
    (other : ∀ t, arguments ≠ .str t) :
    Format.extractGeneral? (name ++ '\n' :: arguments.writeAt .spaced 0) = none := by
  rw [extractGeneral?_eq, Option.bind_eq_none_iff]
  rintro ⟨word, input⟩ found
  obtain ⟨x, rest, h, rfl⟩ := find?_eq_some found
  obtain ⟨y, hy⟩ := exists_eq_of_mark isName h
  rw [unwrap_dropWhile, Format.call?, parse?_unwrap_eq_none exact fits other hy]
  rfl

end Tool

namespace Template

/-- What a template hears in its own call of a payload. -/
def hears? (t : Template) (payload : String) : Option Call :=
  t.extractCall? (Slot.joined (t.function.apply (.ofContent payload)))

/-- Every built-in template recognises the calls that it says itself, except for the templates of
ChatGLM3, which recognise none of them. -/
theorem hears?_builtin {t : Template} (builtin : t ∈ Registry.builtins.templates) {name : String}
    {members : List (String × Json)} (isName : IsName name.toList) (exact : Exact (.obj members)) :
    ((payload name (.obj members)).depth ≤ Json.maxNesting → ∀ layout,
      IsPayload ((payload name (.obj members)).write layout) name (.obj members)) ∧
    ∀ s, IsPayload s name (.obj members) →
      t.hears? s = if t.name ∈ Catalog.deafToOwnCalls then none
        else some ⟨name, (Json.obj members).write .spaced⟩ := by
  refine ⟨fun fits layout => isPayload_write exact fits layout, fun s hs => ?_⟩
  obtain ⟨-, fits⟩ := hs.exact exact.floatless
  have other : ∀ t, Json.obj members ≠ .str t := by simp
  have lines := joined_apply_twoLineText hs isName.not_occursIn_arguments
  obtain ⟨spec, hspec, rfl⟩ := Registry.exists_build_of_mem_builtins builtin
  unfold hears? extractCall? Formatter.extract? Format.extract?
  rcases Catalog.callFormats spec hspec with ⟨apart, function, tools⟩ | ⟨apart, function, tools⟩ |
    ⟨deaf, function, tools⟩
  · have said := joined_apply_closed spec.efficientEos Spec.callText s
    rw [hs.ofPayload?, Option.getD_some, fillCall_callText isName, Json.write,
      String.toList_ofList] at said
    simp only [Spec.build, function, tools, Option.getD_none, if_neg apart, said]
    rw [extractGeneral?_of_isName isName exact fits other, String.ofList_toList]
  · simp only [Spec.build, function, tools, Option.getD_some, if_neg apart]
    exact (congrArg Format.extractGlm4? lines).trans
      (by rw [extractGlm4?_lines isName.isLine exact fits, String.ofList_toList])
  · simp only [Spec.build, function, tools, Option.getD_some, Option.getD_none, if_pos deaf]
    exact (congrArg Format.extractGeneral? lines).trans
      (extractGeneral?_twoLines isName exact fits other)

/-- The templates of GLM-4 and of ChatGLM3 with a call that has an action block in its arguments. -/
theorem hears?_builtin_glm :
    Registry.builtins.find? "glm4" = some Catalog.glm4.build ∧
      Registry.builtins.find? "chatglm3" = some Catalog.chatglm3.build ∧
      Catalog.glm4.build.hears? ((payload "find_2" (.obj markedArguments)).write .compact) =
        some ⟨"find_2", (Json.obj markedArguments).write .spaced⟩ ∧
      Catalog.chatglm3.build.hears? ((payload "find_2" (.obj markedArguments)).write .compact) =
        none := by
  have glm : Registry.builtins.find? "glm4" = some Catalog.glm4.build := by decide +kernel
  have chat : Registry.builtins.find? "chatglm3" = some Catalog.chatglm3.build := by
    decide +kernel
  have exact : Exact (.obj markedArguments) := by
    refine .obj (by decide) fun m hm => ?_
    rcases List.mem_pair.1 hm with rfl | rfl
    · exact .str _
    · exact .int (by decide) (by decide)
  have fits : (payload "find_2" (.obj markedArguments)).depth ≤ Json.maxNesting := by decide
  have isName : IsName "find_2".toList := by decide
  obtain ⟨isPayload, heard⟩ := hears?_builtin (List.mem_of_find?_eq_some glm) isName exact
  refine ⟨glm, chat, (heard _ (isPayload fits .compact)).trans (if_neg (by decide)), ?_⟩
  obtain ⟨isPayload, unheard⟩ := hears?_builtin (List.mem_of_find?_eq_some chat) isName exact
  exact (unheard _ (isPayload fits .compact)).trans (if_pos (by decide))

/-- The template of ChatGLM3 does not recognise a call that it says without arguments. -/
theorem not_hears?_chatglm3 :
    Registry.builtins.find? "chatglm3" = some Catalog.chatglm3.build ∧
      Slot.joined (Catalog.chatglm3.build.function.apply
        (.ofContent ((payload "f" (.obj [])).write .compact))) = "f\n\x7b\x7d" ∧
      Catalog.chatglm3.build.extractCall? "f\n\x7b\x7d" = none ∧
      ¬ ∀ t ∈ Registry.builtins.templates, ∀ (name : String) (members : List (String × Json)),
        IsName name.toList → Exact (.obj members) →
        (payload name (.obj members)).depth ≤ Json.maxNesting → ∀ layout,
          t.extractCall? (Slot.joined (t.function.apply
            (.ofContent ((payload name (.obj members)).write layout)))) =
              some ⟨name, (Json.obj members).write .spaced⟩ := by
  have chat : Registry.builtins.find? "chatglm3" = some Catalog.chatglm3.build := by
    decide +kernel
  have said : Slot.joined (Catalog.chatglm3.build.function.apply
      (.ofContent ((payload "f" (.obj [])).write .compact))) = "f\n\x7b\x7d" := by
    decide +kernel
  have unheard : Catalog.chatglm3.build.extractCall? "f\n\x7b\x7d" = none := by decide +kernel
  refine ⟨chat, said, unheard, fun all => ?_⟩
  have heard := all _ (List.mem_of_find?_eq_some chat) "f" [] (by decide)
    (.obj (by simp) (by simp)) (by decide) .compact
  rw [said, unheard] at heard
  cases heard

end Template

end Colloquy
