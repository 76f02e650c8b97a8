import Colloquy.Proofs.Formatters
import Colloquy.Proofs.Placeholders
import Colloquy.Proofs.Registry

/-!
# Templates that are accepted

A configuration describes formatters of four kinds, and each kind is accepted on a condition of its
own (`FormatterConfig.Acceptable`). A template is registered if all its formatters are accepted, and
otherwise the first one that is not is reported. What is registered shows just what is described,
and the usual in place of what is not (`TemplateConfig.Shows`). All this is
`Registry.insertConfig_accepts_iff`.
-/

namespace Colloquy

/-! ## Slots -/

namespace Slot

/-- A placeholder, whatever its name, stands in a text among slots. -/
def AnyPlaceholder (slots : List Slot) : Prop :=
  ∃ s, Slot.text s ∈ slots ∧ ∃ ahead n, Placeholder.Stands s.toList ahead n

/-- A pattern stands in a text among slots. -/
def AnyMention (pattern : List Char) (slots : List Slot) : Prop :=
  ∃ s, Slot.text s ∈ slots ∧ pattern <:+: s.toList

/-- What is checked of texts holds of slots if it holds of a text among them. -/
theorem any_iff_exists_text {check : Slot → Bool} {holds : String → Prop}
    (h : ∀ slot, check slot = true ↔ ∃ s, slot = .text s ∧ holds s) {slots : List Slot} :
    slots.any check = true ↔ ∃ s, Slot.text s ∈ slots ∧ holds s := by
  simp only [List.any_eq_true, h]
  constructor
  · rintro ⟨_, mem, s, rfl, here⟩
    exact ⟨s, mem, here⟩
  · rintro ⟨s, mem, here⟩
    exact ⟨_, mem, s, rfl, here⟩

theorem any_hasPlaceholder_iff {slots : List Slot} :
    slots.any hasPlaceholder = true ↔ AnyPlaceholder slots := by
  apply any_iff_exists_text
  intro slot
  cases slot <;> simp [hasPlaceholder, Placeholder.occurs_iff]

theorem any_mentions_iff {pattern : List Char} {slots : List Slot} :
    slots.any (mentions pattern) = true ↔ AnyMention pattern slots := by
  apply any_iff_exists_text
  intro slot
  cases slot <;> simp [mentions, Text.occursIn_eq_true_iff]

end Slot

/-! ## Formatters -/

/-- The description of a formatter: its kind, with the slots it makes of nothing or with the name of
its tool format. -/
def Formatter.described (f : Formatter) : FormatterConfig :=
  match f with
  | fixed _ => .empty f.skeleton
  | content _ => .string f.skeleton
  | call _ => .function f.skeleton
  | manifest format => .tool format.name

namespace FormatterConfig

/-- What a formatter of each kind has to hold. -/
def Acceptable : FormatterConfig → Prop
  | empty slots => ¬ Slot.AnyPlaceholder slots
  | string slots => Slot.AnyPlaceholder slots
  | function slots =>
    Slot.AnyMention Placeholder.name slots ∧ Slot.AnyMention Placeholder.arguments slots
  | tool format => format = "default" ∨ format = "glm4"

/-- What is reported of a formatter that is not accepted. -/
def fault : FormatterConfig → FormatterFault
  | empty _ => .placeholderInFixed
  | string _ => .noPlaceholder
  | function _ => .noCallPlaceholders
  | tool format => .unknownToolFormat format

theorem formatter_of_acceptable {c : FormatterConfig} (h : c.Acceptable) :
    ∃ f, c.formatter = .ok f ∧ f.described = c := by
  cases c with
  | empty slots =>
    rw [Acceptable, ← Slot.any_hasPlaceholder_iff] at h
    refine ⟨.fixed slots, by rw [formatter, Formatter.fixed?, if_neg h], ?_⟩
    rw [Formatter.described, Formatter.skeleton_fixed]
  | string slots =>
    rw [Acceptable, ← Slot.any_hasPlaceholder_iff] at h
    refine ⟨.content slots, by rw [formatter, Formatter.content?, if_pos h], ?_⟩
    rw [Formatter.described, Formatter.skeleton_content]
  | function slots =>
    rw [Acceptable, ← Slot.any_mentions_iff, ← Slot.any_mentions_iff, ← Bool.and_eq_true] at h
    refine ⟨.call slots, by rw [formatter, Formatter.call?, if_pos h], ?_⟩
    rw [Formatter.described, Formatter.skeleton_call]
  | tool format =>
    rcases h with rfl | rfl
    · exact ⟨.manifest .general, rfl, rfl⟩
    · exact ⟨.manifest .glm4, rfl, rfl⟩

theorem formatter_of_not_acceptable {c : FormatterConfig} (h : ¬ c.Acceptable) :
    c.formatter = .error c.fault := by
  cases c with
  | empty slots =>
    rw [Acceptable, not_not, ← Slot.any_hasPlaceholder_iff] at h
    rw [formatter, Formatter.fixed?, if_pos h, fault]
  | string slots =>
    rw [Acceptable, ← Slot.any_hasPlaceholder_iff] at h
    rw [formatter, Formatter.content?, if_neg h, fault]
  | function slots =>
    rw [Acceptable, ← Slot.any_mentions_iff, ← Slot.any_mentions_iff, ← Bool.and_eq_true] at h
    rw [formatter, Formatter.call?, if_neg h, fault]
  | tool format =>
    obtain ⟨general, glm4⟩ := not_or.1 h
    rw [formatter, Formatter.manifest?, Tool.Format.ofName?, if_neg general, if_neg glm4, fault]

theorem formatter_eq_error_iff {c : FormatterConfig} {e : FormatterFault} :
    c.formatter = .error e ↔ ¬ c.Acceptable ∧ e = c.fault := by
  by_cases h : c.Acceptable
  · obtain ⟨f, made, -⟩ := formatter_of_acceptable h
    simp [made, h]
  · simp [formatter_of_not_acceptable h, h, eq_comm]

/-- A formatter that is made of a description is the one described. -/
theorem described_of_formatter {c : FormatterConfig} {f : Formatter} (h : c.formatter = .ok f) :
    f.described = c := by
  by_cases accepted : c.Acceptable
  · obtain ⟨f', made, same⟩ := formatter_of_acceptable accepted
    rw [made] at h
    rwa [← Except.ok.inj h]
  · rw [formatter_of_not_acceptable accepted] at h
    cases h

/-! ## Formatters that may be described -/

/-- A formatter is described and not accepted. -/
def Refused (part : Option FormatterConfig) (e : FormatterFault) : Prop :=
  ∃ f, part = some f ∧ ¬ f.Acceptable ∧ e = f.fault

theorem optional_eq_error_iff {part : Option FormatterConfig} {e : FormatterFault} :
    optional part = .error e ↔ Refused part e := by
  cases part with
  | none => simp [optional, Refused]
  | some f => simp [optional, Refused, map_eq_error_iff, formatter_eq_error_iff]

theorem exists_optional_eq_ok_iff {part : Option FormatterConfig} :
    (∃ f?, optional part = .ok f?) ↔ ∀ e, ¬ Refused part e := by
  rw [exists_eq_ok_iff]
  exact forall_congr' fun e => not_congr optional_eq_error_iff

theorem described_of_optional {part : Option FormatterConfig} {f? : Option Formatter}
    (h : optional part = .ok f?) : f?.map Formatter.described = part := by
  cases part with
  | none =>
    obtain rfl := Except.ok.inj h
    rfl
  | some c =>
    obtain ⟨f, made, rfl⟩ := map_eq_ok_iff.1 h
    rw [Option.map_some, described_of_formatter made]

/-- Where a formatter that is usual takes the place of none, what it looks like does too. -/
theorem described_getD {part : Option FormatterConfig} {f? : Option Formatter}
    (h : optional part = .ok f?) (usual : Formatter) :
    (f?.getD usual).described = part.getD usual.described := by
  rw [← described_of_optional h, Option.getD_map]

end FormatterConfig

/-! ## Templates -/

namespace TemplateConfig

open FormatterConfig

/-- The formatters of a template in the order in which they are checked. -/
def parts (c : TemplateConfig) : List (Option FormatterConfig) :=
  [c.user, c.assistant, c.system, c.function, c.observation, c.tools, c.separator]

/-- What ends the usual turns of an assistant and the usual calls. -/
def closing (c : TemplateConfig) : List Slot :=
  if c.efficientEos then [] else [.eos]

/-- The usual way to show a content. -/
def contentAlone : FormatterConfig := .string [.text "\x7b\x7bcontent\x7d\x7d"]

/-- A template shows what is described, and the usual in place of what is not. -/
structure Shows (c : TemplateConfig) (t : Template) : Prop where
  user : t.user.described = c.user.getD contentAlone
  assistant : t.assistant.described =
    c.assistant.getD (.string (.text "\x7b\x7bcontent\x7d\x7d" :: c.closing))
  system : t.system.described = c.system.getD contentAlone
  function : t.function.described = c.function.getD (.function
    (.text "Action: \x7b\x7bname\x7d\x7d\nAction Input: \x7b\x7barguments\x7d\x7d" :: c.closing))
  observation : t.observation.described = c.observation.getD (c.user.getD contentAlone)
  tools : t.tools.described = c.tools.getD (.tool "default")
  separator : t.separator.described = c.separator.getD (.empty [])

/-- A template is refused for the first of its formatters that is. -/
theorem spec_eq_error_iff {c : TemplateConfig} {e : FormatterFault} :
    c.spec = .error e ↔ FirstFault Refused c.parts e := by
  simp only [parts, firstFault_cons_iff, not_firstFault_nil, spec, bind_eq_error_iff, pure_eq_ok,
    reduceCtorEq, optional_eq_error_iff, and_false, exists_false, or_false, exists_and_right,
    exists_optional_eq_ok_iff]

theorem shows_of_spec {c : TemplateConfig} {spec : Template.Spec} (h : c.spec = .ok spec) :
    c.Shows spec.build := by
  simp only [TemplateConfig.spec, bind_eq_ok_iff, pure_eq_ok, Except.ok.injEq] at h
  obtain ⟨user, hu, assistant, ha, system, hs, function, hf, observation, ho, tools, ht,
    separator, hp, rfl⟩ := h
  exact {
    user := described_getD hu _
    assistant := by
      rw [Template.Spec.build, described_getD ha, Formatter.described, Formatter.skeleton_content]
      rfl
    system := described_getD hs _
    function := by
      rw [Template.Spec.build, described_getD hf, Formatter.described, Formatter.skeleton_call]
      rfl
    observation := (described_getD ho _).trans (by rw [described_getD hu]; rfl)
    tools := described_getD ht _
    separator := described_getD hp _ }

/-- No formatter is refused exactly if all that are described are accepted. -/
theorem forall_not_firstFault_iff {c : TemplateConfig} :
    (∀ e, ¬ FirstFault Refused c.parts e) ↔ ∀ f, some f ∈ c.parts → f.Acceptable := by
  rw [← not_exists, exists_firstFault_iff]
  constructor
  · intro none f described
    by_contra refused
    exact none ⟨some f, described, f.fault, f, rfl, refused, rfl⟩
  · rintro accepted ⟨_, described, _, f, rfl, refused, rfl⟩
    exact refused (accepted f described)

end TemplateConfig

namespace Registry

open FormatterConfig

theorem insertConfig_eq_ok_iff {r r' : Registry} {c : TemplateConfig} :
    r.insertConfig c = .ok r' ↔ ∃ spec, c.spec = .ok spec ∧ r' = r.insert spec.build := by
  unfold insertConfig
  cases c.spec <;> simp [eq_comm]

theorem insertConfig_eq_error_iff {r : Registry} {c : TemplateConfig} {e : TemplateError} :
    r.insertConfig c = .error e ↔
      ∃ fault, FirstFault Refused c.parts fault ∧ e = .invalidFormatter fault := by
  simp only [← TemplateConfig.spec_eq_error_iff]
  unfold insertConfig
  cases c.spec <;> simp [eq_comm]

theorem exists_insertConfig_eq_ok_iff {r : Registry} {c : TemplateConfig} :
    (∃ r', r.insertConfig c = .ok r') ↔ ∀ f, some f ∈ c.parts → f.Acceptable := by
  rw [exists_eq_ok_iff, ← TemplateConfig.forall_not_firstFault_iff]
  constructor
  · intro registered fault first
    exact registered _ (insertConfig_eq_error_iff.2 ⟨fault, first, rfl⟩)
  · intro none e failed
    obtain ⟨fault, first, -⟩ := insertConfig_eq_error_iff.1 failed
    exact none fault first

/-- A template is registered exactly if each formatter that is described is accepted, and otherwise
the first one that is not is reported. What is registered is found under its name and shows what is
described, with the usual formatters in place of those that are not. -/
theorem insertConfig_accepts_iff (r : Registry) (c : TemplateConfig) :
    ((∃ r', r.insertConfig c = .ok r') ↔ ∀ f, some f ∈ c.parts → f.Acceptable) ∧
    (∀ e, r.insertConfig c = .error e ↔
      ∃ fault, FirstFault Refused c.parts fault ∧ e = .invalidFormatter fault) ∧
    ∀ r', r.insertConfig c = .ok r' →
      ∃ t, r' = r.insert t ∧ r'.get c.name = .ok t ∧ c.Shows t := by
  refine ⟨exists_insertConfig_eq_ok_iff, fun e => insertConfig_eq_error_iff,
    fun r' registered => ?_⟩
  obtain ⟨spec, checked, rfl⟩ := insertConfig_eq_ok_iff.1 registered
  have named : spec.build.name = c.name := TemplateConfig.name_of_spec checked
  refine ⟨spec.build, rfl, ?_, TemplateConfig.shows_of_spec checked⟩
  rw [get, find?_insert, if_pos named]

/-- A template that asks in place of what a user says, names a called tool behind its arguments, and
has braces between rounds that are no placeholder. -/
def questions : TemplateConfig :=
  { userConfig "questions" (.string [.text "Q: \x7b\x7bquery\x7d\x7d"]) with
    function := some (.function
      [.text "(\x7b\x7barguments\x7d\x7d)", .eos, .text "\x7b\x7bname\x7d\x7d"])
    tools := some (.tool "glm4")
    separator := some (.empty [.text "\x7b\x7b9\x7d\x7d", .token "<next>"]) }

/-- The same with calls that are not named and tools in an unknown format. -/
def misnamed : TemplateConfig :=
  { questions with
    function := some (.function [.text "(\x7b\x7barguments\x7d\x7d)"])
    tools := some (.tool "glm5") }

/-- The one template is registered, with observations that look like what a user says. The other is
refused for its calls, which are checked ahead of its tools. -/
theorem insertConfig_accepts_iff_questions :
    (∃ r' t, empty.insertConfig questions = .ok r' ∧ r'.get "questions" = .ok t ∧
      t.observation.described = .string [.text "Q: \x7b\x7bquery\x7d\x7d"]) ∧
    empty.insertConfig misnamed = .error (.invalidFormatter .noCallPlaceholders) ∧
      FirstFault Refused misnamed.parts .noCallPlaceholders := by
  obtain ⟨r', registered⟩ : ∃ r', empty.insertConfig questions = .ok r' := ⟨_, rfl⟩
  obtain ⟨t, -, found, same⟩ := (insertConfig_accepts_iff empty questions).2.2 r' registered
  have refused : empty.insertConfig misnamed = .error (.invalidFormatter .noCallPlaceholders) := by
    decide
  obtain ⟨_, first, ⟨⟩⟩ := ((insertConfig_accepts_iff empty misnamed).2.1 _).1 refused
  exact ⟨⟨r', t, registered, found, same.observation⟩, refused, first⟩

end Registry

end Colloquy
