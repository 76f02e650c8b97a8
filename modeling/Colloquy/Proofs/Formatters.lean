import Mathlib.Data.List.Infix
import Mathlib.Tactic.SplitIfs
import Colloquy.Formatter
import Colloquy.Proofs.Text

/-!
# What formatters keep

A formatter changes texts alone. Applied to nothing it gives the slots it was made of
(`skeleton_content`, `skeleton_call`). Slots are accepted for a content if they hold a placeholder
of any name, so they need not have a place for the content itself. If a text of theirs has one,
every content stands in what comes out and can be told from all others; if none has, all contents
give the same slots (`accepted_keepsContents_iff`).
-/

namespace Colloquy

theorem mapText_id (slot : Slot) : slot.mapText id = slot := by
  cases slot <;> simp [Slot.mapText]

namespace Formatter

theorem mapText_eq_iff {f g : List Char → List Char} {slot : Slot} :
    slot.mapText f = slot.mapText g ↔ ∀ s, slot = .text s → f s.toList = g s.toList := by
  cases slot with
  | text s => simp [Slot.mapText, String.ofList_inj]
  | token name => simp [Slot.mapText]
  | bos => simp [Slot.mapText]
  | eos => simp [Slot.mapText]

/-! ## Skeletons -/

theorem skeleton_fixed (slots : List Slot) : (fixed slots).skeleton = slots := rfl

theorem skeleton_content (slots : List Slot) : (content slots).skeleton = slots := by
  have same : ∀ slot : Slot, slot.mapText (fillContent .none) = slot := mapText_id
  simp [skeleton, apply, same]

theorem skeleton_call (slots : List Slot) : (call slots).skeleton = slots := rfl

/-! ## Contents that are kept -/

/-- Every content stands in a text that comes out, and no two contents give the same slots. -/
structure KeepsContents (f : Formatter) : Prop where
  contained : ∀ v : String, ∃ s, Slot.text s ∈ f.apply (.ofContent v) ∧ v.toList <:+: s.toList
  injective : Function.Injective fun v => f.apply (.ofContent v)

theorem apply_ofContent (slots : List Slot) (v : String) :
    (content slots).apply (.ofContent v) =
      slots.map (·.mapText (Text.replaceFirst Placeholder.content v.toList)) := rfl

theorem keepsContents_of_place {slots : List Slot} {s : String} (hs : Slot.text s ∈ slots)
    (place : Placeholder.content <:+: s.toList) : (content slots).KeepsContents where
  contained v := by
    refine ⟨_, List.mem_map_of_mem hs, ?_⟩
    rw [String.toList_ofList]
    exact Text.isInfix_replaceFirst place v.toList
  injective v w same := by
    simp only [apply_ofContent] at same
    have here := mapText_eq_iff.1 (List.map_inj_left.1 same _ hs) s rfl
    exact String.toList_inj.1 ((Text.replaceFirst_inj place).1 here)

theorem apply_of_no_place {slots : List Slot}
    (none : ∀ s, Slot.text s ∈ slots → ¬ Placeholder.content <:+: s.toList) (v : String) :
    (content slots).apply (.ofContent v) = slots := by
  have same : ∀ slot ∈ slots, slot.mapText (Text.replaceFirst Placeholder.content v.toList) =
      id slot := by
    intro slot hs
    rw [id_eq]
    conv_rhs => rw [← mapText_id slot]
    rw [mapText_eq_iff]
    rintro s rfl
    apply Text.replaceFirst_of_not_occursIn
    rw [← Bool.not_eq_true, Text.occursIn_eq_true_iff]
    exact none s hs
  rw [apply_ofContent, List.map_congr_left same, List.map_id]

theorem content?_eq_ok_iff {slots : List Slot} {f : Formatter} :
    content? slots = .ok f ↔ slots.any Slot.hasPlaceholder = true ∧ f = .content slots := by
  unfold content?
  split_ifs with named
  · simp only [named, true_and, Except.ok.injEq, eq_comm]
  · simp only [named, false_and, reduceCtorEq]

/-- A formatter that is accepted for a content keeps every content exactly if one of its texts has a
place for the content. If none has, it makes the same slots of every content. -/
theorem accepted_keepsContents_iff {slots : List Slot} {f : Formatter}
    (accepted : content? slots = .ok f) :
    (f.KeepsContents ↔ ∃ s, Slot.text s ∈ slots ∧ Placeholder.content <:+: s.toList) ∧
    ((∀ s, Slot.text s ∈ slots → ¬ Placeholder.content <:+: s.toList) →
      ∀ v, f.apply (.ofContent v) = slots) := by
  obtain ⟨-, rfl⟩ := content?_eq_ok_iff.1 accepted
  refine ⟨⟨fun keeps => ?_, fun ⟨s, hs, place⟩ => keepsContents_of_place hs place⟩,
    apply_of_no_place⟩
  by_contra none
  have all : ∀ v, (content slots).apply (.ofContent v) = slots :=
    apply_of_no_place fun s hs place => none ⟨s, hs, place⟩
  exact absurd (keeps.injective ((all "a").trans (all "b").symm)) (by decide)

/-- Slots with a text that has a place for the content and one for a round number, and a text with
two places for the content. -/
def manyPlaces : List Slot :=
  [.text "[\x7b\x7bidx\x7d\x7d] \x7b\x7bcontent\x7d\x7d", .eos,
    .text "\x7b\x7bcontent\x7d\x7d|\x7b\x7bcontent\x7d\x7d"]

/-- One of several places is enough, and so all that is said can be told apart. -/
theorem accepted_keepsContents_iff_manyPlaces :
    content? manyPlaces = .ok (.content manyPlaces) ∧ (content manyPlaces).KeepsContents := by
  have accepted : content? manyPlaces = .ok (.content manyPlaces) := by decide
  have place : Placeholder.content <:+: "[\x7b\x7bidx\x7d\x7d] \x7b\x7bcontent\x7d\x7d".toList := by
    decide
  exact ⟨accepted, (accepted_keepsContents_iff accepted).1.2 ⟨_, List.mem_cons_self .., place⟩⟩

/-- Slots with a placeholder of a name that nothing is put in for. -/
def asking : List Slot := [.text "Q: \x7b\x7bquery\x7d\x7d"]

/-- Slots are accepted for a content that no text of theirs says, so two contents come out alike. -/
theorem not_keepsContents_asking :
    content? asking = .ok (.content asking) ∧
      (∀ s, Slot.text s ∈ (content asking).apply (.ofContent "hi") → ¬ "hi".toList <:+: s.toList) ∧
      (content asking).apply (.ofContent "hi") = (content asking).apply (.ofContent "ho") ∧
      ¬ (content asking).KeepsContents := by
  have silent : (content asking).apply (.ofContent "hi") = asking := by decide
  have same : (content asking).apply (.ofContent "hi") = (content asking).apply (.ofContent "ho") := by
    decide
  refine ⟨by decide, fun s hs => ?_, same, fun keeps => ?_⟩
  · rw [silent, asking, List.mem_singleton, Slot.text.injEq] at hs
    subst hs
    decide
  · exact absurd (keeps.injective same) (by decide)

end Formatter

end Colloquy
