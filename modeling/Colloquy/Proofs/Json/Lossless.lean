import Colloquy.Proofs.Json.Lines
import Colloquy.Proofs.Json.Parsed

/-!
# Layouts without loss

The layout in which an exact value is written does not matter to a reader: each one gives the value
back, unless it nests too deep for any of them (`parse?_write_iff`). Two of them fit on a line.
-/

namespace Colloquy.Json

/-- An exact value that nests no deeper than the reader goes is found again in its text in every
layout, and only such a value is. In the layouts on one line no control character stands. -/
theorem parse?_write_iff {v : Json} (exact : Exact v) :
    (∀ layout, parse? (v.write layout) = some v ↔ v.depth ≤ 127) ∧
      ∀ layout ∈ [Layout.spaced, Layout.compact], ∀ c ∈ (v.write layout).toList, 0x20 ≤ c.toNat := by
  constructor
  · intro layout
    constructor
    · exact fun read => (within_of_parse? read).depth_le
    · exact fun fits => parse?_write exact fits layout
  · intro layout hl c hc
    have oneLine : ∀ l ∈ [Layout.spaced, Layout.compact], l.isOneLine = true := by decide
    rw [write, String.toList_ofList] at hc
    exact of_decide_eq_true (isPrinted_of_mem_writeAt (oneLine layout hl) exact 0 c hc)

/-- A value with the largest and the smallest integers, with empty arrays, objects and keys, and
with characters that have to be escaped. -/
def edgeCases : Json :=
  .obj [("b", .arr [.int (-0x8000000000000000), .int 0xffffffffffffffff, .arr [], .null]),
    ("", .obj []), ("a\n\"", .str "\x01\\é😀")]

theorem exact_edgeCases : Exact edgeCases := by
  refine .obj (by decide) fun m hm => ?_
  simp only [List.mem_cons, List.not_mem_nil, or_false] at hm
  rcases hm with rfl | rfl | rfl
  · refine .arr fun v hv => ?_
    simp only [List.mem_cons, List.not_mem_nil, or_false] at hv
    rcases hv with rfl | rfl | rfl | rfl
    · exact .int (by decide) (by decide)
    · exact .int (by decide) (by decide)
    · exact .arr (by simp)
    · exact .null
  · exact .obj (by decide) (by simp)
  · exact .str _

/-- The edge cases survive all three layouts. -/
theorem parse?_write_iff_edgeCases :
    Exact edgeCases ∧ parse? (edgeCases.write .spaced) = some edgeCases ∧
      parse? (edgeCases.write (.indented 4)) = some edgeCases ∧
      parse? (edgeCases.write .compact) = some edgeCases ∧
      (∀ c ∈ (edgeCases.write .spaced).toList, 0x20 ≤ c.toNat) ∧
      ∀ c ∈ (edgeCases.write .compact).toList, 0x20 ≤ c.toNat := by
  obtain ⟨read, printed⟩ := parse?_write_iff exact_edgeCases
  have fits : edgeCases.depth ≤ 127 := by decide
  exact ⟨exact_edgeCases, (read _).2 fits, (read _).2 fits, (read _).2 fits,
    printed .spaced (by simp), printed .compact (by simp)⟩

end Colloquy.Json
