/-!
# Blank characters

The Unicode property `White_Space` and its ASCII part, as classes of characters, and trimming a
text by a class. `trim` removes the characters with the property from both ends.
-/

namespace Colloquy.Text

/-- The characters with the Unicode property `White_Space`. -/
def isBlank (c : Char) : Bool :=
  let n := c.toNat
  (9 ≤ n && n ≤ 13) || n == 0x20 || n == 0x85 || n == 0xa0 || n == 0x1680 ||
    (0x2000 ≤ n && n ≤ 0x200a) || n == 0x2028 || n == 0x2029 || n == 0x202f || n == 0x205f ||
    n == 0x3000

/-- The blank characters of ASCII: tab, the three line breaks, carriage return and space. -/
def isAsciiBlank (c : Char) : Bool :=
  let n := c.toNat
  (9 ≤ n && n ≤ 13) || n == 0x20

/-- A text without the characters of a class at its two ends. -/
def trimBy (p : Char → Bool) (s : List Char) : List Char :=
  ((s.dropWhile p).reverse.dropWhile p).reverse

/-- A text without the blank characters at its two ends. -/
def trim (s : List Char) : List Char :=
  trimBy isBlank s

theorem isBlank_of_isAsciiBlank {c : Char} (h : isAsciiBlank c = true) : isBlank c = true := by
  simp only [isAsciiBlank, isBlank, Bool.or_eq_true] at *
  rcases h with h | h <;> simp [h]

@[simp] theorem trimBy_nil (p : Char → Bool) : trimBy p [] = [] := rfl

end Colloquy.Text
