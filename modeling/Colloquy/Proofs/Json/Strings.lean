import Mathlib.Tactic.Conv
import Colloquy.Json.Printer
import Colloquy.Json.Reader

/-!
# Texts as JSON strings

Each character is written so that it is read as one piece (`pieceOf`): as itself, after a backslash,
or as a UTF-16 unit. The reader gives the pieces of a text back and stops behind the closing
quotation mark (`readString?_write`), and the pieces stand for the text (`textOf?_pieces`).
-/

namespace Colloquy.Json

/-- Whether a character is written as a UTF-16 unit. -/
def WrittenAsUnit (c : Char) : Prop :=
  c.toNat < 0x20 ∧ c ≠ '\x08' ∧ c ≠ '\x0c' ∧ c ≠ '\n' ∧ c ≠ '\r' ∧ c ≠ '\t'

instance (c : Char) : Decidable (WrittenAsUnit c) := by
  unfold WrittenAsUnit
  infer_instance

/-- The piece as which the writing of a character is read. -/
def pieceOf (c : Char) : Piece :=
  if WrittenAsUnit c then .unit c.toNat else .char c

/-- The pieces as which the writing of a text is read. -/
def pieces (s : List Char) : List Piece := s.map pieceOf

/-! ## One character -/

theorem readHex?_hexByte {n : Nat} (h : n < 0x20) :
    readHex? 0 ('0' :: '0' :: hexByte n) = some n := by
  have checked : ∀ m : Fin 0x20, readHex? 0 ('0' :: '0' :: hexByte m) = some m.val := by
    decide
  exact checked ⟨n, h⟩

theorem readString?_plain {done : List Piece} {c : Char} {rest : List Char} (hq : c ≠ '"')
    (hb : c ≠ '\\') (hc : ¬ c.toNat < 0x20) :
    Document.readString? done (c :: rest) = Document.readString? (.char c :: done) rest := by
  conv_lhs => unfold Document.readString?
  split
  · simp at *
  · rename_i h
    exact absurd (List.cons.inj h).1 hb
  · rename_i h
    exact absurd (List.cons.inj h).1 hb
  · rename_i h
    obtain ⟨rfl, rfl⟩ := List.cons.inj h
    simp [hq, hb, hc]

/-- The writing of a character is read as one piece. -/
theorem readString?_escape (done : List Piece) (c : Char) (rest : List Char) :
    Document.readString? done (escape c ++ rest) =
      Document.readString? (pieceOf c :: done) rest := by
  by_cases h₁ : c = '"'
  · subst c; simp [escape, pieceOf, WrittenAsUnit, Document.readString?, unescape?]
  by_cases h₂ : c = '\\'
  · subst c; simp [escape, pieceOf, WrittenAsUnit, Document.readString?, unescape?]
  by_cases h₃ : c = '\x08'
  · subst c; simp [escape, pieceOf, WrittenAsUnit, Document.readString?, unescape?]
  by_cases h₄ : c = '\x0c'
  · subst c; simp [escape, pieceOf, WrittenAsUnit, Document.readString?, unescape?]
  by_cases h₅ : c = '\n'
  · subst c; simp [escape, pieceOf, WrittenAsUnit, Document.readString?, unescape?]
  by_cases h₆ : c = '\r'
  · subst c; simp [escape, pieceOf, WrittenAsUnit, Document.readString?, unescape?]
  by_cases h₇ : c = '\t'
  · subst c; simp [escape, pieceOf, WrittenAsUnit, Document.readString?, unescape?]
  by_cases h₈ : c.toNat < 0x20
  · have unit : pieceOf c = .unit c.toNat := if_pos ⟨h₈, h₃, h₄, h₅, h₆, h₇⟩
    have hex := readHex?_hexByte h₈
    simp only [hexByte] at hex
    simp [escape, h₁, h₂, h₃, h₄, h₅, h₆, h₇, h₈, unit, hexByte, Document.readString?, hex]
  · have char : pieceOf c = .char c := if_neg fun h => h₈ h.1
    rw [char, ← readString?_plain h₁ h₂ h₈]
    simp [escape, h₁, h₂, h₃, h₄, h₅, h₆, h₇, h₈]

/-! ## All characters -/

theorem readString?_flatMap_escape (done : List Piece) (s rest : List Char) :
    Document.readString? done (s.flatMap escape ++ '"' :: rest) =
      some (done.reverse ++ pieces s, rest) := by
  induction s generalizing done with
  | nil => simp [Document.readString?, pieces]
  | cons c s ih =>
    rw [List.flatMap_cons, List.append_assoc, readString?_escape, ih]
    simp [pieces]

/-- The inside of a written string is read up to its closing quotation mark. -/
theorem readString?_write (s rest : List Char) :
    Document.readString? [] (s.flatMap escape ++ '"' :: rest) = some (pieces s, rest) :=
  readString?_flatMap_escape [] s rest

theorem readPieces?_pieces (done s : List Char) :
    readPieces? done (pieces s) = some (done.reverse ++ s) := by
  induction s generalizing done with
  | nil => simp [pieces, readPieces?]
  | cons c s ih =>
    rw [pieces, List.map_cons, ← pieces]
    have step : readPieces? done (pieceOf c :: pieces s) =
        readPieces? (c :: done) (pieces s) := by
      unfold pieceOf
      by_cases hc : WrittenAsUnit c
      · -- Units below `0x20` are no halves of surrogate pairs.
        have hlt : c.toNat < 0x20 := hc.1
        rw [if_pos hc]
        conv_lhs => unfold readPieces?
        rw [if_neg (by omega), if_neg (by omega), Char.ofNat_toNat]
      · rw [if_neg hc, readPieces?]
    rw [step, ih]
    simp

/-- The pieces of a text stand for it. -/
theorem textOf?_pieces (s : List Char) : textOf? (pieces s) = some (String.ofList s) := by
  rw [textOf?, readPieces?_pieces]
  rfl

end Colloquy.Json
