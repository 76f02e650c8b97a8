import Colloquy.Json.Printer
import Colloquy.Json.Reader
import Colloquy.Proofs.Text

/-!
# Integers as JSON text

An integer is written as a numeral without fraction and exponent (`numeralOf`). The reader gives
that numeral back as long as nothing follows that could belong to it (`readNumeral?_writeInt`), and
the numeral stands for the integer if that has at most 64 bits (`value?_numeralOf`).
-/

namespace Colloquy.Json

/-- What follows cannot belong to a numeral before it. -/
def EndsNumeral (rest : List Char) : Prop :=
  ∀ c ∈ rest.head?, c.isDigit = false ∧ c ≠ '.' ∧ c ≠ 'e' ∧ c ≠ 'E'

theorem endsNumeral_nil : EndsNumeral [] := by simp [EndsNumeral]

theorem endsNumeral_cons {c : Char} (rest : List Char)
    (h : c.isDigit = false ∧ c ≠ '.' ∧ c ≠ 'e' ∧ c ≠ 'E') : EndsNumeral (c :: rest) := by
  intro d hd
  obtain rfl : c = d := by simpa using hd
  exact h

/-- The numeral as which an integer is written. -/
def numeralOf (n : Int) : Numeral := ⟨decide (n < 0), Nat.toDigits 10 n.natAbs, [], none⟩

/-! ## Digits -/

theorem readDigits_toDigits (n : Nat) : readDigits 0 (Nat.toDigits 10 n) = n := by
  have h : readDigits 0 (Nat.toDigits 10 n) = Nat.ofDigitChars 10 (Nat.toDigits 10 n) 0 := by
    unfold readDigits Nat.ofDigitChars digitValue
    congr 1
    funext a c
    rw [Nat.mul_comm]
  rw [h, Nat.ofDigitChars_ten_toDigits]

theorem isDigit_of_mem_toDigits {n : Nat} {c : Char} (h : c ∈ Nat.toDigits 10 n) :
    c.isDigit = true :=
  Nat.isDigit_of_mem_toDigits (by decide) (by decide) h

theorem exists_toDigits_eq_cons (n : Nat) :
    ∃ d ds, Nat.toDigits 10 n = d :: ds ∧ d.isDigit = true := by
  obtain ⟨d, ds, h⟩ := List.exists_cons_of_ne_nil (Nat.toDigits_ne_nil (n := n) (b := 10))
  exact ⟨d, ds, h, isDigit_of_mem_toDigits (by rw [h]; simp)⟩

/-- A number starts with a zero only if it is zero. -/
theorem head?_toDigits_ne_zero {n : Nat} (h : n ≠ 0) : (Nat.toDigits 10 n).head? ≠ some '0' := by
  induction n using Nat.strongRecOn with
  | ind n ih =>
    by_cases hn : n < 10
    · rw [Nat.toDigits_of_lt_base hn]
      simp [h]
    · have hq : n / 10 ≠ 0 := by omega
      rw [Nat.toDigits_of_base_le (by decide) (by omega)]
      obtain ⟨d, ds, hds, -⟩ := exists_toDigits_eq_cons (n / 10)
      have head := ih (n / 10) (by omega) hq
      rw [hds] at head ⊢
      simpa using head

theorem takeWhile_isDigit {digits rest : List Char} (hd : ∀ c ∈ digits, c.isDigit = true)
    (hr : EndsNumeral rest) : (digits ++ rest).takeWhile Char.isDigit = digits :=
  Text.takeWhile_append_of_head hd fun c hc => (hr c hc).1

theorem dropWhile_isDigit {digits rest : List Char} (hd : ∀ c ∈ digits, c.isDigit = true)
    (hr : EndsNumeral rest) : (digits ++ rest).dropWhile Char.isDigit = rest :=
  Text.dropWhile_append_of_head hd fun c hc => (hr c hc).1

/-! ## Reading -/

theorem readWhole?_toDigits (n : Nat) {rest : List Char} (hr : EndsNumeral rest) :
    Document.readWhole? (Nat.toDigits 10 n ++ rest) = some (Nat.toDigits 10 n, rest) := by
  have hd : ∀ c ∈ Nat.toDigits 10 n, c.isDigit = true := fun c hc => isDigit_of_mem_toDigits hc
  have single : ¬ ((Nat.toDigits 10 n).head? = some '0' ∧ Nat.toDigits 10 n ≠ ['0']) := by
    rintro ⟨hz, hs⟩
    by_cases h : n = 0
    · exact hs (by rw [h, Nat.toDigits_zero])
    · exact head?_toDigits_ne_zero h hz
  simp only [Document.readWhole?, Document.readDigits?, takeWhile_isDigit hd hr,
    dropWhile_isDigit hd hr, if_neg Nat.toDigits_ne_nil]
  rw [if_neg single]

theorem readFraction?_of_endsNumeral {rest : List Char} (hr : EndsNumeral rest) :
    Document.readFraction? rest = some ([], rest) := by
  unfold Document.readFraction?
  split
  · exact absurd rfl (hr '.' (by simp)).2.1
  · rfl

theorem readExponent?_of_endsNumeral {rest : List Char} (hr : EndsNumeral rest) :
    Document.readExponent? rest = some (none, rest) := by
  cases rest with
  | nil => rfl
  | cons c rest =>
    obtain ⟨-, -, he, hE⟩ := hr c (by simp)
    simp [Document.readExponent?, he, hE]

theorem readUnsigned?_toDigits (negative : Bool) (n : Nat) {rest : List Char}
    (hr : EndsNumeral rest) :
    Document.readUnsigned? negative (Nat.toDigits 10 n ++ rest) =
      some (⟨negative, Nat.toDigits 10 n, [], none⟩, rest) := by
  simp [Document.readUnsigned?, readWhole?_toDigits n hr, readFraction?_of_endsNumeral hr,
    readExponent?_of_endsNumeral hr]

theorem readNumeral?_writeInt (n : Int) {rest : List Char} (hr : EndsNumeral rest) :
    Document.readNumeral? (writeInt n ++ rest) = some (numeralOf n, rest) := by
  unfold writeInt numeralOf
  by_cases hn : n < 0
  · rw [if_pos hn, List.cons_append, Document.readNumeral?, readUnsigned?_toDigits true _ hr]
    simp [hn]
  · rw [if_neg hn]
    -- The first character is a digit, so it is not the sign.
    have sign : ∀ s, Nat.toDigits 10 n.natAbs ++ rest ≠ '-' :: s := by
      intro s h
      obtain ⟨d, ds, hds, hd⟩ := exists_toDigits_eq_cons n.natAbs
      rw [hds, List.cons_append] at h
      obtain rfl : d = '-' := (List.cons.inj h).1
      exact absurd hd (by decide)
    unfold Document.readNumeral?
    split
    · rename_i s h
      exact absurd h (sign s)
    · rw [readUnsigned?_toDigits false _ hr]
      simp [hn]

/-! ## Values -/

/-- Digits that follow make a number no smaller. -/
theorem le_readDigits (digits : List Char) (n : Nat) : n ≤ readDigits n digits := by
  induction digits generalizing n with
  | nil => exact Nat.le_refl n
  | cons c cs ih =>
    have h : n ≤ n * 10 + digitValue c := by omega
    exact Nat.le_trans h (ih _)

theorem takeSignificand_of_lt {n : Nat} {digits : List Char}
    (h : readDigits n digits < 0x10000000000000000) :
    takeSignificand n digits = (readDigits n digits, []) := by
  induction digits generalizing n with
  | nil => rfl
  | cons c cs ih =>
    have hc : readDigits n (c :: cs) = readDigits (n * 10 + digitValue c) cs := rfl
    rw [hc] at h ⊢
    have hlt : n * 10 + digitValue c < 0x10000000000000000 :=
      Nat.lt_of_le_of_lt (le_readDigits cs _) h
    rw [takeSignificand, if_pos hlt, ih h]

/-- An integer of at most 64 bits is what its numeral stands for. -/
theorem value?_numeralOf {n : Int} (lower : -0x8000000000000000 ≤ n)
    (upper : n < 0x10000000000000000) :
    (numeralOf n).value? = some (.int n) := by
  have hlt : readDigits 0 (Nat.toDigits 10 n.natAbs) < 0x10000000000000000 := by
    rw [readDigits_toDigits]
    omega
  have hs : (numeralOf n).significand = (n.natAbs, 0) := by
    simp only [Numeral.significand, numeralOf, takeSignificand_of_lt hlt, readDigits_toDigits,
      takeSignificand]
    rfl
  unfold Numeral.value?
  rw [hs]
  have whole : (numeralOf n).fraction = [] ∧ (numeralOf n).exponent = none ∧ (0 : Int) = 0 ∧
      ((numeralOf n).negative → 0 < n.natAbs ∧ n.natAbs ≤ 0x8000000000000000) := by
    refine ⟨rfl, rfl, rfl, fun hneg => ?_⟩
    have hn : n < 0 := by simpa [numeralOf] using hneg
    omega
  dsimp only
  rw [if_pos whole]
  by_cases hn : n < 0
  · have : (numeralOf n).negative = true := by simp [numeralOf, hn]
    rw [if_pos this]
    congr 2
    omega
  · have : ¬ (numeralOf n).negative = true := by simp [numeralOf, hn]
    rw [if_neg this]
    congr 2
    omega

end Colloquy.Json
