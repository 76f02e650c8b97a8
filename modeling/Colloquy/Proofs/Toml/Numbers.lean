import Colloquy.Toml.Printer
import Colloquy.Proofs.Json.Numbers

/-!
# Integers in TOML

An integer of 64 bits is written in decimal digits. The reader gives it back, whatever follows that
may follow a value (`readNumeric?_writeInt`): the digits are not taken for the start of a date or of
a time, nor a leading zero for the start of another base.
-/

namespace Colloquy.Toml

/-- What may follow a value: the end of a line, of an item or of an entry. -/
def EndsValue (rest : List Char) : Prop :=
  ∀ c ∈ rest.head?, c = '\n' ∨ c = ' ' ∨ c = ',' ∨ c = ']'

theorem endsValue_cons {c : Char} (h : c = '\n' ∨ c = ' ' ∨ c = ',' ∨ c = ']')
    (rest : List Char) : EndsValue (c :: rest) := by
  rintro d ⟨⟩
  exact h

theorem EndsValue.isDigit {rest : List Char} (h : EndsValue rest) :
    ∀ c ∈ rest.head?, c.isDigit = false := by
  intro c hc
  rcases h c hc with rfl | rfl | rfl | rfl <;> rfl

theorem EndsValue.head?_ne {rest : List Char} (h : EndsValue rest) {c : Char}
    (other : c ≠ '\n' ∧ c ≠ ' ' ∧ c ≠ ',' ∧ c ≠ ']') : rest.head? ≠ some c := by
  intro same
  obtain ⟨h₁, h₂, h₃, h₄⟩ := other
  rcases h c same with stop | stop | stop | stop
  · exact h₁ stop
  · exact h₂ stop
  · exact h₃ stop
  · exact h₄ stop

/-! ## Digits -/

theorem hexValue?_of_isDigit {c : Char} (h : c.isDigit = true) :
    Json.hexValue? c = some (Json.digitValue c) := by
  simp only [Char.isDigit, Bool.and_eq_true, decide_eq_true_eq] at h
  exact if_pos h

theorem valueOf_toDigits (n : Nat) : valueOf 10 (Nat.toDigits 10 n) = n := by
  have same (ds : List Char) (h : ∀ c ∈ ds, c.isDigit = true) (m : Nat) :
      ds.foldl (fun n c => n * 10 + (Json.hexValue? c).getD 0) m = Json.readDigits m ds := by
    induction ds generalizing m with
    | nil => rfl
    | cons c ds ih =>
      rw [List.forall_mem_cons] at h
      rw [List.foldl_cons, hexValue?_of_isDigit h.1, ih h.2]
      rfl
  rw [valueOf, same _ fun c => Json.isDigit_of_mem_toDigits, Json.readDigits_toDigits]

/-- Digits are read up to what may follow them. -/
theorem readRun?_append {digits rest : List Char} (hd : ∀ c ∈ digits, c.isDigit = true)
    (hr : EndsValue rest) (done : List Char) (begun : done ≠ [] ∨ digits ≠ []) :
    readRun? Char.isDigit done (digits ++ rest) = some (done.reverse ++ digits, rest) := by
  induction digits generalizing done with
  | nil =>
    have started : done ≠ [] := begun.resolve_right fun h => h rfl
    rw [List.nil_append, List.append_nil]
    cases rest with
    | nil => rw [readRun?, if_neg started]
    | cons c rest =>
      have line : c ≠ '_' := fun same => hr.head?_ne (c := '_') (by decide) (by rw [same]; rfl)
      rw [readRun?, if_neg (by simp [hr.isDigit c rfl]), if_neg (by simp [started, line])]
      rintro d t same -
      exact line same
  | cons d digits ih =>
    rw [List.forall_mem_cons] at hd
    rw [List.cons_append, readRun?, if_pos hd.1, ih hd.2 _ (.inl (by simp)), List.reverse_cons,
      List.append_assoc]
    · rfl
    · rintro c t rfl -
      exact absurd hd.1 (by decide)

theorem readDecimal?_toDigits (n : Nat) {rest : List Char} (hr : EndsValue rest) :
    readDecimal? (Nat.toDigits 10 n ++ rest) = some (Nat.toDigits 10 n, rest) := by
  by_cases zero : n = 0
  · rw [zero]
    rfl
  · have head := Json.head?_toDigits_ne_zero zero
    rw [readDecimal?, readRun?_append (fun c => Json.isDigit_of_mem_toDigits) hr []
      (.inr Nat.toDigits_ne_nil)]
    · rfl
    · intro t h
      obtain ⟨d, ds, written, -⟩ := Json.exists_toDigits_eq_cons n
      rw [written] at h head
      exact head (congrArg some (List.cons.inj h).1)

/-! ## No date or time -/

/-- Where a part of a date or a time ends at a mark, the mark comes right after the digits that the
text starts with. -/
theorem head?_dropWhile_isDigit_of_readPart? {n low high : Nat} {mark : Char} {s : List Char}
    (other : mark.isDigit = false)
    (h : ((readPart? n low high s).bind fun p => after? mark p.2).isSome = true) :
    (s.dropWhile Char.isDigit).head? = some mark := by
  unfold readPart? at h
  dsimp only at h
  by_cases fits : (s.take n).length = n ∧ (s.take n).all Char.isDigit = true ∧
      low ≤ valueOf 10 (s.take n) ∧ valueOf 10 (s.take n) ≤ high
  case neg =>
    rw [if_neg fits] at h
    cases h
  rw [if_pos fits, Option.bind_some] at h
  have digits : ∀ c ∈ s.take n, c.isDigit = true := by simpa using fits.2.1
  have stop : (s.drop n).head? = some mark := by
    cases follows : s.drop n with
    | nil =>
      rw [follows] at h
      cases h
    | cons c t =>
      rw [follows] at h
      by_cases same : c = mark
      · rw [same]
        rfl
      · rw [after?, if_neg same] at h
        cases h
  rw [← List.take_append_drop n s, Text.dropWhile_append_of_head digits, stop]
  intro c hc
  rw [stop] at hc
  cases hc
  exact other

theorem atDateTime_eq_false {s : List Char} (dash : (s.dropWhile Char.isDigit).head? ≠ some '-')
    (colon : (s.dropWhile Char.isDigit).head? ≠ some ':') : atDateTime s = false := by
  unfold atDateTime
  rw [Bool.or_eq_false_iff, Bool.eq_false_iff, Bool.eq_false_iff]
  exact ⟨fun h => dash (head?_dropWhile_isDigit_of_readPart? (by decide) h),
    fun h => colon (head?_dropWhile_isDigit_of_readPart? (by decide) h)⟩

theorem atDateTime_toDigits (n : Nat) {rest : List Char} (hr : EndsValue rest) :
    atDateTime (Nat.toDigits 10 n ++ rest) = false := by
  have drop : (Nat.toDigits 10 n ++ rest).dropWhile Char.isDigit = rest :=
    Text.dropWhile_append_of_head (fun c => Json.isDigit_of_mem_toDigits) hr.isDigit
  apply atDateTime_eq_false
  · rw [drop]
    exact hr.head?_ne (by decide)
  · rw [drop]
    exact hr.head?_ne (by decide)

/-! ## Integers -/

theorem finishNumber?_toDigits (start : List Char) {minus : Bool} {n : Int} (inside : isInt64 n)
    (sign : minus = decide (n < 0)) {rest : List Char} (hr : EndsValue rest) :
    finishNumber? start minus (Nat.toDigits 10 n.natAbs) rest = some (.int n, rest) := by
  have fraction : readFraction? rest = some ([], rest) := by
    rw [readFraction?]
    intro t h
    exact hr.head?_ne (c := '.') (by decide) (by rw [h]; rfl)
  have exponent : readExponent? rest = some (none, rest) := by
    cases rest with
    | nil => rfl
    | cons c rest =>
      have small : c ≠ 'e' := fun same => hr.head?_ne (c := 'e') (by decide) (by rw [same]; rfl)
      have large : c ≠ 'E' := fun same => hr.head?_ne (c := 'E') (by decide) (by rw [same]; rfl)
      rw [readExponent?, if_neg (by simp [small, large])]
  have value : (if minus = true then -(n.natAbs : Int) else n.natAbs) = n := by
    rw [sign]
    by_cases negative : n < 0
    · rw [decide_eq_true negative, if_pos rfl]
      omega
    · rw [decide_eq_false negative, if_neg (by decide)]
      omega
  simp only [finishNumber?, fraction, exponent, Option.bind_eq_bind, Option.bind_some, and_self,
    if_true, valueOf_toDigits, value, inside]

theorem readSign_writeInt (n : Int) (rest : List Char) :
    readSign (writeInt n ++ rest) = (decide (n < 0), Nat.toDigits 10 n.natAbs ++ rest) := by
  unfold writeInt
  by_cases negative : n < 0
  · rw [if_pos negative, decide_eq_true negative]
    rfl
  · rw [if_neg negative, decide_eq_false negative]
    obtain ⟨d, ds, written, digit⟩ := Json.exists_toDigits_eq_cons n.natAbs
    rw [written, List.cons_append, readSign]
    · rintro _ ⟨⟩
      exact absurd digit (by decide)
    · rintro _ ⟨⟩
      exact absurd digit (by decide)

/-- A zero that an integer starts with is all there is of it. -/
theorem eq_of_writeInt_eq_zero {n : Int} {rest t : List Char} (hr : EndsValue rest)
    (h : writeInt n ++ rest = '0' :: t) : t = rest := by
  have signed := readSign_writeInt n rest
  have decimal := readDecimal?_toDigits n.natAbs hr
  rw [h] at signed
  rw [← (Prod.mk.inj signed).2] at decimal
  exact (Prod.mk.inj (Option.some.inj decimal)).2

theorem readNumber?_writeInt {n : Int} (inside : isInt64 n) {rest : List Char}
    (hr : EndsValue rest) : readNumber? (writeInt n ++ rest) = some (.int n, rest) := by
  obtain ⟨d, ds, written, digit⟩ := Json.exists_toDigits_eq_cons n.natAbs
  have noBase {c : Char} {t : List Char} (other : c ≠ '\n' ∧ c ≠ ' ' ∧ c ≠ ',' ∧ c ≠ ']') :
      writeInt n ++ rest ≠ '0' :: c :: t := fun h =>
    hr.head?_ne other (by rw [← eq_of_writeInt_eq_zero hr h]; rfl)
  have noWord {c : Char} {t : List Char} (other : c.isDigit = false) :
      Nat.toDigits 10 n.natAbs ++ rest ≠ c :: t := by
    rw [written]
    rintro ⟨⟩
    rw [digit] at other
    cases other
  unfold readNumber?
  split
  · exact absurd ‹_› (noBase (by decide))
  · exact absurd ‹_› (noBase (by decide))
  · exact absurd ‹_› (noBase (by decide))
  · rw [readSign_writeInt]
    dsimp only
    split
    · exact absurd ‹_› (noWord rfl)
    · exact absurd ‹_› (noWord rfl)
    · rw [readDecimal?_toDigits _ hr]
      exact finishNumber?_toDigits _ inside rfl hr

/-- An integer of 64 bits is read back. -/
theorem readNumeric?_writeInt {n : Int} (inside : isInt64 n) {rest : List Char}
    (hr : EndsValue rest) : readNumeric? (writeInt n ++ rest) = some (.int n, rest) := by
  have number : atDateTime (writeInt n ++ rest) = false := by
    unfold writeInt
    by_cases negative : n < 0
    · rw [if_pos negative]
      simp [atDateTime, readPart?]
    · rw [if_neg negative]
      exact atDateTime_toDigits _ hr
  rw [readNumeric?, if_neg (by simp [number]), readNumber?_writeInt inside hr]

end Colloquy.Toml
