import Colloquy.Proofs.Json.RoundTrip

/-!
# Values on one line

A value in a layout without line breaks takes one line: strings escape all control characters, and
nothing else writes any (`isPrinted_of_mem_writeAt`). Its text starts and ends with a
character of its own (`isEdge`), so trimming leaves it as it is (`bare_writeAt`). The only values
between quotation marks are strings (`exists_eq_str`), and a quotation mark inside of one stands
behind a backslash (`quote_in_writeString`). In any layout no text begins with two braces
(`writeAt_ne_braces`).
-/

namespace Colloquy.Json

open Text (Bare)

/-! ## Control characters -/

/-- Whether a character is no control character of ASCII. -/
def isPrinted (c : Char) : Bool :=
  0x20 ≤ c.toNat

theorem isPrinted_of_mem_hexByte {n : Nat} (h : n < 0x20) {c : Char} (hc : c ∈ hexByte n) :
    isPrinted c = true := by
  have checked : ∀ m : Fin 0x20, (hexByte m).all isPrinted = true := by decide
  exact List.all_eq_true.1 (checked ⟨n, h⟩) c hc

/-- What may stand for a character in a string: a backslash and a character, the code of a control
character, or the character itself. -/
inductive IsEscape (c : Char) : List Char → Prop where
  | pair {d : Char} (short : d ∈ ['"', '\\', 'b', 'f', 'n', 'r', 't']) : IsEscape c ['\\', d]
  | code {n : Nat} (low : n < 0x20) : IsEscape c (['\\', 'u', '0', '0'] ++ hexByte n)
  | own (quote : c ≠ '"') (large : 0x20 ≤ c.toNat) : IsEscape c [c]

theorem isEscape_escape (c : Char) : IsEscape c (escape c) := by
  unfold escape
  refine iteInduction (fun _ => .pair (by decide)) fun quote => ?_
  refine iteInduction (fun _ => .pair (by decide)) fun _ => ?_
  refine iteInduction (fun _ => .pair (by decide)) fun _ => ?_
  refine iteInduction (fun _ => .pair (by decide)) fun _ => ?_
  refine iteInduction (fun _ => .pair (by decide)) fun _ => ?_
  refine iteInduction (fun _ => .pair (by decide)) fun _ => ?_
  refine iteInduction (fun _ => .pair (by decide)) fun _ => ?_
  exact iteInduction .code fun large => .own quote (Nat.le_of_not_lt large)

theorem IsEscape.isPrinted_of_mem {c d : Char} {s : List Char} (escaped : IsEscape d s)
    (h : c ∈ s) : isPrinted c = true := by
  have printed : ∀ {s : List Char}, c ∈ s → s.all isPrinted = true → isPrinted c = true :=
    fun hc all => List.all_eq_true.1 all c hc
  cases escaped with
  | pair short =>
    rw [List.mem_cons, List.mem_singleton] at h
    rcases h with rfl | rfl
    · decide
    · exact printed short (by decide)
  | code low =>
    rcases List.mem_append.1 h with h | h
    · exact printed h (by decide)
    · exact isPrinted_of_mem_hexByte low h
  | own _ large =>
    obtain rfl := List.mem_singleton.1 h
    exact decide_eq_true large

theorem isPrinted_of_mem_writeString {s : List Char} {c : Char} (h : c ∈ writeString s) :
    isPrinted c = true := by
  rw [writeString, List.mem_append, List.mem_cons, List.mem_flatMap, List.mem_singleton] at h
  rcases h with (rfl | ⟨d, -, hd⟩) | rfl
  · decide
  · exact (isEscape_escape d).isPrinted_of_mem hd
  · decide

theorem isPrinted_of_isDigit {c : Char} (h : c.isDigit = true) : isPrinted c = true := by
  simp only [Char.isDigit, Bool.and_eq_true, decide_eq_true_eq] at h
  have low : 48 ≤ c.toNat := h.1
  exact decide_eq_true (Nat.le_trans (by decide) low)

theorem isPrinted_of_mem_writeInt {n : Int} {c : Char} (h : c ∈ writeInt n) : isPrinted c = true := by
  unfold writeInt at h
  split at h
  · rcases List.mem_cons.1 h with rfl | h
    · decide
    · exact isPrinted_of_isDigit (isDigit_of_mem_toDigits h)
  · exact isPrinted_of_isDigit (isDigit_of_mem_toDigits h)

/-- Whether a layout keeps a value on one line. -/
def Layout.isOneLine : Layout → Bool
  | indented _ => false
  | _ => true

section

variable {layout : Layout} (line : layout.isOneLine = true)

include line

theorem Layout.first_of_isOneLine (level : Nat) : layout.first level = [] := by
  cases layout with
  | compact => rfl
  | spaced => rfl
  | indented width => cases line

theorem Layout.isPrinted_of_mem_next {level : Nat} {c : Char} (hc : c ∈ layout.next level) :
    isPrinted c = true := by
  cases layout with
  | compact => exact List.all_eq_true.1 (show [','].all isPrinted = true by decide) c hc
  | spaced => exact List.all_eq_true.1 (show [',', ' '].all isPrinted = true by decide) c hc
  | indented width => cases line

theorem Layout.isPrinted_of_mem_colon {c : Char} (hc : c ∈ layout.colon) : isPrinted c = true := by
  cases layout with
  | compact => exact List.all_eq_true.1 (show [':'].all isPrinted = true by decide) c hc
  | spaced => exact List.all_eq_true.1 (show [':', ' '].all isPrinted = true by decide) c hc
  | indented width => cases line

theorem isPrinted_of_mem_writeItems {items : List Json} {level : Nat}
    (values : ∀ v ∈ items, ∀ c ∈ v.writeAt layout level, isPrinted c = true) :
    ∀ c ∈ writeItems layout level items, isPrinted c = true := by
  intro c hc
  induction items with
  | nil => cases hc
  | cons v items ih =>
    rw [writeItems, List.mem_append, List.mem_append] at hc
    rcases hc with (hc | hc) | hc
    · exact Layout.isPrinted_of_mem_next line hc
    · exact values v (by simp) c hc
    · exact ih (fun u hu => values u (List.mem_cons_of_mem _ hu)) hc

theorem isPrinted_of_mem_writeMembers {members : List (String × Json)} {level : Nat}
    (values : ∀ m ∈ members, ∀ c ∈ m.2.writeAt layout level, isPrinted c = true) :
    ∀ c ∈ writeMembers layout level members, isPrinted c = true := by
  intro c hc
  induction members with
  | nil => cases hc
  | cons m members ih =>
    obtain ⟨k, v⟩ := m
    rw [writeMembers] at hc
    simp only [List.mem_append] at hc
    rcases hc with (((hc | hc) | hc) | hc) | hc
    · exact Layout.isPrinted_of_mem_next line hc
    · exact isPrinted_of_mem_writeString hc
    · exact Layout.isPrinted_of_mem_colon line hc
    · exact values (k, v) (by simp) c hc
    · exact ih (fun u hu => values u (List.mem_cons_of_mem _ hu)) hc

/-- No control character stands in the text of an exact value on one line. -/
theorem isPrinted_of_mem_writeAt {v : Json} (h : Exact v) (level : Nat) :
    ∀ c ∈ v.writeAt layout level, isPrinted c = true := by
  induction h generalizing level with
  | null => exact List.all_eq_true.1 (show ['n', 'u', 'l', 'l'].all isPrinted = true by decide)
  | bool b =>
    cases b
    · exact List.all_eq_true.1 (show ['f', 'a', 'l', 's', 'e'].all isPrinted = true by decide)
    · exact List.all_eq_true.1 (show ['t', 'r', 'u', 'e'].all isPrinted = true by decide)
  | int lower upper => exact fun c hc => isPrinted_of_mem_writeInt hc
  | str s => exact fun c hc => isPrinted_of_mem_writeString hc
  | @arr items exact ih =>
    cases items with
    | nil => exact List.all_eq_true.1 (show ['[', ']'].all isPrinted = true by decide)
    | cons v items =>
      have rest : ∀ c ∈ writeItems layout (level + 1) items, isPrinted c = true :=
        isPrinted_of_mem_writeItems line fun u hu => ih u (List.mem_cons_of_mem _ hu) (level + 1)
      intro c hc
      rw [writeAt] at hc
      simp only [Layout.first_of_isOneLine line, List.append_nil, List.mem_append, List.mem_cons,
        List.not_mem_nil, or_false] at hc
      rcases hc with ((rfl | hc) | hc) | rfl
      · decide
      · exact ih v (by simp) (level + 1) c hc
      · exact rest c hc
      · decide
  | @obj members distinct exact ih =>
    cases members with
    | nil => exact List.all_eq_true.1 (show ['\x7b', '\x7d'].all isPrinted = true by decide)
    | cons m members =>
      obtain ⟨k, v⟩ := m
      have rest : ∀ c ∈ writeMembers layout (level + 1) members, isPrinted c = true :=
        isPrinted_of_mem_writeMembers line fun u hu => ih u (List.mem_cons_of_mem _ hu) (level + 1)
      intro c hc
      rw [writeAt] at hc
      simp only [Layout.first_of_isOneLine line, List.append_nil, List.mem_append, List.mem_cons,
        List.not_mem_nil, or_false] at hc
      rcases hc with ((((rfl | hc) | hc) | hc) | hc) | rfl
      · decide
      · exact isPrinted_of_mem_writeString hc
      · exact Layout.isPrinted_of_mem_colon line hc
      · exact ih (k, v) (by simp) (level + 1) c hc
      · exact rest c hc
      · decide

theorem newLine_not_mem_writeAt {v : Json} (h : Exact v) (level : Nat) :
    '\n' ∉ v.writeAt layout level :=
  fun hc => absurd (isPrinted_of_mem_writeAt line h level '\n' hc) (by decide)

end

/-! ## First and last characters -/

/-- The characters at the edges of a value that is no string. -/
def isEdge (c : Char) : Bool :=
  c.isDigit || c ∈ "nulltruefalse-[]\x7b\x7d".toList

theorem bare_of_forall {q : Char → Bool} {s : List Char} (ne : s ≠ [])
    (h : ∀ c ∈ s, q c = false) : Bare q s :=
  ⟨ne, fun c hc => h c (List.mem_of_head? hc), fun c hc => h c (List.mem_of_getLast? hc)⟩

theorem bare_between {q : Char → Bool} {a b : Char} (first : q a = false) (last : q b = false)
    (s : List Char) : Bare q (a :: s ++ [b]) where
  ne_nil := by simp
  head := by
    intro c hc
    obtain rfl : a = c := by simpa using hc
    exact first
  last := by
    intro c hc
    rw [List.getLast?_append_of_ne_nil _ (by simp)] at hc
    obtain rfl : b = c := by simpa using hc
    exact last

theorem bare_writeString {q : Char → Bool} (hq : q '"' = false) (s : List Char) :
    Bare q (writeString s) :=
  bare_between hq hq _

/-- The text of an object stands between braces. -/
theorem bare_writeAt_obj {q : Char → Bool} (first : q '\x7b' = false) (last : q '\x7d' = false)
    (layout : Layout) (level : Nat) (members : List (String × Json)) :
    Bare q ((obj members).writeAt layout level) := by
  cases members with
  | nil => exact bare_between first last []
  | cons m members =>
    obtain ⟨k, v⟩ := m
    rw [writeAt]
    exact bare_between first last _

/-- The text of an array stands between brackets. -/
theorem bare_writeAt_arr {q : Char → Bool} (first : q '[' = false) (last : q ']' = false)
    (layout : Layout) (level : Nat) (items : List Json) :
    Bare q ((arr items).writeAt layout level) := by
  cases items with
  | nil => exact bare_between first last []
  | cons v items =>
    rw [writeAt]
    exact bare_between first last _

/-- The text of an exact value other than a string keeps its edges when characters of another class
are trimmed. -/
theorem bare_writeAt {q : Char → Bool} (hq : ∀ c, isEdge c = true → q c = false) {v : Json}
    (h : Exact v) (other : ∀ s, v ≠ str s) (layout : Layout) (level : Nat) :
    Bare q (v.writeAt layout level) := by
  have literal : ∀ {s : List Char}, s ≠ [] → s.all isEdge = true → Bare q s :=
    fun ne all => bare_of_forall ne fun c hc => hq c (List.all_eq_true.1 all c hc)
  cases h with
  | null => exact literal (s := ['n', 'u', 'l', 'l']) (by decide) (by decide)
  | bool b =>
    cases b
    · exact literal (s := ['f', 'a', 'l', 's', 'e']) (by decide) (by decide)
    · exact literal (s := ['t', 'r', 'u', 'e']) (by decide) (by decide)
  | @int n lower upper =>
    have digits : (Nat.toDigits 10 n.natAbs).all isEdge = true := by
      refine List.all_eq_true.2 fun c hc => ?_
      simp [isEdge, isDigit_of_mem_toDigits hc]
    have minus : isEdge '-' = true := by decide
    rw [writeAt, writeInt]
    split
    · exact literal (by simp) (by rw [List.all_cons, minus, digits]; rfl)
    · exact literal Nat.toDigits_ne_nil digits
  | str s => exact absurd rfl (other s)
  | arr exact => exact bare_writeAt_arr (hq _ rfl) (hq _ rfl) layout level _
  | obj distinct exact => exact bare_writeAt_obj (hq _ rfl) (hq _ rfl) layout level _

theorem isBlank_of_isEdge {c : Char} (h : isEdge c = true) : Text.isBlank c = false := by
  rw [Bool.eq_false_iff]
  intro hb
  have none : ∀ k ∈ Text.blankCodes, isEdge (Char.ofNat k) = false := by decide
  rw [← Char.ofNat_toNat c, none _ (Text.toNat_mem_blankCodes hb)] at h
  cases h

/-- Trimming leaves the text of an exact value as it is. -/
theorem bare_isBlank_writeAt {v : Json} (h : Exact v) (layout : Layout) (level : Nat) :
    Bare Text.isBlank (v.writeAt layout level) := by
  by_cases string : ∃ s, v = str s
  · obtain ⟨s, rfl⟩ := string
    exact bare_writeString (by decide) s.toList
  · exact bare_writeAt (fun c => isBlank_of_isEdge) h (not_exists.1 string) layout level

theorem bare_beq_writeAt {a : Char} (ha : isEdge a = false) {v : Json} (h : Exact v)
    (other : ∀ s, v ≠ str s) (layout : Layout) (level : Nat) :
    Bare (· == a) (v.writeAt layout level) := by
  refine bare_writeAt (fun c hc => ?_) h other layout level
  rw [beq_eq_false_iff_ne]
  rintro rfl
  rw [hc] at ha
  cases ha

/-! ## Quotation marks -/

theorem IsEscape.eq_of_quote_mem {c : Char} {s : List Char} (escaped : IsEscape c s)
    (h : '"' ∈ s) : s = ['\\', '"'] := by
  cases escaped with
  | pair short =>
    rw [List.mem_cons, List.mem_singleton] at h
    rcases h with h | rfl
    · exact absurd h (by decide)
    · rfl
  | code low =>
    have absent : ∀ m : Fin 0x20, (['\\', 'u', '0', '0'] ++ hexByte m).all (· != '"') = true := by
      decide
    exact absurd (List.all_eq_true.1 (absent ⟨_, low⟩) _ h) (by decide)
  | own quote => exact absurd (List.mem_singleton.1 h).symm quote

theorem quote_in_flatMap_escape {s x y : List Char}
    (h : s.flatMap escape ++ ['"'] = x ++ '"' :: y) : y = [] ∨ x.getLast? = some '\\' := by
  induction s generalizing x with
  | nil =>
    have length := congrArg List.length h
    simp only [List.flatMap_nil, List.nil_append, List.length_append, List.length_cons,
      List.length_nil] at length
    exact .inl (List.eq_nil_of_length_eq_zero (by omega))
  | cons c s ih =>
    rw [List.flatMap_cons, List.append_assoc] at h
    rcases List.append_eq_append_iff.1 h with ⟨a, rfl, rest⟩ | ⟨b, here, rest⟩
    · rcases ih rest with hy | ha
      · exact .inl hy
      · refine .inr ?_
        rw [List.getLast?_append, ha]
        rfl
    · cases b with
      | nil =>
        rcases ih (x := []) rest.symm with hy | hx
        · exact .inl hy
        · cases hx
      | cons d b =>
        obtain rfl : '"' = d := (List.cons.inj rest).1
        have pair := (isEscape_escape c).eq_of_quote_mem (by rw [here]; simp)
        rw [here] at pair
        right
        cases x with
        | nil => exact absurd (List.cons.inj pair).1 (by decide)
        | cons e x =>
          obtain ⟨rfl, tail⟩ := List.cons.inj pair
          cases x with
          | nil => rfl
          | cons f x => exact absurd (List.cons.inj tail).2 (by simp)

/-- A quotation mark in the text of a string stands at one of its ends or behind a backslash. -/
theorem quote_in_writeString {s x y : List Char} (h : writeString s = x ++ '"' :: y) :
    x = [] ∨ y = [] ∨ x.getLast? = some '\\' := by
  cases x with
  | nil => exact .inl rfl
  | cons c x =>
    right
    rcases quote_in_flatMap_escape (List.cons.inj h).2 with hy | hx
    · exact .inl hy
    · refine .inr ?_
      rw [List.getLast?_cons, hx]
      rfl

theorem exists_writeScaled_eq_cons (x : Decimal.Scaled) :
    ∃ c cs, writeScaled x = c :: cs ∧ c.isDigit = true := by
  obtain ⟨d, ds, hds, hd⟩ := exists_toDigits_eq_cons x.digits
  unfold writeScaled
  dsimp only
  rw [hds]
  split
  · exact ⟨d, _, rfl, hd⟩
  split
  · rename_i point
    obtain ⟨k, hk⟩ : ∃ k, (((d :: ds).length : Int) + x.exponent).toNat = k + 1 :=
      Nat.exists_eq_succ_of_ne_zero (by omega)
    rw [hk]
    exact ⟨d, _, rfl, hd⟩
  split
  · exact ⟨'0', _, rfl, by decide⟩
  · exact ⟨d, _, rfl, hd⟩

theorem exists_writeInt_eq_cons (n : Int) :
    ∃ c cs, writeInt n = c :: cs ∧ (c = '-' ∨ c.isDigit = true) := by
  obtain ⟨d, ds, hds, hd⟩ := exists_toDigits_eq_cons n.natAbs
  unfold writeInt
  split
  · exact ⟨'-', _, rfl, .inl rfl⟩
  · exact ⟨d, ds, hds, .inr hd⟩

theorem exists_writeFloat_eq_cons (x : Float) :
    ∃ c cs, writeFloat x = c :: cs ∧ (c = '-' ∨ c.isDigit = true) := by
  have signed : ∀ {sign s cs : List Char} {c : Char}, (sign = ['-'] ∨ sign = []) →
      s = c :: cs → c.isDigit = true →
      ∃ d ds, sign ++ s = d :: ds ∧ (d = '-' ∨ d.isDigit = true) := by
    rintro sign s cs c (rfl | rfl) rfl hc
    · exact ⟨'-', _, rfl, .inl rfl⟩
    · exact ⟨c, cs, rfl, .inr hc⟩
  have sign : (if x.toBits >>> 63 = 1 then ['-'] else []) = ['-'] ∨
      (if x.toBits >>> 63 = 1 then ['-'] else ([] : List Char)) = [] := by
    split
    · exact .inl rfl
    · exact .inr rfl
  unfold writeFloat
  dsimp only
  split
  · exact signed sign rfl (c := '0') (by decide)
  · obtain ⟨c, cs, hs, hc⟩ := exists_writeScaled_eq_cons (binaryOf x.toBits).shortest
    exact signed sign hs hc

theorem head?_ne_of_number {a : Char} (ha : a ≠ '-' ∧ a.isDigit = false) {s : List Char}
    (h : ∃ c cs, s = c :: cs ∧ (c = '-' ∨ c.isDigit = true)) : s.head? ≠ some a := by
  obtain ⟨c, cs, rfl, hc⟩ := h
  intro first
  obtain rfl : c = a := Option.some.inj first
  rcases hc with rfl | hc
  · exact ha.1 rfl
  · rw [ha.2] at hc
    cases hc

/-- Only strings are written with a quotation mark first. -/
theorem exists_eq_str {v : Json} {layout : Layout} {level : Nat} {s : List Char}
    (h : v.writeAt layout level = '"' :: s) : ∃ t, v = str t := by
  have first : (v.writeAt layout level).head? = some '"' := by rw [h]; rfl
  cases v with
  | null => exact absurd first (by simp [writeAt])
  | bool b => cases b <;> exact absurd first (by simp [writeAt])
  | int n => exact absurd first (head?_ne_of_number (by decide) (exists_writeInt_eq_cons n))
  | float x => exact absurd first (head?_ne_of_number (by decide) (exists_writeFloat_eq_cons x))
  | str t => exact ⟨t, rfl⟩
  | arr items => cases items <;> exact absurd first (by simp [writeAt])
  | obj members =>
    cases members with
    | nil => exact absurd first (by simp [writeAt])
    | cons m members => exact absurd first (by simp [writeAt])

/-- No value is written with two braces first, as a placeholder is. -/
theorem writeAt_ne_braces (v : Json) (layout : Layout) (level : Nat) (s : List Char) :
    v.writeAt layout level ≠ '\x7b' :: '\x7b' :: s := by
  intro h
  have first : (v.writeAt layout level).head? = some '\x7b' := by rw [h]; rfl
  cases v with
  | null => exact absurd first (by simp [writeAt])
  | bool b => cases b <;> exact absurd first (by simp [writeAt])
  | int n => exact absurd first (head?_ne_of_number (by decide) (exists_writeInt_eq_cons n))
  | float x => exact absurd first (head?_ne_of_number (by decide) (exists_writeFloat_eq_cons x))
  | str t => exact absurd first (by simp [writeAt, writeString])
  | arr items => cases items <;> exact absurd first (by simp [writeAt])
  | obj members =>
    -- The first brace of an object is followed by another character.
    cases members with
    | nil => exact absurd h (by simp [writeAt])
    | cons m members =>
      cases layout <;> exact absurd h (by simp [writeAt, writeString, Layout.first, Layout.newLine])

end Colloquy.Json
