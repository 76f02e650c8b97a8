import Mathlib.Data.List.Forall2
import Colloquy.Proofs.Json.Numbers
import Colloquy.Proofs.Json.Strings

/-!
# Reading what was written

An exact value is one that its text keeps: it holds no floating-point number, its integers have at
most 64 bits, and no object repeats a key (`Exact`). The reader finds such a value again in its
text, whatever the layout (`parse?_write`), as long as it does not nest too deep.

The proof goes by the structure of the value. What the reader makes of a written value is a document
that means the value wherever there is room for its nesting (`Means`, `ReadsBack`). A written array
or object is read as a document that spells it out one by one (`SpellsItems`, `SpellsMembers`).
-/

namespace Colloquy.Json

/-! ## Values that a text keeps -/

/-- A value that its text keeps exactly. -/
inductive Exact : Json → Prop where
  | null : Exact null
  | bool (b : Bool) : Exact (bool b)
  | int {n : Int} (lower : -0x8000000000000000 ≤ n) (upper : n < 0x10000000000000000) :
    Exact (int n)
  | str (s : String) : Exact (str s)
  | arr {items : List Json} (exact : ∀ v ∈ items, Exact v) : Exact (arr items)
  | obj {members : List (String × Json)} (distinct : (members.map Prod.fst).Nodup)
      (exact : ∀ m ∈ members, Exact m.2) : Exact (obj members)

mutual

/-- The number of arrays and objects that nest in a value. -/
def depth : Json → Nat
  | arr items => depthOfItems items + 1
  | obj members => depthOfMembers members + 1
  | _ => 0

/-- The nesting of items. -/
def depthOfItems : List Json → Nat
  | [] => 0
  | v :: rest => max v.depth (depthOfItems rest)

/-- The nesting of the values of members. -/
def depthOfMembers : List (String × Json) → Nat
  | [] => 0
  | (_, v) :: rest => max v.depth (depthOfMembers rest)

end

/-! ## Documents that mean a value -/

/-- A document means a value wherever there is room for its nesting. -/
def Means (d : Document) (v : Json) : Prop :=
  ∀ room, v.depth ≤ room → d.valueWithin? room = some v

/-- A member of a document means a member of a value. -/
def MemberMeans (d : List Piece × Document) (m : String × Json) : Prop :=
  textOf? d.1 = some m.1 ∧ Means d.2 m.2

theorem valuesWithin?_of_means {ds : List Document} {vs : List Json} {room : Nat}
    (h : List.Forall₂ Means ds vs) (fits : depthOfItems vs ≤ room) (done : List Json) :
    Document.valuesWithin? room done ds = some (done.reverse ++ vs) := by
  induction h generalizing done with
  | nil => simp [Document.valuesWithin?]
  | @cons d v ds vs hd _ ih =>
    rw [depthOfItems] at fits
    rw [Document.valuesWithin?, hd room (by omega)]
    dsimp only
    rw [ih (by omega)]
    simp

theorem insertMember_of_not_mem {members : List (String × Json)} {key : String} (value : Json)
    (h : key ∉ members.map Prod.fst) :
    insertMember members key value = members ++ [(key, value)] := by
  have absent : members.lookup key = none := by
    rw [List.lookup_eq_none_iff]
    intro m hm
    rw [bne_iff_ne]
    rintro rfl
    exact h (List.mem_map_of_mem hm)
  rw [insertMember, absent]
  rfl

theorem membersWithin?_of_means {ds : List (List Piece × Document)} {ms : List (String × Json)}
    {room : Nat} (h : List.Forall₂ MemberMeans ds ms) (fits : depthOfMembers ms ≤ room)
    (done : List (String × Json)) (distinct : ((done ++ ms).map Prod.fst).Nodup) :
    Document.membersWithin? room done ds = some (done ++ ms) := by
  induction h generalizing done with
  | nil => simp [Document.membersWithin?]
  | @cons d m ds ms hd _ ih =>
    obtain ⟨key, value⟩ := m
    obtain ⟨text, means⟩ := hd
    rw [depthOfMembers] at fits
    have inner : value.depth ≤ room := by omega
    rw [Document.membersWithin?, text, means room inner]
    have fresh : key ∉ done.map Prod.fst := by
      intro hk
      rw [List.map_append, List.nodup_append] at distinct
      exact distinct.2.2 key hk key (by simp) rfl
    dsimp only
    rw [insertMember_of_not_mem value fresh,
      ih (by omega) (done ++ [(key, value)]) (by simpa using distinct)]
    simp

theorem means_arr {ds : List Document} {vs : List Json} (h : List.Forall₂ Means ds vs) :
    Means (.arr ds) (.arr vs) := by
  intro room fits
  rw [depth] at fits
  rw [Document.valueWithin?, if_neg (by omega), valuesWithin?_of_means h (by omega)]
  rfl

theorem means_obj {ds : List (List Piece × Document)} {ms : List (String × Json)}
    (h : List.Forall₂ MemberMeans ds ms) (distinct : (ms.map Prod.fst).Nodup) :
    Means (.obj ds) (.obj ms) := by
  intro room fits
  rw [depth] at fits
  rw [Document.valueWithin?, if_neg (by omega), membersWithin?_of_means h (by omega) [] distinct]
  rfl

/-! ## Blanks -/

theorem skipSpace_append {blanks s : List Char} (h : ∀ c ∈ blanks, isSpace c = true) :
    skipSpace (blanks ++ s) = skipSpace s :=
  List.dropWhile_append_of_pos h

theorem skipSpace_cons {c : Char} (s : List Char) (h : isSpace c = false) :
    skipSpace (c :: s) = c :: s :=
  List.dropWhile_cons_of_neg (by simp [h])

theorem isSpace_of_mem_newLine {width level : Nat} {c : Char}
    (h : c ∈ Layout.newLine width level) : isSpace c = true := by
  rcases List.mem_cons.1 h with rfl | h
  · rfl
  · rw [List.eq_of_mem_replicate h]
    rfl

theorem isSpace_of_mem_first {layout : Layout} {level : Nat} {c : Char}
    (h : c ∈ layout.first level) : isSpace c = true := by
  cases layout with
  | compact => cases h
  | spaced => cases h
  | indented width => exact isSpace_of_mem_newLine h

theorem exists_next_eq (layout : Layout) (level : Nat) :
    ∃ blanks, layout.next level = ',' :: blanks ∧ ∀ c ∈ blanks, isSpace c = true := by
  cases layout with
  | compact => exact ⟨[], rfl, by simp⟩
  | spaced => exact ⟨[' '], rfl, by simp [isSpace]⟩
  | indented width => exact ⟨Layout.newLine width level, rfl, fun c => isSpace_of_mem_newLine⟩

theorem exists_colon_eq (layout : Layout) :
    ∃ blanks, layout.colon = ':' :: blanks ∧ ∀ c ∈ blanks, isSpace c = true := by
  cases layout with
  | compact => exact ⟨[], rfl, by simp⟩
  | spaced => exact ⟨[' '], rfl, by simp [isSpace]⟩
  | indented width => exact ⟨[' '], rfl, by simp [isSpace]⟩

/-- Blanks and a closing mark cannot belong to a numeral. -/
theorem endsNumeral_first (layout : Layout) (level : Nat) {c : Char} (rest : List Char)
    (h : c.isDigit = false ∧ c ≠ '.' ∧ c ≠ 'e' ∧ c ≠ 'E') :
    EndsNumeral (layout.first level ++ c :: rest) := by
  cases layout with
  | compact => exact endsNumeral_cons rest h
  | spaced => exact endsNumeral_cons rest h
  | indented width => exact endsNumeral_cons _ (by decide)

/-- The text of an exact value starts with a character that is neither blank nor closes an
array. -/
theorem exists_writeAt_eq_cons {v : Json} (h : Exact v) (layout : Layout) (level : Nat) :
    ∃ c cs, v.writeAt layout level = c :: cs ∧ isSpace c = false ∧ c ≠ ']' := by
  cases h with
  | null => exact ⟨_, _, rfl, by decide, by decide⟩
  | bool b => cases b <;> exact ⟨_, _, rfl, by decide, by decide⟩
  | @int n lower upper =>
    rw [writeAt, writeInt]
    split
    · exact ⟨_, _, rfl, by decide, by decide⟩
    · obtain ⟨d, ds, hds, hd⟩ := exists_toDigits_eq_cons n.natAbs
      refine ⟨d, ds, hds, ?_, ?_⟩
      · rw [Bool.eq_false_iff]
        intro hs
        simp only [isSpace, Bool.or_eq_true, beq_iff_eq] at hs
        rcases hs with ((rfl | rfl) | rfl) | rfl <;> exact absurd hd (by decide)
      · rintro rfl
        exact absurd hd (by decide)
  | str s => exact ⟨_, _, rfl, by decide, by decide⟩
  | @arr items exact =>
    cases items <;> exact ⟨_, _, rfl, by decide, by decide⟩
  | @obj members distinct exact =>
    cases members <;> exact ⟨_, _, rfl, by decide, by decide⟩

theorem skipSpace_writeAt {v : Json} (h : Exact v) (layout : Layout) (level : Nat) (s : List Char) :
    skipSpace (v.writeAt layout level ++ s) = v.writeAt layout level ++ s := by
  obtain ⟨c, cs, hv, hc, -⟩ := exists_writeAt_eq_cons h layout level
  rw [hv, List.cons_append, skipSpace_cons _ hc]

/-! ## Reading a value -/

/-- A written value is read as a document that stands in a relation to it, whatever follows that is
not part of a numeral. Twice the length of the text is enough for the counter. -/
def ReadsAs (R : Document → Json → Prop) (layout : Layout) (v : Json) : Prop :=
  ∀ (level n : Nat) (s rest : List Char), skipSpace s = v.writeAt layout level ++ rest →
    2 * (v.writeAt layout level).length ≤ n → EndsNumeral rest →
    ∃ d, Document.readValue? n s = some (d, rest) ∧ R d v

/-- A written value is read as a document that means it. -/
abbrev ReadsBack (layout : Layout) (v : Json) : Prop :=
  ReadsAs Means layout v

/-- A document spells an array out, item by item. -/
def SpellsItems (R : Document → Json → Prop) (d : Document) (v : Json) : Prop :=
  ∃ ds vs, d = .arr ds ∧ v = .arr vs ∧ List.Forall₂ R ds vs

/-- A document spells an object out, member by member. -/
def SpellsMembers (d : Document) (v : Json) : Prop :=
  ∃ ds ms, d = .obj ds ∧ v = .obj ms ∧ List.Forall₂ MemberMeans ds ms

theorem readValue?_writeInt {i : Int} {n : Nat} {s rest : List Char}
    (h : skipSpace s = writeInt i ++ rest) (hr : EndsNumeral rest) :
    Document.readValue? (n + 1) s = some (.num (numeralOf i), rest) := by
  have head : ∀ c, (writeInt i ++ rest).head? = some c → c = '-' ∨ c.isDigit = true := by
    intro c hc
    unfold writeInt at hc
    split at hc
    · left
      simpa using hc.symm
    · right
      obtain ⟨d, ds, hds, hd⟩ := exists_toDigits_eq_cons i.natAbs
      rw [hds] at hc
      obtain rfl : d = c := by simpa using hc
      exact hd
  have ne : ∀ c t, c ≠ '-' → c.isDigit = false → writeInt i ++ rest ≠ c :: t := by
    intro c t hm hd heq
    rcases head c (by rw [heq]; rfl) with hc | hc
    · exact hm hc
    · rw [hd] at hc
      cases hc
  rw [Document.readValue?, h]
  split
  · rename_i heq; exact absurd heq (ne _ _ (by decide) (by decide))
  · rename_i heq; exact absurd heq (ne _ _ (by decide) (by decide))
  · rename_i heq; exact absurd heq (ne _ _ (by decide) (by decide))
  · rename_i heq; exact absurd heq (ne _ _ (by decide) (by decide))
  · rename_i heq; exact absurd heq (ne _ _ (by decide) (by decide))
  · rename_i heq; exact absurd heq (ne _ _ (by decide) (by decide))
  · rw [readNumeral?_writeInt i hr]
    rfl

/-- The items of an array are read one after the other. -/
theorem readItems?_write {R : Document → Json → Prop} {layout : Layout} {v : Json}
    {items : List Json} (exact : ∀ w ∈ v :: items, Exact w)
    (reads : ∀ w ∈ v :: items, ReadsAs R layout w)
    {level outer n : Nat} (done : List Document) {s tail : List Char}
    (h : skipSpace s = v.writeAt layout level ++
      (writeItems layout level items ++ (layout.first outer ++ ']' :: tail)))
    (hn : 2 * ((v.writeAt layout level).length + (writeItems layout level items).length) + 1 ≤ n) :
    ∃ ds, Document.readItems? n done s = some (.arr (done.reverse ++ ds), tail) ∧
      List.Forall₂ R ds (v :: items) := by
  induction items generalizing v n done s with
  | nil =>
    obtain ⟨n, rfl⟩ : ∃ k, n = k + 1 := ⟨n - 1, by omega⟩
    have ends : EndsNumeral (layout.first outer ++ ']' :: tail) :=
      endsNumeral_first layout outer tail (by decide)
    obtain ⟨d, hd, means⟩ := reads v (by simp) level n s _ h (by omega) ends
    refine ⟨[d], ?_, .cons means .nil⟩
    have close : skipSpace (writeItems layout level [] ++ (layout.first outer ++ ']' :: tail)) =
        ']' :: tail := by
      rw [writeItems, List.nil_append, skipSpace_append fun c => isSpace_of_mem_first,
        skipSpace_cons _ (by decide)]
    rw [Document.readItems?, hd]
    dsimp only
    rw [close]
    simp
  | cons w items ih =>
    obtain ⟨n, rfl⟩ : ∃ k, n = k + 1 := ⟨n - 1, by omega⟩
    obtain ⟨blanks, hnext, hb⟩ := exists_next_eq layout level
    have hlen : (writeItems layout level (w :: items)).length =
        1 + blanks.length + (w.writeAt layout level).length +
          (writeItems layout level items).length := by
      rw [writeItems, hnext]
      simp only [List.length_append, List.length_cons]
      omega
    rw [hlen] at hn
    rw [writeItems, hnext] at h
    simp only [List.cons_append, List.append_assoc] at h
    obtain ⟨d, hd, means⟩ := reads v (by simp) level n s _ h (by omega)
      (endsNumeral_cons _ (by decide))
    have next : skipSpace (blanks ++ (w.writeAt layout level ++ (writeItems layout level items ++
        (layout.first outer ++ ']' :: tail)))) = w.writeAt layout level ++
          (writeItems layout level items ++ (layout.first outer ++ ']' :: tail)) := by
      rw [skipSpace_append hb, skipSpace_writeAt (exact w (by simp))]
    obtain ⟨ds, hds, all⟩ := ih (fun u hu => exact u (List.mem_cons_of_mem _ hu))
      (fun u hu => reads u (List.mem_cons_of_mem _ hu)) (d :: done) next (n := n) (by omega)
    refine ⟨d :: ds, ?_, .cons means all⟩
    rw [Document.readItems?, hd]
    simp only [skipSpace_cons _ (show isSpace ',' = false from by decide)]
    rw [hds]
    simp

/-- How an object goes on behind its latest member. -/
def afterMember? (n : Nat) (done : List (List Piece × Document)) (rest : List Char) :
    Option (Document × List Char) :=
  match skipSpace rest with
  | ',' :: rest => Document.readMembers? n done rest
  | '\x7d' :: rest => some (.obj done.reverse, rest)
  | _ => none

/-- A member is read up to its end. -/
theorem readMembers?_member {layout : Layout} {k : String} {v : Json} (exact : Exact v)
    (reads : ReadsBack layout v) {level n : Nat} {s rest : List Char}
    (h : skipSpace s =
      writeString k.toList ++ (layout.colon ++ (v.writeAt layout level ++ rest)))
    (hn : 2 * (v.writeAt layout level).length ≤ n) (ends : EndsNumeral rest) :
    ∃ m, MemberMeans m (k, v) ∧ ∀ done, Document.readMembers? (n + 1) done s =
      afterMember? n (m :: done) rest := by
  obtain ⟨blanks, hcolon, hb⟩ := exists_colon_eq layout
  have value : skipSpace (blanks ++ (v.writeAt layout level ++ rest)) =
      v.writeAt layout level ++ rest := by
    rw [skipSpace_append hb, skipSpace_writeAt exact]
  obtain ⟨d, hd, means⟩ := reads level n _ _ value hn ends
  refine ⟨(pieces k.toList, d), ⟨?_, means⟩, fun done => ?_⟩
  · rw [textOf?_pieces, String.ofList_toList]
  · rw [hcolon, writeString] at h
    simp only [List.cons_append, List.append_assoc, List.nil_append] at h
    rw [Document.readMembers?, h]
    simp only [readString?_write, skipSpace_cons _ (show isSpace ':' = false from by decide)]
    rw [hd]
    rfl

/-- The members of an object are read one after the other. -/
theorem readMembers?_write {layout : Layout} {k : String} {v : Json}
    {members : List (String × Json)} (exact : ∀ m ∈ (k, v) :: members, Exact m.2)
    (reads : ∀ m ∈ (k, v) :: members, ReadsBack layout m.2) {level outer n : Nat}
    (done : List (List Piece × Document)) {s tail : List Char}
    (h : skipSpace s = writeString k.toList ++ (layout.colon ++ (v.writeAt layout level ++
      (writeMembers layout level members ++ (layout.first outer ++ '\x7d' :: tail)))))
    (hn : 2 * ((v.writeAt layout level).length + (writeMembers layout level members).length) + 1 ≤
      n) :
    ∃ ds, Document.readMembers? n done s = some (.obj (done.reverse ++ ds), tail) ∧
      List.Forall₂ MemberMeans ds ((k, v) :: members) := by
  induction members generalizing k v n done s with
  | nil =>
    obtain ⟨n, rfl⟩ : ∃ k, n = k + 1 := ⟨n - 1, by omega⟩
    have ends : EndsNumeral (layout.first outer ++ '\x7d' :: tail) :=
      endsNumeral_first layout outer tail (by decide)
    have close : skipSpace (layout.first outer ++ '\x7d' :: tail) = '\x7d' :: tail := by
      rw [skipSpace_append fun c => isSpace_of_mem_first, skipSpace_cons _ (by decide)]
    have first : Exact v ∧ ReadsBack layout v :=
      ⟨exact (k, v) (by simp), reads (k, v) (by simp)⟩
    obtain ⟨m, means, step⟩ := readMembers?_member (n := n) first.1 first.2 h (by omega) ends
    refine ⟨[m], ?_, .cons means .nil⟩
    rw [step, writeMembers, List.nil_append, afterMember?, close]
    simp
  | cons m' members ih =>
    obtain ⟨k', w⟩ := m'
    obtain ⟨blanks, hnext, hb⟩ := exists_next_eq layout level
    have hlen : (writeMembers layout level ((k', w) :: members)).length =
        1 + blanks.length + (writeString k'.toList).length + layout.colon.length +
          (w.writeAt layout level).length + (writeMembers layout level members).length := by
      rw [writeMembers, hnext]
      simp only [List.length_append, List.length_cons]
      omega
    rw [hlen] at hn
    rw [writeMembers, hnext] at h
    simp only [List.cons_append, List.append_assoc] at h
    obtain ⟨n, rfl⟩ : ∃ k, n = k + 1 := ⟨n - 1, by omega⟩
    have first : Exact v ∧ ReadsBack layout v :=
      ⟨exact (k, v) (by simp), reads (k, v) (by simp)⟩
    obtain ⟨m, means, step⟩ := readMembers?_member (n := n) first.1 first.2 h (by omega)
      (endsNumeral_cons _ (by decide))
    have next : skipSpace (blanks ++ (writeString k'.toList ++ (layout.colon ++
        (w.writeAt layout level ++ (writeMembers layout level members ++
          (layout.first outer ++ '\x7d' :: tail)))))) =
        writeString k'.toList ++ (layout.colon ++ (w.writeAt layout level ++
          (writeMembers layout level members ++ (layout.first outer ++ '\x7d' :: tail)))) := by
      rw [skipSpace_append hb, writeString]
      exact skipSpace_cons _ (by decide)
    obtain ⟨ds, hds, all⟩ := ih (fun u hu => exact u (List.mem_cons_of_mem _ hu))
      (fun u hu => reads u (List.mem_cons_of_mem _ hu)) (m :: done) next (n := n) (by omega)
    refine ⟨m :: ds, ?_, .cons means all⟩
    rw [step, afterMember?, skipSpace_cons _ (by decide)]
    simp only
    rw [hds]
    simp

theorem exists_eq_succ_of_writeAt {v : Json} (h : Exact v) {layout : Layout} {level n : Nat}
    (hn : 2 * (v.writeAt layout level).length ≤ n) : ∃ k, n = k + 1 := by
  obtain ⟨c, cs, hv, -⟩ := exists_writeAt_eq_cons h layout level
  rw [hv, List.length_cons] at hn
  exact ⟨n - 1, by omega⟩

theorem readsAs_arr {R : Document → Json → Prop} {layout : Layout} {items : List Json}
    (exact : ∀ v ∈ items, Exact v) (reads : ∀ v ∈ items, ReadsAs R layout v) :
    ReadsAs (SpellsItems R) layout (.arr items) := by
  intro level n s rest h hn hr
  obtain ⟨n, rfl⟩ := exists_eq_succ_of_writeAt (.arr exact) hn
  cases items with
  | nil =>
    refine ⟨.arr [], ?_, [], [], rfl, rfl, .nil⟩
    rw [writeAt] at h
    rw [Document.readValue?, h]
    simp [skipSpace_cons _ (show isSpace ']' = false from by decide)]
  | cons v items =>
    rw [writeAt] at h hn
    simp only [List.cons_append, List.append_assoc, List.nil_append] at h
    obtain ⟨c, cs, hv, hc, hne⟩ :=
      exists_writeAt_eq_cons (exact v (by simp)) layout (level + 1)
    obtain ⟨ds, hds, spelt⟩ := readItems?_write (n := n) exact reads []
      (skipSpace_writeAt (exact v (by simp)) layout (level + 1) _)
      (by simp only [List.length_append, List.length_cons] at hn; omega)
    refine ⟨.arr ds, ?_, ds, v :: items, rfl, rfl, spelt⟩
    rw [Document.readValue?, h]
    simp only
    rw [skipSpace_append fun c => isSpace_of_mem_first, skipSpace_writeAt (exact v (by simp))]
    split
    · rename_i heq
      rw [hv] at heq
      exact absurd (List.cons.inj heq).1 hne
    · exact hds

theorem readsAs_obj {layout : Layout} {members : List (String × Json)}
    (distinct : (members.map Prod.fst).Nodup) (exact : ∀ m ∈ members, Exact m.2)
    (reads : ∀ m ∈ members, ReadsBack layout m.2) :
    ReadsAs SpellsMembers layout (.obj members) := by
  intro level n s rest h hn hr
  obtain ⟨n, rfl⟩ := exists_eq_succ_of_writeAt (.obj distinct exact) hn
  cases members with
  | nil =>
    refine ⟨.obj [], ?_, [], [], rfl, rfl, .nil⟩
    rw [writeAt] at h
    rw [Document.readValue?, h]
    simp [skipSpace_cons _ (show isSpace '\x7d' = false from by decide)]
  | cons m members =>
    obtain ⟨k, v⟩ := m
    rw [writeAt] at h hn
    simp only [List.cons_append, List.append_assoc, List.nil_append] at h
    have key : ∀ s, skipSpace (writeString k.toList ++ s) = writeString k.toList ++ s :=
      fun s => skipSpace_cons _ (by decide)
    obtain ⟨ds, hds, spelt⟩ := readMembers?_write (n := n) exact reads []
      (key (layout.colon ++ (v.writeAt layout (level + 1) ++ _)))
      (by simp only [List.length_append, List.length_cons] at hn; omega)
    refine ⟨.obj ds, ?_, ds, (k, v) :: members, rfl, rfl, spelt⟩
    rw [Document.readValue?, h]
    simp only
    rw [skipSpace_append fun c => isSpace_of_mem_first, key]
    exact hds

/-- An exact value is read back from its text. -/
theorem readsBack {v : Json} (h : Exact v) (layout : Layout) : ReadsBack layout v := by
  induction h with
  | null =>
    intro level n s rest h hn hr
    obtain ⟨n, rfl⟩ := exists_eq_succ_of_writeAt .null hn
    refine ⟨.null, ?_, fun room _ => by rw [Document.valueWithin?]⟩
    rw [Document.readValue?, h, writeAt]
    rfl
  | bool b =>
    intro level n s rest h hn hr
    obtain ⟨n, rfl⟩ := exists_eq_succ_of_writeAt (.bool b) hn
    refine ⟨.bool b, ?_, fun room _ => by rw [Document.valueWithin?]⟩
    rw [Document.readValue?, h, writeAt]
    cases b <;> rfl
  | @int i lower upper =>
    intro level n s rest h hn hr
    obtain ⟨n, rfl⟩ := exists_eq_succ_of_writeAt (.int lower upper) hn
    rw [writeAt] at h
    refine ⟨.num (numeralOf i), readValue?_writeInt h hr, fun room _ => ?_⟩
    rw [Document.valueWithin?, value?_numeralOf lower upper]
  | str t =>
    intro level n s rest h hn hr
    obtain ⟨n, rfl⟩ := exists_eq_succ_of_writeAt (.str t) hn
    refine ⟨.str (pieces t.toList), ?_, fun room _ => ?_⟩
    · rw [writeAt, writeString] at h
      simp only [List.cons_append, List.append_assoc, List.nil_append] at h
      rw [Document.readValue?, h]
      simp only [readString?_write]
      rfl
    · rw [Document.valueWithin?, textOf?_pieces, String.ofList_toList]
      rfl
  | arr exact ih =>
    intro level n s rest h hn hr
    obtain ⟨_, hd, ds, vs, rfl, ⟨⟩, means⟩ := readsAs_arr exact ih level n s rest h hn hr
    exact ⟨_, hd, means_arr means⟩
  | obj distinct exact ih =>
    intro level n s rest h hn hr
    obtain ⟨_, hd, ds, ms, rfl, ⟨⟩, means⟩ := readsAs_obj distinct exact ih level n s rest h hn hr
    exact ⟨_, hd, means_obj means distinct⟩

/-- A whole text is read as the value that was written. -/
theorem Document.parse?_write {R : Document → Json → Prop} {v : Json} (h : Exact v)
    {layout : Layout} (reads : ReadsAs R layout v) :
    ∃ d, Document.parse? (v.write layout) = some d ∧ R d v := by
  have start : skipSpace (v.writeAt layout 0) = v.writeAt layout 0 ++ [] := by
    have := skipSpace_writeAt h layout 0 []
    rwa [List.append_nil] at this ⊢
  obtain ⟨d, hd, means⟩ := reads 0 (2 * (v.writeAt layout 0).length + 2) _ _ start
    (by omega) endsNumeral_nil
  refine ⟨d, ?_, means⟩
  rw [Document.parse?, write, String.toList_ofList, Document.read?, hd]
  rfl

/-- An exact value is found again in its text, whatever the layout. -/
theorem parse?_write {v : Json} (h : Exact v) (fits : v.depth ≤ maxNesting) (layout : Layout) :
    parse? (v.write layout) = some v := by
  obtain ⟨d, read, means⟩ := Document.parse?_write h (readsBack h layout)
  rw [parse?, read]
  exact means maxNesting fits

end Colloquy.Json
