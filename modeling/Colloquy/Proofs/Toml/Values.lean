import Colloquy.Proofs.Toml.Numbers
import Colloquy.Proofs.Toml.Strings
import Colloquy.Proofs.Toml.Trees

/-!
# Values behind keys

A key that needs no quotes is written as it is, and a dotted path of such keys is read back
(`readKey?_writePath`). A value that nests no deeper than the reader allows, with 64-bit integers
and such keys, each once in its table (`IsInline`), is read back behind a key (`readsBack`).
-/

namespace Colloquy.Toml

/-! ## Keys -/

/-- Whether a key needs no quotes. -/
def isBareKey (key : String) : Bool :=
  !key.isEmpty && key.toList.all isBare

section

variable {key : String} (h : isBareKey key = true)
include h

theorem isBare_of_isBareKey : ∀ c ∈ key.toList, isBare c = true := by
  simp only [isBareKey, Bool.and_eq_true, List.all_eq_true] at h
  exact h.2

theorem writeKey_of_isBareKey : writeKey key = key.toList :=
  if_pos h

theorem exists_toList_of_isBareKey : ∃ c cs, key.toList = c :: cs ∧ isBare c = true := by
  have bare := isBare_of_isBareKey h
  simp only [isBareKey, Bool.and_eq_true, Bool.not_eq_true', String.isEmpty_eq_false_iff] at h
  obtain ⟨c, cs, written⟩ := List.exists_cons_of_ne_nil (mt String.toList_eq_nil_iff.1 h.1)
  exact ⟨c, cs, written, bare c (written ▸ List.mem_cons_self ..)⟩

end

theorem isGap_of_isBare {c : Char} (h : isBare c = true) : isGap c = false := by
  rw [Bool.eq_false_iff]
  intro gap
  simp only [isGap, Bool.or_eq_true, beq_iff_eq] at gap
  rcases gap with rfl | rfl <;> cases h

theorem skipGap_cons {c : Char} (h : isGap c = false) (rest : List Char) :
    skipGap (c :: rest) = c :: rest :=
  List.dropWhile_cons_of_neg (by simp [h])

theorem readKeyPart?_append {key : String} (h : isBareKey key = true) {rest : List Char}
    (stop : ∀ c ∈ rest.head?, isBare c = false) :
    readKeyPart? (key.toList ++ rest) = some (key, rest) := by
  obtain ⟨c, cs, written, bare⟩ := exists_toList_of_isBareKey h
  have noQuote : ¬ (c = '"' ∨ c = '\x27') := by
    rintro (rfl | rfl) <;> cases bare
  have all := isBare_of_isBareKey h
  have taken : (key.toList ++ rest).takeWhile isBare = key.toList :=
    Text.takeWhile_append_of_head all stop
  have dropped : (key.toList ++ rest).dropWhile isBare = rest :=
    Text.dropWhile_append_of_head all stop
  rw [written, List.cons_append] at taken dropped ⊢
  rw [readKeyPart?, if_neg noQuote, if_pos bare, taken, dropped, ← written, String.ofList_toList]

theorem skipGap_writeKey {key : String} (h : isBareKey key = true) (rest : List Char) :
    skipGap (writeKey key ++ rest) = writeKey key ++ rest := by
  obtain ⟨c, cs, written, bare⟩ := exists_toList_of_isBareKey h
  rw [writeKey_of_isBareKey h, written, List.cons_append, skipGap_cons (isGap_of_isBare bare)]

theorem writePath_cons_cons (k l : String) (path : List String) :
    writePath (k :: l :: path) = writeKey k ++ '.' :: writePath (l :: path) := by
  simp [writePath, List.intercalate]

theorem writePath_singleton (k : String) : writePath [k] = writeKey k := by
  simp [writePath, List.intercalate]

theorem length_le_length_writePath {path : List String}
    (bare : ∀ k ∈ path, isBareKey k = true) : path.length ≤ (writePath path).length := by
  have one {k : String} (h : isBareKey k = true) : 1 ≤ (writeKey k).length := by
    obtain ⟨c, cs, written, -⟩ := exists_toList_of_isBareKey h
    rw [writeKey_of_isBareKey h, written, List.length_cons]
    omega
  match path with
  | [] => exact Nat.zero_le _
  | [k] =>
    rw [writePath_singleton]
    exact one (bare k (List.mem_cons_self ..))
  | k :: l :: path =>
    have rest : (l :: path).length ≤ (writePath (l :: path)).length :=
      length_le_length_writePath fun m hm => bare m (List.mem_cons_of_mem _ hm)
    have first := one (bare k (List.mem_cons_self ..))
    rw [writePath_cons_cons]
    simp only [List.length_append, List.length_cons] at rest ⊢
    omega

theorem exists_writePath_eq_cons {path : List String} (ne : path ≠ [])
    (bare : ∀ k ∈ path, isBareKey k = true) :
    ∃ c cs, writePath path = c :: cs ∧ isBare c = true := by
  obtain ⟨k, path, rfl⟩ := List.exists_cons_of_ne_nil ne
  have first := bare k (List.mem_cons_self ..)
  obtain ⟨c, cs, written, isBare⟩ := exists_toList_of_isBareKey first
  cases path with
  | nil => exact ⟨c, cs, by rw [writePath_singleton, writeKey_of_isBareKey first, written], isBare⟩
  | cons l path =>
    refine ⟨c, cs ++ '.' :: writePath (l :: path), ?_, isBare⟩
    rw [writePath_cons_cons, writeKey_of_isBareKey first, written, List.cons_append]

theorem skipGap_writePath {path : List String} (ne : path ≠ [])
    (bare : ∀ k ∈ path, isBareKey k = true) (rest : List Char) :
    skipGap (writePath path ++ rest) = writePath path ++ rest := by
  obtain ⟨c, cs, written, isBare⟩ := exists_writePath_eq_cons ne bare
  rw [written, List.cons_append, skipGap_cons (isGap_of_isBare isBare)]

section

variable {rest : List Char} (stop : ∀ c ∈ rest.head?, isBare c = false)
  (noDot : (skipGap rest).head? ≠ some '.')
include stop noDot

/-- The parts of a dotted key are read one after the other. -/
theorem readParts?_writePath {k : String} {path : List String}
    (bare : ∀ l ∈ k :: path, isBareKey l = true) (done : List String) {n : Nat}
    (fuel : path.length < n) {s : List Char} (h : skipGap s = writePath (k :: path) ++ rest) :
    readParts? n done s = some (done.reverse ++ k :: path, skipGap rest) := by
  induction path generalizing k done n s with
  | nil =>
    obtain ⟨n, rfl⟩ : ∃ m, n = m + 1 := ⟨n - 1, by omega⟩
    have first := bare k (List.mem_cons_self ..)
    rw [writePath_singleton, writeKey_of_isBareKey first] at h
    rw [readParts?, h, readKeyPart?_append first stop]
    dsimp only
    split
    · rename_i t dot
      exact absurd (by rw [dot]; rfl) noDot
    · rw [List.reverse_cons]
  | cons l path ih =>
    obtain ⟨n, rfl⟩ : ∃ m, n = m + 1 := ⟨n - 1, by omega⟩
    have first := bare k (List.mem_cons_self ..)
    have next := skipGap_writePath (List.cons_ne_nil l path)
      (fun m hm => bare m (List.mem_cons_of_mem _ hm)) rest
    have dot : skipGap ('.' :: (writePath (l :: path) ++ rest)) =
        '.' :: (writePath (l :: path) ++ rest) := skipGap_cons rfl _
    rw [writePath_cons_cons, writeKey_of_isBareKey first, List.append_assoc, List.cons_append] at h
    rw [readParts?, h, readKeyPart?_append first (by rintro c ⟨⟩; rfl)]
    dsimp only
    rw [dot]
    have shorter : path.length < n := by
      rw [List.length_cons] at fuel
      omega
    refine (ih (fun m hm => bare m (List.mem_cons_of_mem _ hm)) (k :: done) shorter next).trans ?_
    rw [List.reverse_cons, List.append_assoc]
    rfl

/-- A dotted key of keys without quotes is read back, behind blanks. -/
theorem readKey?_writePath (parts : List String) {key : String}
    (bare : ∀ k ∈ parts ++ [key], isBareKey k = true) (few : parts.length < maxParts)
    {s : List Char} (h : skipGap s = writePath (parts ++ [key]) ++ rest) :
    readKey? s = some ((parts, key), skipGap rest) := by
  obtain ⟨k, path, path_eq⟩ := List.exists_cons_of_ne_nil (List.concat_ne_nil key parts)
  have fuel : path.length < s.length + 1 := by
    have long := length_le_length_writePath bare
    have skipped : (skipGap s).length ≤ s.length := (List.dropWhile_sublist _).length_le
    rw [h, List.length_append] at skipped
    rw [path_eq, List.length_cons] at long
    rw [path_eq] at skipped
    omega
  rw [path_eq] at bare h
  rw [readKey?, readParts?_writePath stop noDot bare [] fuel h, List.reverse_nil, List.nil_append,
    ← path_eq]
  simp [Nat.succ_le_of_lt few]

end

/-! ## Values -/

/-- A value that is read back behind a key where arrays and tables have `room` to nest. -/
inductive IsInline : Nat → Toml → Prop
  | str {room : Nat} (s : String) : IsInline room (.str s)
  | int {room : Nat} {n : Int} (inside : isInt64 n = true) : IsInline room (.int n)
  | bool {room : Nat} (b : Bool) : IsInline room (.bool b)
  | arr {room : Nat} {items : List Toml} (inner : ∀ v ∈ items, IsInline room v) :
      IsInline (room + 1) (.arr items)
  | table {room : Nat} {entries : List (String × Toml)}
      (bare : ∀ e ∈ entries, isBareKey e.1 = true) (distinct : (entries.map Prod.fst).Nodup)
      (inner : ∀ e ∈ entries, IsInline room e.2) : IsInline (room + 1) (.table entries)

/-- A character that a value may start with. -/
def Starts (c : Char) : Prop :=
  isGap c = false ∧ c ≠ '\n' ∧ c ≠ '\r' ∧ c ≠ '#' ∧ c ≠ ']'

instance (c : Char) : Decidable (Starts c) := by
  unfold Starts
  infer_instance

theorem exists_writeText_eq_cons (s : List Char) :
    ∃ c cs, writeText s = c :: cs ∧ (c = '"' ∨ c = '\x27') := by
  unfold writeText
  cases styleOf s with
  | basic => exact ⟨_, _, rfl, .inl rfl⟩
  | literal => exact ⟨_, _, rfl, .inr rfl⟩
  | longBasic => exact ⟨_, _, rfl, .inl rfl⟩
  | longLiteral => exact ⟨_, _, rfl, .inr rfl⟩

theorem exists_writeInt_eq_cons (n : Int) :
    ∃ c cs, writeInt n = c :: cs ∧ (c = '-' ∨ c.isDigit = true) := by
  unfold writeInt
  by_cases negative : n < 0
  · rw [if_pos negative]
    exact ⟨_, _, rfl, .inl rfl⟩
  · rw [if_neg negative]
    obtain ⟨d, ds, written, digit⟩ := Json.exists_toDigits_eq_cons n.natAbs
    exact ⟨d, ds, written, .inr digit⟩

theorem exists_writeValue_eq_cons {room : Nat} {v : Toml} (h : IsInline room v) :
    ∃ c cs, writeValue v = c :: cs ∧ Starts c := by
  cases h with
  | str s =>
    obtain ⟨c, cs, written, rfl | rfl⟩ := exists_writeText_eq_cons s.toList
    · exact ⟨_, cs, by rw [writeValue, written], by decide⟩
    · exact ⟨_, cs, by rw [writeValue, written], by decide⟩
  | @int _ n inside =>
    obtain ⟨c, cs, written, first⟩ := exists_writeInt_eq_cons n
    refine ⟨c, cs, by rw [writeValue, written], ?_⟩
    have other {d : Char} (h : (d == '-' || d.isDigit) = false) : c ≠ d := by
      rintro rfl
      rcases first with rfl | digit
      · cases h
      · simp [digit] at h
    refine ⟨?_, other rfl, other rfl, other rfl, other rfl⟩
    simp [isGap, other (d := ' ') rfl, other (d := '\t') rfl]
  | bool b =>
    cases b
    · exact ⟨'f', _, rfl, by decide⟩
    · exact ⟨'t', _, rfl, by decide⟩
  | @arr _ items inner =>
    match items with
    | [] | [_] | _ :: _ :: _ => exact ⟨_, _, rfl, by decide⟩
  | @table _ entries bare distinct inner =>
    match entries with
    | [] | _ :: _ => exact ⟨_, _, rfl, by decide⟩

theorem skipLines?_cons {c : Char} (h : Starts c) (rest : List Char) :
    skipLines? false (c :: rest) = some (c :: rest) := by
  obtain ⟨gap, newLine, carriage, comment, -⟩ := h
  rw [skipLines?]
  · simp [gap, comment]
  · exact newLine
  · rintro t h
    exact absurd h carriage

/-- A written value is read back where arrays and tables have `room` to nest, whatever follows that
may follow a value. Twice the length of the text is enough for the counter. -/
def ReadsBack (room : Nat) (v : Toml) : Prop :=
  ∀ (n : Nat) (rest : List Char), 2 * (writeValue v).length ≤ n → EndsValue rest →
    readValue? n room (writeValue v ++ rest) = some (v, rest)

theorem readsBack_str (room : Nat) (s : String) : ReadsBack room (.str s) := by
  intro n rest fuel ends
  obtain ⟨c, cs, written, mark⟩ := exists_writeText_eq_cons s.toList
  have read := readText?_writeText s.toList (ends.head?_ne (c := '"') (by decide))
    (ends.head?_ne (c := '\x27') (by decide))
  rw [writeValue] at fuel ⊢
  rw [written] at fuel read ⊢
  rw [List.length_cons] at fuel
  obtain ⟨n, rfl⟩ : ∃ m, n = m + 1 := ⟨n - 1, by omega⟩
  rw [List.cons_append] at read ⊢
  rcases mark with rfl | rfl
  · simp [readValue?, read, String.ofList_toList]
  · simp [readValue?, read, String.ofList_toList]

theorem readsBack_int (room : Nat) {i : Int} (inside : isInt64 i = true) :
    ReadsBack room (.int i) := by
  intro n rest fuel ends
  obtain ⟨c, cs, written, first⟩ := exists_writeInt_eq_cons i
  have read := readNumeric?_writeInt inside ends
  have other {d : Char} {t : List Char} (h : (d == '-' || d.isDigit) = false) :
      writeInt i ++ rest ≠ d :: t := by
    rw [written]
    rintro ⟨⟩
    rcases first with rfl | digit
    · cases h
    · simp [digit] at h
  rw [writeValue] at fuel ⊢
  obtain ⟨n, rfl⟩ : ∃ m, n = m + 1 := ⟨n - 1, by rw [written, List.length_cons] at fuel; omega⟩
  unfold readValue?
  split
  · exact absurd ‹_› (other rfl)
  · exact absurd ‹_› (other rfl)
  · exact absurd ‹_› (other rfl)
  · exact absurd ‹_› (other rfl)
  · rename_i d t _ _ _ _ same
    rw [← same, read]
    refine if_neg ?_
    rintro (rfl | rfl)
    · exact other rfl same
    · exact other rfl same
  · rw [written] at *
    rename_i h
    cases h

theorem readsBack_bool (room : Nat) (b : Bool) : ReadsBack room (.bool b) := by
  intro n rest fuel ends
  obtain ⟨n, rfl⟩ : ∃ m, n = m + 1 := ⟨n - 1, by cases b <;> simp [writeValue] at fuel <;> omega⟩
  cases b <;> rfl

/-! ### Arrays -/

@[simp]
theorem writeItems_nil : writeItems [] = [] := rfl

@[simp]
theorem writeItems_cons (v : Toml) (items : List Toml) :
    writeItems (v :: items) =
      "    ".toList ++ writeValue v ++ ',' :: '\n' :: writeItems items := rfl

theorem skipLines?_writeItems {room : Nat} {v : Toml} (h : IsInline room v) (items : List Toml)
    (s : List Char) :
    skipLines? false ('\n' :: (writeItems (v :: items) ++ s)) =
      some (writeValue v ++ ',' :: '\n' :: (writeItems items ++ s)) := by
  obtain ⟨c, cs, written, starts⟩ := exists_writeValue_eq_cons h
  have gaps (t : List Char) :
      skipLines? false ('\n' :: ("    ".toList ++ t)) = skipLines? false t := rfl
  rw [writeItems_cons, written]
  simp only [List.append_assoc, List.cons_append]
  rw [gaps, skipLines?_cons starts]

/-- The items of an array are read one after the other, each on a line of its own. -/
theorem readItems?_writeItems {room : Nat} {v : Toml} {items : List Toml}
    (shaped : ∀ w ∈ v :: items, IsInline room w) (reads : ∀ w ∈ v :: items, ReadsBack room w)
    (done : List Toml) {n : Nat} (fuel : 2 * (writeItems (v :: items)).length ≤ n)
    (rest : List Char) :
    readItems? n room done (writeValue v ++ ',' :: '\n' :: (writeItems items ++ ']' :: rest)) =
      some (.arr (done.reverse ++ v :: items), rest) := by
  induction items generalizing v done n with
  | nil =>
    simp only [writeItems_cons, List.length_append, List.length_cons] at fuel
    obtain ⟨n, rfl⟩ : ∃ m, n = m + 1 := ⟨n - 1, by omega⟩
    rw [readItems?, reads v (by simp) n _ (by omega) (endsValue_cons (by decide) _)]
    simp [skipLines?, isGap]
  | cons w items ih =>
    rw [writeItems_cons] at fuel
    simp only [List.length_append, List.length_cons] at fuel
    obtain ⟨n, rfl⟩ : ∃ m, n = m + 1 := ⟨n - 1, by omega⟩
    have second := shaped w (by simp)
    obtain ⟨c, cs, written, starts⟩ := exists_writeValue_eq_cons second
    have next := ih (fun u hu => shaped u (List.mem_cons_of_mem _ hu))
      (fun u hu => reads u (List.mem_cons_of_mem _ hu)) (v :: done) (n := n) (by omega)
    rw [readItems?, reads v (by simp) n _ (by omega) (endsValue_cons (by decide) _)]
    simp only [skipLines?_cons (show Starts ',' by decide), skipLines?_writeItems second]
    split
    · rename_i closing
      rw [written] at closing
      cases closing
      exact absurd rfl starts.2.2.2.2
    · rename_i heq
      cases heq
      rw [next, List.reverse_cons, List.append_assoc]
      rfl
    · rename_i heq
      cases heq

theorem readValue?_bracket (n room : Nat) {s t : List Char} (h : skipLines? false s = some t)
    (more : t.head? ≠ some ']') :
    readValue? (n + 1) (room + 1) ('[' :: s) = readItems? n room [] t := by
  rw [readValue?, if_neg (Nat.succ_ne_zero room), h]
  split
  · rename_i closing
    rw [Option.some.inj closing] at more
    exact absurd rfl more
  · rename_i same
    rw [← Option.some.inj same, Nat.add_sub_cancel]
  · rename_i nothing
    cases nothing

theorem readsBack_arr {room : Nat} {items : List Toml} (shaped : ∀ v ∈ items, IsInline room v)
    (reads : ∀ v ∈ items, ReadsBack room v) : ReadsBack (room + 1) (.arr items) := by
  intro n rest fuel ends
  have more {v : Toml} (mem : v ∈ items) (t : List Char) :
      (writeValue v ++ t).head? ≠ some ']' := by
    obtain ⟨c, cs, written, starts⟩ := exists_writeValue_eq_cons (shaped v mem)
    rw [written]
    exact fun same => starts.2.2.2.2 (Option.some.inj same)
  match items with
  | [] =>
    obtain ⟨n, rfl⟩ : ∃ m, n = m + 1 := ⟨n - 1, by simp [writeValue] at fuel; omega⟩
    rfl
  | [v] =>
    simp only [writeValue, List.length_append, List.length_cons] at fuel
    obtain ⟨n, rfl⟩ : ∃ m, n = m + 2 := ⟨n - 2, by omega⟩
    obtain ⟨c, cs, written, starts⟩ := exists_writeValue_eq_cons (shaped v (by simp))
    have opened : skipLines? false (writeValue v ++ ']' :: rest) =
        some (writeValue v ++ ']' :: rest) := by
      rw [written, List.cons_append, skipLines?_cons starts]
    simp only [writeValue, List.cons_append, List.append_assoc, List.nil_append]
    rw [readValue?_bracket _ _ opened (more (by simp) _), readItems?,
      reads v (by simp) n _ (by omega) (endsValue_cons (by decide) _)]
    rfl
  | v :: w :: items =>
    have text : writeValue (.arr (v :: w :: items)) ++ rest =
        '[' :: '\n' :: (writeItems (v :: w :: items) ++ ']' :: rest) := by
      simp [writeValue]
    have length : (writeValue (.arr (v :: w :: items))).length =
        3 + (writeItems (v :: w :: items)).length := by
      simp [writeValue]
      omega
    obtain ⟨n, rfl⟩ : ∃ m, n = m + 1 := ⟨n - 1, by omega⟩
    rw [text, readValue?_bracket _ _ (skipLines?_writeItems (shaped v (by simp)) _ _)
      (more (by simp) _)]
    exact readItems?_writeItems shaped reads [] (by omega) rest

/-! ### Tables within a line -/

/-- Entries of values alone. -/
def leaves (entries : List (String × Toml)) : Tree.Entries :=
  entries.map fun e => (e.1, .leaf e.2)

theorem entryValues_leaves (entries : List (String × Toml)) :
    Tree.entryValues (leaves entries) = entries := by
  induction entries with
  | nil => rfl
  | cons e entries ih =>
    rw [leaves, List.map_cons, Tree.entryValues, Tree.value, ← leaves, ih]

theorem keys_leaves (entries : List (String × Toml)) :
    (leaves entries).map Prod.fst = entries.map Prod.fst := by
  simp [leaves]

/-- A key with its value is read back, behind blanks. -/
theorem readKey?_entry {key : String} (bare : isBareKey key = true) {s t : List Char}
    (h : skipGap s = writeKey key ++ " = ".toList ++ t) :
    readKey? s = some (([], key), '=' :: ' ' :: t) := by
  have gaps : skipGap (" = ".toList ++ t) = '=' :: ' ' :: t := rfl
  rw [← writePath_singleton, List.append_assoc] at h
  rw [readKey?_writePath (by rintro c ⟨⟩; rfl) (by rw [gaps]; simp) []
    (by simpa using bare) (by decide) h, gaps]

theorem skipGap_writeValue {room : Nat} {v : Toml} (h : IsInline room v) (s : List Char) :
    skipGap (' ' :: (writeValue v ++ s)) = writeValue v ++ s := by
  obtain ⟨c, cs, written, starts⟩ := exists_writeValue_eq_cons h
  rw [written]
  exact skipGap_cons starts.1 _

theorem writeEntries_cons (e : String × Toml) (entries : List (String × Toml)) :
    writeEntries (e :: entries) = ", ".toList ++ writeKey e.1 ++ " = ".toList ++ writeValue e.2 ++
      writeEntries entries := rfl

/-- How an inline table goes on behind its latest entry. -/
def afterEntry? (n room : Nat) (done : List (String × Toml)) (s : List Char) :
    Option (Toml × List Char) :=
  match skipGap s with
  | ',' :: rest => readEntries? n room (leaves done) rest
  | '\x7d' :: rest => some (.table done, rest)
  | _ => none

/-- An entry is read up to its end. -/
theorem readEntries?_entry {room : Nat} {e : String × Toml} (bare : isBareKey e.1 = true)
    (shaped : IsInline room e.2) (reads : ReadsBack room e.2) {done : List (String × Toml)}
    (new : e.1 ∉ done.map Prod.fst) {n : Nat} (fuel : 2 * (writeValue e.2).length ≤ n)
    {s rest : List Char} (h : skipGap s = writeKey e.1 ++ " = ".toList ++ (writeValue e.2 ++ rest))
    (ends : EndsValue rest) :
    readEntries? (n + 1) room (leaves done) s = afterEntry? n room (done ++ [e]) rest := by
  have put : Tree.insert? e.1 e.2 [] (leaves done) = some (leaves (done ++ [e])) := by
    rw [Tree.insert?_new (by rwa [keys_leaves])]
    simp [leaves]
  rw [readEntries?, readKey?_entry bare h]
  simp only [skipGap_writeValue shaped, reads n rest fuel ends, put, entryValues_leaves]
  rfl

/-- The entries of an inline table are read one after the other. -/
theorem readEntries?_writeEntries {room : Nat} {e : String × Toml} {entries : List (String × Toml)}
    (bare : ∀ d ∈ e :: entries, isBareKey d.1 = true)
    (shaped : ∀ d ∈ e :: entries, IsInline room d.2)
    (reads : ∀ d ∈ e :: entries, ReadsBack room d.2)
    (done : List (String × Toml)) (distinct : ((done ++ e :: entries).map Prod.fst).Nodup)
    {n : Nat} (fuel : 2 * ((writeValue e.2).length + (writeEntries entries).length) + 1 ≤ n)
    (rest : List Char) {s : List Char}
    (h : skipGap s = writeKey e.1 ++ " = ".toList ++
      (writeValue e.2 ++ (writeEntries entries ++ ' ' :: '\x7d' :: rest))) :
    readEntries? n room (leaves done) s = some (.table (done ++ e :: entries), rest) := by
  induction entries generalizing e done n s with
  | nil =>
    obtain ⟨n, rfl⟩ : ∃ m, n = m + 1 := ⟨n - 1, by omega⟩
    rw [readEntries?_entry (bare e (by simp)) (shaped e (by simp)) (reads e (by simp))
      (Tree.new_of_distinct distinct) (by omega) h (endsValue_cons (by decide) _)]
    rfl
  | cons d entries ih =>
    obtain ⟨n, rfl⟩ : ∃ m, n = m + 1 := ⟨n - 1, by omega⟩
    have second := bare d (by simp)
    have comma : ", ".toList.length = 2 := rfl
    rw [writeEntries_cons] at fuel h
    simp only [List.length_append] at fuel
    have text : ", ".toList ++ writeKey d.1 ++ " = ".toList ++ writeValue d.2 ++
        writeEntries entries ++ ' ' :: '\x7d' :: rest = ',' :: ' ' :: (writeKey d.1 ++
          " = ".toList ++ (writeValue d.2 ++ (writeEntries entries ++ ' ' :: '\x7d' :: rest))) := by
      simp
    rw [text] at h
    rw [readEntries?_entry (bare e (by simp)) (shaped e (by simp)) (reads e (by simp))
      (Tree.new_of_distinct distinct) (by omega) h (endsValue_cons (by decide) _), afterEntry?,
      skipGap_cons rfl]
    have gap : skipGap (' ' :: (writeKey d.1 ++ " = ".toList ++ (writeValue d.2 ++
        (writeEntries entries ++ ' ' :: '\x7d' :: rest)))) = writeKey d.1 ++ " = ".toList ++
          (writeValue d.2 ++ (writeEntries entries ++ ' ' :: '\x7d' :: rest)) := by
      rw [List.append_assoc]
      exact skipGap_writeKey second _
    rw [List.append_cons] at distinct
    refine (ih (fun c hc => bare c (List.mem_cons_of_mem _ hc))
      (fun c hc => shaped c (List.mem_cons_of_mem _ hc))
      (fun c hc => reads c (List.mem_cons_of_mem _ hc)) _ distinct (by omega) gap).trans ?_
    rw [← List.append_cons]

theorem readsBack_table {room : Nat} {entries : List (String × Toml)}
    (bare : ∀ e ∈ entries, isBareKey e.1 = true) (distinct : (entries.map Prod.fst).Nodup)
    (shaped : ∀ e ∈ entries, IsInline room e.2) (reads : ∀ e ∈ entries, ReadsBack room e.2) :
    ReadsBack (room + 1) (.table entries) := by
  intro n rest fuel ends
  match entries with
  | [] =>
    obtain ⟨n, rfl⟩ : ∃ m, n = m + 1 := ⟨n - 1, by simp [writeValue] at fuel; omega⟩
    rfl
  | e :: entries =>
    have first := bare e (by simp)
    have text : writeValue (.table (e :: entries)) ++ rest = '\x7b' :: ' ' :: (writeKey e.1 ++
        (" = ".toList ++ (writeValue e.2 ++ (writeEntries entries ++ ' ' :: '\x7d' :: rest)))) := by
      simp [writeValue]
    rw [writeValue] at fuel
    simp only [List.length_append, List.length_cons] at fuel
    obtain ⟨n, rfl⟩ : ∃ m, n = m + 1 := ⟨n - 1, by omega⟩
    have opened (t : List Char) : skipGap (' ' :: (writeKey e.1 ++ t)) = writeKey e.1 ++ t :=
      skipGap_writeKey first t
    have more (t u : List Char) : writeKey e.1 ++ t ≠ '\x7d' :: u := by
      obtain ⟨c, cs, written, isBare⟩ := exists_toList_of_isBareKey first
      rw [writeKey_of_isBareKey first, written]
      rintro ⟨⟩
      cases isBare
    rw [text, readValue?, if_neg (Nat.succ_ne_zero room), opened]
    split
    · exact absurd ‹_› (more _ _)
    · rw [Nat.add_sub_cancel]
      refine readEntries?_writeEntries bare shaped reads [] distinct (by omega) rest ?_
      rw [List.append_assoc]
      exact skipGap_writeKey first _

/-- A value is read back where arrays and tables have room for it. -/
theorem readsBack {room : Nat} {v : Toml} (h : IsInline room v) : ReadsBack room v := by
  induction h with
  | str s => exact readsBack_str _ s
  | int inside => exact readsBack_int _ inside
  | bool b => exact readsBack_bool _ b
  | arr inner ih => exact readsBack_arr inner ih
  | table bare distinct inner ih => exact readsBack_table bare distinct inner ih

end Colloquy.Toml
