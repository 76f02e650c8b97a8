import Colloquy.Proofs.Toml.Values

/-!
# Documents read back

A document is written line by line, and what some of its lines do to the tree does not depend on
the lines that follow (`Makes`). So the lines of an entry, of a table and of an array of tables are
followed one after the other, each in the place where its table stands. If the entries on lines of
their own come first in every table (`Written`), a document is read back as the entries it was
written from (`parse?_write_append`), and no entry is lost as data (`Written.ofJson?_toJson`).
-/

namespace Colloquy.Toml

open Colloquy.Toml.Tree (Entries Place entryValues)

/-! ## Lines -/

/-- A text is read as statements. -/
def ReadsAs (s : List Char) (statements : List Statement) : Prop :=
  ∀ (n : Nat) (done : List Statement), s.length < n →
    Statement.readAll? n done s = some (done.reverse ++ statements)

/-- Lines are read as statements, whatever follows. -/
def Lines (s : List Char) (statements : List Statement) : Prop :=
  ∀ (rest : List Char) (more : List Statement), ReadsAs rest more →
    ReadsAs (s ++ rest) (statements ++ more)

theorem readsAs_nil : ReadsAs [] [] := by
  intro n done fuel
  obtain ⟨n, rfl⟩ : ∃ m, n = m + 1 := ⟨n - 1, by omega⟩
  simp [Statement.readAll?, skipGap]

theorem lines_nil : Lines [] [] := fun _ _ h => h

theorem Lines.append {s t : List Char} {a b : List Statement} (hs : Lines s a) (ht : Lines t b) :
    Lines (s ++ t) (a ++ b) := by
  intro rest more h
  rw [List.append_assoc, List.append_assoc]
  exact hs _ _ (ht _ _ h)

theorem lines_break : Lines ['\n'] [] := by
  intro rest more h n done fuel
  obtain ⟨n, rfl⟩ : ∃ m, n = m + 1 := ⟨n - 1, by omega⟩
  have next := h n done (by simpa using fuel)
  simpa [Statement.readAll?, skipGap, isGap, afterBreak?] using next

theorem readsAs_break : ReadsAs ['\n'] [] :=
  lines_break [] [] readsAs_nil

/-- A line with one statement. -/
theorem lines_statement {c : Char} {cs : List Char} (starts : Starts c) {statement : Statement}
    (h : ∀ rest, Statement.read? (c :: cs ++ '\n' :: rest) = some (statement, '\n' :: rest)) :
    Lines (c :: cs ++ ['\n']) [statement] := by
  intro rest more reads n done fuel
  obtain ⟨n, rfl⟩ : ∃ m, n = m + 1 := ⟨n - 1, by omega⟩
  have next := reads n (statement :: done) (by simp at fuel; omega)
  obtain ⟨gap, newLine, carriage, comment, -⟩ := starts
  have stays : skipGap (c :: (cs ++ '\n' :: rest)) = c :: (cs ++ '\n' :: rest) :=
    skipGap_cons gap _
  have noBreak : afterBreak? (c :: (cs ++ '\n' :: rest)) = none := by
    rw [afterBreak?]
    · exact fun _ h => newLine (List.cons.inj h).1
    · exact fun _ h => carriage (List.cons.inj h).1
  have line : afterLine? ('\n' :: rest) = some rest := by
    simp [afterLine?, skipGap, isGap, afterBreak?]
  have read := h rest
  rw [List.cons_append] at read
  simp only [List.append_assoc, List.cons_append, List.nil_append]
  rw [Statement.readAll?, stays]
  split
  · rename_i empty
    cases empty
  · rename_i sharp
    exact absurd (List.cons.inj sharp).1 comment
  · rw [noBreak, read]
    simp only [line, next, List.reverse_cons, List.append_assoc]
    rfl

theorem starts_of_isBare {c : Char} (h : isBare c = true) : Starts c := by
  refine ⟨isGap_of_isBare h, ?_, ?_, ?_, ?_⟩ <;> rintro rfl <;> cases h

/-- A line that sets a key. -/
theorem lines_set {key : String} (bare : isBareKey key = true) {v : Toml}
    (shaped : IsInline maxNesting v) :
    Lines (writeKey key ++ " = ".toList ++ writeValue v ++ ['\n']) [.set [] key v] := by
  obtain ⟨c, cs, written, isBare⟩ := exists_toList_of_isBareKey bare
  have text : writeKey key ++ " = ".toList ++ writeValue v =
      c :: (cs ++ " = ".toList ++ writeValue v) := by
    rw [writeKey_of_isBareKey bare, written]
    rfl
  rw [text]
  refine lines_statement (starts_of_isBare isBare) fun rest => ?_
  rw [← text, List.append_assoc (writeKey key ++ " = ".toList)]
  have read := readKey?_entry bare (t := writeValue v ++ '\n' :: rest)
    (s := writeKey key ++ " = ".toList ++ (writeValue v ++ '\n' :: rest))
    (by rw [List.append_assoc]; exact skipGap_writeKey bare _)
  have value := readsBack shaped (3 * (' ' :: (writeValue v ++ '\n' :: rest)).length + 3)
    ('\n' :: rest) (by simp; omega) (endsValue_cons (by decide) _)
  have noBracket (t : List Char) :
      writeKey key ++ " = ".toList ++ (writeValue v ++ '\n' :: rest) ≠ '[' :: t := by
    rw [writeKey_of_isBareKey bare, written]
    rintro ⟨⟩
    cases isBare
  rw [Statement.read?]
  · rw [read]
    simp only [skipGap_writeValue shaped, value, Option.map_some]
  · exact fun t h => noBracket _ h
  · exact fun t h => noBracket _ h

section

variable {path : List String} {key : String} (bare : ∀ k ∈ path ++ [key], isBareKey k = true)
  (few : path.length < maxParts)
include bare few

/-- A path in brackets is read up to the closing one. -/
theorem readKey?_header (rest : List Char) :
    readKey? (writePath (path ++ [key]) ++ ']' :: rest) = some ((path, key), ']' :: rest) := by
  have closing : skipGap (']' :: rest) = ']' :: rest := skipGap_cons rfl _
  rw [readKey?_writePath (by rintro c ⟨⟩; rfl) (by rw [closing]; simp) path bare few
    (skipGap_writePath (by simp) bare _), closing]

/-- A line with the header of a table. -/
theorem lines_openTable :
    Lines ("\n[".toList ++ writePath (path ++ [key]) ++ "]\n".toList) [.openTable path key] := by
  obtain ⟨c, cs, written, isBare⟩ := exists_writePath_eq_cons (by simp) bare
  have text : "\n[".toList ++ writePath (path ++ [key]) ++ "]\n".toList =
      ['\n'] ++ ('[' :: (writePath (path ++ [key]) ++ [']']) ++ ['\n']) := by simp
  rw [text]
  refine lines_break.append (lines_statement (by decide) fun rest => ?_)
  have read := readKey?_header bare few ('\n' :: rest)
  simp only [List.cons_append, List.append_assoc, List.nil_append]
  rw [Statement.read?]
  · rw [read]
    rfl
  · intro t h
    rw [written] at h
    cases h
    cases isBare

/-- A line with the header of an element. -/
theorem lines_openElement :
    Lines ("\n[[".toList ++ writePath (path ++ [key]) ++ "]]\n".toList)
      [.openElement path key] := by
  have text : "\n[[".toList ++ writePath (path ++ [key]) ++ "]]\n".toList =
      ['\n'] ++ ('[' :: '[' :: (writePath (path ++ [key]) ++ [']', ']']) ++ ['\n']) := by simp
  rw [text]
  refine lines_break.append (lines_statement (by decide) fun rest => ?_)
  have read := readKey?_header bare few (']' :: '\n' :: rest)
  simp only [List.cons_append, List.append_assoc, List.nil_append]
  rw [Statement.read?, read]
  rfl

end

/-! ## Lines and the tree -/

/-- Lines take entries to entries and the table where keys are set to another, whatever follows. -/
def Makes (s : List Char) (path : List String) (entries : Entries) (path' : List String)
    (entries' : Entries) : Prop :=
  ∃ statements, Lines s statements ∧ ∀ more,
    Statement.run? path entries (statements ++ more) = Statement.run? path' entries' more

theorem makes_nil (path : List String) (entries : Entries) : Makes [] path entries path entries :=
  ⟨[], lines_nil, fun _ => rfl⟩

theorem Makes.append {s t : List Char} {p p' p'' : List String} {E E' E'' : Entries}
    (hs : Makes s p E p' E') (ht : Makes t p' E' p'' E'') : Makes (s ++ t) p E p'' E'' := by
  obtain ⟨a, linesA, runA⟩ := hs
  obtain ⟨b, linesB, runB⟩ := ht
  refine ⟨a ++ b, linesA.append linesB, fun more => ?_⟩
  rw [List.append_assoc, runA, runB]

section

variable {path : List String} {put : Entries → Entries} (place : Place path put) {key : String}
  {E : Entries}
include place

/-- A line with a key and its value sets the key. -/
theorem makes_set (bare : isBareKey key = true) (new : key ∉ E.map Prod.fst) {v : Toml}
    (shaped : IsInline maxNesting v) :
    Makes (writeKey key ++ " = ".toList ++ writeValue v ++ ['\n']) path (put E) path
      (put (E ++ [(key, .leaf v)])) := by
  refine ⟨[.set [] key v], lines_set bare shaped, fun more => ?_⟩
  rw [List.cons_append, Statement.run?, place, Tree.insert?_new new]
  rfl

variable (bare : ∀ k ∈ path ++ [key], isBareKey k = true) (few : path.length < maxParts)
include bare few

/-- A header opens a table. -/
theorem makes_openTable (new : key ∉ E.map Prod.fst) (p : List String) :
    Makes ("\n[".toList ++ writePath (path ++ [key]) ++ "]\n".toList) p (put E) (path ++ [key])
      (put (E ++ [(key, .table .header [])])) := by
  refine ⟨[.openTable path key], lines_openTable bare few, fun more => ?_⟩
  rw [List.cons_append, Statement.run?, place, Tree.openTable?_new new]
  rfl

/-- A header of an array opens an element. -/
theorem makes_openElement {E' : Entries} (opened : Tree.openElement? key E = some E')
    (p : List String) :
    Makes ("\n[[".toList ++ writePath (path ++ [key]) ++ "]]\n".toList) p (put E) (path ++ [key])
      (put E') := by
  refine ⟨[.openElement path key], lines_openElement bare few, fun more => ?_⟩
  rw [List.cons_append, Statement.run?, place, opened]
  rfl

end

/-! ## Tables -/

/-- Entries that are read back as they are written under headers, where dotted keys have `room` for
more parts: the entries on lines of their own come first. -/
inductive Written : Nat → List (String × Toml) → Prop
  | intro {room : Nat} {plain headers : List (String × Toml)}
      (bare : ∀ e ∈ plain ++ headers, isBareKey e.1 = true)
      (distinct : ((plain ++ headers).map Prod.fst).Nodup)
      (plain_inline : ∀ e ∈ plain, hasHeaders e.2 = false ∧ IsInline maxNesting e.2)
      (headers_have : ∀ e ∈ headers, hasHeaders e.2 = true)
      (tables : ∀ k entries, (k, .table entries) ∈ headers → Written room entries)
      (elements : ∀ k items, (k, .arr items) ∈ headers → ∀ entries, .table entries ∈ items →
        Written room entries) : Written (room + 1) (plain ++ headers)

/-! ### What is written of them -/

theorem writeSection_table (path : List String) (entries : List (String × Toml)) :
    writeSection path (.table entries) =
      "\n[".toList ++ writePath path ++ "]\n".toList ++ writePlain entries ++
        writeSections path entries := rfl

theorem writeSection_arr (path : List String) (items : List Toml) :
    writeSection path (.arr items) =
      if hasHeaders (.arr items) then writeElements path items else [] := rfl

theorem writeSections_cons (path : List String) (key : String) (v : Toml)
    (entries : List (String × Toml)) :
    writeSections path ((key, v) :: entries) =
      writeSection (path ++ [key]) v ++ writeSections path entries := rfl

theorem writeElements_table (path : List String) (entries : List (String × Toml))
    (items : List Toml) :
    writeElements path (.table entries :: items) =
      "\n[[".toList ++ writePath path ++ "]]\n".toList ++ writePlain entries ++
        writeSections path entries ++ writeElements path items := rfl

theorem writePlain_append {plain headers : List (String × Toml)}
    (hp : ∀ e ∈ plain, hasHeaders e.2 = false) (hh : ∀ e ∈ headers, hasHeaders e.2 = true) :
    writePlain (plain ++ headers) =
      plain.flatMap fun e => writeKey e.1 ++ " = ".toList ++ writeValue e.2 ++ ['\n'] := by
  have left : plain.filter (fun e => !hasHeaders e.2) = plain :=
    List.filter_eq_self.2 fun e mem => by rw [hp e mem]; rfl
  have right : headers.filter (fun e => !hasHeaders e.2) = [] :=
    List.filter_eq_nil_iff.2 fun e mem => by rw [hh e mem]; decide
  rw [writePlain, List.filter_append, left, right, List.append_nil]

theorem writeSection_of_not_hasHeaders (path : List String) {v : Toml}
    (h : hasHeaders v = false) : writeSection path v = [] := by
  cases v with
  | table entries => cases h
  | arr items => rw [writeSection_arr, if_neg (by simp [h])]
  | _ => rfl

theorem writeSections_append (path : List String) {plain : List (String × Toml)}
    (hp : ∀ e ∈ plain, hasHeaders e.2 = false) (headers : List (String × Toml)) :
    writeSections path (plain ++ headers) = writeSections path headers := by
  induction plain with
  | nil => rfl
  | cons e plain ih =>
    rw [List.forall_mem_cons] at hp
    rw [List.cons_append, writeSections_cons, writeSection_of_not_hasHeaders _ hp.1,
      List.nil_append, ih hp.2]

/-! ### What the lines make -/

theorem exists_of_isTable {v : Toml} (h : isTable v = true) : ∃ entries, v = .table entries := by
  cases v with
  | table entries => exact ⟨entries, rfl⟩
  | _ => cases h

/-- The lines of a table that is open at a path build its entries. -/
def Builds (path : List String) (entries : List (String × Toml)) : Prop :=
  ∀ put, Place path put → ∃ E p, entryValues E = entries ∧
    Makes (writePlain entries ++ writeSections path entries) path (put []) p (put E)

theorem makes_plain {path : List String} {put : Entries → Entries} (place : Place path put)
    {E : Entries} {plain : List (String × Toml)}
    (bare : ∀ e ∈ plain, isBareKey e.1 = true) (shaped : ∀ e ∈ plain, IsInline maxNesting e.2)
    (distinct : ((E ++ leaves plain).map Prod.fst).Nodup) :
    Makes (plain.flatMap fun e => writeKey e.1 ++ " = ".toList ++ writeValue e.2 ++ ['\n']) path
      (put E) path (put (E ++ leaves plain)) := by
  induction plain generalizing E with
  | nil =>
    rw [leaves, List.map_nil, List.append_nil]
    exact makes_nil path (put E)
  | cons e plain ih =>
    rw [List.forall_mem_cons] at bare shaped
    rw [leaves, List.map_cons, ← leaves] at distinct ⊢
    have new := Tree.new_of_distinct distinct
    rw [List.append_cons] at distinct ⊢
    rw [List.flatMap_cons]
    exact (makes_set place bare.1 new shaped.1).append (ih bare.2 shaped.2 distinct)

section

variable {path : List String} {put : Entries → Entries} (place : Place path put) {key : String}
  {E : Entries} (bare : ∀ k ∈ path ++ [key], isBareKey k = true) (few : path.length < maxParts)
  (new : key ∉ E.map Prod.fst)
include place bare few new

/-- The lines of a table under its header put the table behind the entries. -/
theorem makes_table {entries : List (String × Toml)} (builds : Builds (path ++ [key]) entries)
    (p : List String) :
    ∃ t p', t.value = .table entries ∧
      Makes (writeSection (path ++ [key]) (.table entries)) p (put E) p'
        (put (E ++ [(key, t)])) := by
  obtain ⟨inner, p', inner_eq, makes⟩ := builds _ (place.table new .header)
  refine ⟨.table .header inner, p', by rw [Tree.value, inner_eq], ?_⟩
  rw [writeSection_table, List.append_assoc]
  exact (makes_openTable place bare few new p).append makes

/-- The lines of a table under a header of its array put it behind the elements. -/
theorem makes_element {entries : List (String × Toml)} (builds : Builds (path ++ [key]) entries)
    (elements : List Tree) {p : List String} {E' : Entries}
    (opened : Tree.openElement? key E' =
      some (E ++ [(key, .tables (elements ++ [.table .header []]))])) :
    ∃ t p', t.value = .table entries ∧
      Makes ("\n[[".toList ++ writePath (path ++ [key]) ++ "]]\n".toList ++ writePlain entries ++
        writeSections (path ++ [key]) entries) p (put E') p'
          (put (E ++ [(key, .tables (elements ++ [t]))])) := by
  obtain ⟨inner, p', inner_eq, makes⟩ := builds _ (place.element new elements .header)
  refine ⟨.table .header inner, p', by rw [Tree.value, inner_eq], ?_⟩
  rw [List.append_assoc]
  exact (makes_openElement place bare few opened p).append makes

/-- The lines of further tables of an array put them behind the elements. -/
theorem makes_elements {items : List Toml} (tables : ∀ v ∈ items, isTable v = true)
    (builds : ∀ entries, .table entries ∈ items → Builds (path ++ [key]) entries)
    (elements : List Tree) (p : List String) :
    ∃ ts p', Tree.values ts = items ∧
      Makes (writeElements (path ++ [key]) items) p (put (E ++ [(key, .tables elements)])) p'
        (put (E ++ [(key, .tables (elements ++ ts))])) := by
  induction items generalizing elements p with
  | nil =>
    refine ⟨[], p, rfl, ?_⟩
    rw [List.append_nil]
    exact makes_nil _ _
  | cons v items ih =>
    rw [List.forall_mem_cons] at tables
    obtain ⟨entries, rfl⟩ := exists_of_isTable tables.1
    obtain ⟨t, p', t_eq, first⟩ := makes_element place bare few new
      (builds entries (List.mem_cons_self ..)) elements (p := p)
      (Tree.openElement?_last new elements)
    obtain ⟨ts, p'', ts_eq, others⟩ := ih tables.2
      (fun e he => builds e (List.mem_cons_of_mem _ he)) (elements ++ [t]) p'
    refine ⟨t :: ts, p'', by rw [Tree.values, t_eq, ts_eq], ?_⟩
    rw [writeElements_table, List.append_cons elements]
    exact first.append others

/-- The lines of an array of tables put it behind the entries. -/
theorem makes_array {items : List Toml} (headers : hasHeaders (.arr items) = true)
    (builds : ∀ entries, .table entries ∈ items → Builds (path ++ [key]) entries)
    (p : List String) :
    ∃ t p', t.value = .arr items ∧
      Makes (writeSection (path ++ [key]) (.arr items)) p (put E) p' (put (E ++ [(key, t)])) := by
  rw [writeSection_arr, if_pos headers]
  simp only [hasHeaders, Bool.and_eq_true, Bool.not_eq_true', List.isEmpty_eq_false_iff,
    List.all_eq_true] at headers
  obtain ⟨ne, tables⟩ := headers
  obtain ⟨v, items, rfl⟩ := List.exists_cons_of_ne_nil ne
  rw [List.forall_mem_cons] at tables
  obtain ⟨entries, rfl⟩ := exists_of_isTable tables.1
  obtain ⟨t, p', t_eq, first⟩ := makes_element place bare few new
    (builds entries (List.mem_cons_self ..)) [] (p := p) (Tree.openElement?_new new)
  obtain ⟨ts, p'', ts_eq, others⟩ := makes_elements place bare few new tables.2
    (fun e he => builds e (List.mem_cons_of_mem _ he)) [t] p'
  refine ⟨.tables (t :: ts), p'', by rw [Tree.value, Tree.values, t_eq, ts_eq], ?_⟩
  rw [writeElements_table]
  exact first.append others

end

/-- The lines of entries under headers put them behind the entries that are there. -/
theorem makes_headers {path : List String} {put : Entries → Entries} (place : Place path put)
    {headers : List (String × Toml)} (bares : ∀ k ∈ path, isBareKey k = true)
    (bare : ∀ e ∈ headers, isBareKey e.1 = true) (few : path.length < maxParts)
    (under : ∀ e ∈ headers, hasHeaders e.2 = true)
    (tables : ∀ k entries, (k, .table entries) ∈ headers → Builds (path ++ [k]) entries)
    (elements : ∀ k items, (k, .arr items) ∈ headers → ∀ entries, .table entries ∈ items →
      Builds (path ++ [k]) entries)
    {E : Entries} (distinct : ((entryValues E ++ headers).map Prod.fst).Nodup) (p : List String) :
    ∃ ts p', entryValues ts = headers ∧
      Makes (writeSections path headers) p (put E) p' (put (E ++ ts)) := by
  induction headers generalizing E p with
  | nil =>
    refine ⟨[], p, rfl, ?_⟩
    rw [List.append_nil]
    exact makes_nil _ _
  | cons e headers ih =>
    obtain ⟨key, v⟩ := e
    rw [List.forall_mem_cons] at bare under
    have keys : ∀ k ∈ path ++ [key], isBareKey k = true := by
      rw [List.forall_mem_append, List.forall_mem_singleton]
      exact ⟨bares, bare.1⟩
    have new : key ∉ E.map Prod.fst := by
      rw [← Tree.keys_entryValues]
      exact Tree.new_of_distinct distinct
    obtain ⟨t, p', t_eq, first⟩ : ∃ t p', t.value = v ∧
        Makes (writeSection (path ++ [key]) v) p (put E) p' (put (E ++ [(key, t)])) := by
      cases v with
      | table entries => exact makes_table place keys few new (tables _ _ (List.mem_cons_self ..)) p
      | arr items =>
        exact makes_array place keys few new under.1 (elements _ _ (List.mem_cons_self ..)) p
      | _ => cases under.1
    have next : entryValues (E ++ [(key, t)]) ++ headers =
        entryValues E ++ (key, v) :: headers := by
      rw [Tree.entryValues_append, entryValues, t_eq, entryValues, List.append_assoc]
      rfl
    obtain ⟨ts, p'', ts_eq, others⟩ := ih bare.2 under.2
      (fun k es mem => tables k es (List.mem_cons_of_mem _ mem))
      (fun k items mem => elements k items (List.mem_cons_of_mem _ mem)) (by rwa [next]) p'
    refine ⟨(key, t) :: ts, p'', by rw [entryValues, t_eq, ts_eq], ?_⟩
    rw [writeSections_cons, List.append_cons E]
    exact first.append others

/-- The lines of written entries build them. -/
theorem builds_of_written {room : Nat} {entries : List (String × Toml)} (h : Written room entries)
    (path : List String) (bares : ∀ k ∈ path, isBareKey k = true)
    (fits : path.length + room ≤ maxParts) : Builds path entries := by
  induction h generalizing path with
  | @intro room plain headers bare distinct shaped under tables elements ihTables ihElements =>
    intro put place
    rw [List.forall_mem_append] at bare
    have longer {k : String} (h : isBareKey k = true) : ∀ l ∈ path ++ [k], isBareKey l = true := by
      rw [List.forall_mem_append, List.forall_mem_singleton]
      exact ⟨bares, h⟩
    have plainDistinct : ((([] : Entries) ++ leaves plain).map Prod.fst).Nodup := by
      rw [List.nil_append, keys_leaves]
      rw [List.map_append] at distinct
      exact (List.nodup_append.1 distinct).1
    have first := makes_plain place bare.1 (fun e mem => (shaped e mem).2) plainDistinct
    obtain ⟨ts, p, ts_eq, others⟩ := makes_headers place bares bare.2 (by omega) under
      (fun k es mem => ihTables k es mem _ (longer (bare.2 _ mem)) (by simp; omega))
      (fun k items mem es mem' => ihElements k items mem es mem' _ (longer (bare.2 _ mem))
        (by simp; omega))
      (E := leaves plain) (by rwa [entryValues_leaves]) path
    refine ⟨leaves plain ++ ts, p, ?_, ?_⟩
    · rw [Tree.entryValues_append, entryValues_leaves, ts_eq]
    · have noHeaders : ∀ e ∈ plain, hasHeaders e.2 = false := fun e mem => (shaped e mem).1
      rw [writePlain_append noHeaders under, writeSections_append path noHeaders]
      exact first.append others

/-- No statement starts with the mark that a document may start with. -/
theorem not_readsAs_mark (s : List Char) (statements : List Statement) :
    ¬ ReadsAs ('\ufeff' :: s) statements := by
  intro reads
  have read := reads _ [] (Nat.lt_succ_self _)
  simp [Statement.readAll?, Statement.read?, skipGap, isGap, afterBreak?, readKey?, readParts?,
    readKeyPart?, isBare] at read

theorem skipMark_of_readsAs {s : List Char} {statements : List Statement}
    (h : ReadsAs s statements) : skipMark s = s := by
  unfold skipMark
  split
  · exact absurd h (not_readsAs_mark _ _)
  · rfl

/-- A document is read back as the entries it was written from, whatever blank lines follow. -/
theorem parse?_write_append {entries : List (String × Toml)} (h : Written maxParts entries)
    {tail : String} (blank : ReadsAs tail.toList []) :
    parse? (write entries ++ tail) = some (.table entries) := by
  obtain ⟨E, p, E_eq, statements, lines, run⟩ :=
    builds_of_written h [] (by simp) (by simp) id Tree.place_root
  have reads := lines _ _ blank
  have runs := run []
  rw [List.append_nil] at reads runs
  rw [parse?, write, String.toList_append, String.toList_ofList]
  simp only [skipMark_of_readsAs reads, reads _ [] (Nat.lt_succ_self _), List.reverse_nil,
    List.nil_append]
  change (Statement.run? [] (id []) statements).map _ = _
  rw [runs, Statement.run?, Option.map_some, id, E_eq]

/-! ## As data -/

theorem itemsOfJson?_itemsToJson {items : List Toml}
    (h : ∀ v ∈ items, ofJson? v.toJson = some v) :
    itemsOfJson? (itemsToJson items) = some items := by
  induction items with
  | nil => rfl
  | cons v items ih =>
    rw [List.forall_mem_cons] at h
    rw [itemsToJson, itemsOfJson?, h.1, ih h.2]

theorem entriesOfJson?_entriesToJson {entries : List (String × Toml)}
    (h : ∀ e ∈ entries, ofJson? e.2.toJson = some e.2) :
    entriesOfJson? (entriesToJson entries) = some entries := by
  induction entries with
  | nil => rfl
  | cons e entries ih =>
    rw [List.forall_mem_cons] at h
    rw [entriesToJson, entriesOfJson?, h.1, ih h.2]

theorem exists_ofJson?_of_mem {members : List (String × Json)} {entries : List (String × Toml)}
    (h : entriesOfJson? members = some entries) : ∀ m ∈ members, ∃ v, ofJson? m.2 = some v := by
  induction members generalizing entries with
  | nil => simp
  | cons m members ih =>
    rw [entriesOfJson?] at h
    split at h
    · rename_i v rest first others
      exact List.forall_mem_cons.2 ⟨⟨v, first⟩, ih others⟩
    · cases h

theorem IsInline.ofJson?_toJson {room : Nat} {v : Toml} (h : IsInline room v) :
    ofJson? v.toJson = some v := by
  induction h with
  | str s => rfl
  | int inside => exact if_pos inside
  | bool b => rfl
  | arr inner ih => rw [toJson, ofJson?, itemsOfJson?_itemsToJson ih, Option.map_some]
  | table bare distinct inner ih =>
    rw [toJson, ofJson?, entriesOfJson?_entriesToJson ih, Option.map_some]

/-- Written entries lose nothing as data. -/
theorem Written.ofJson?_toJson {room : Nat} {entries : List (String × Toml)}
    (h : Written room entries) : ofJson? (table entries).toJson = some (.table entries) := by
  induction h with
  | @intro room plain headers bare distinct shaped under tables elements ihTables ihElements =>
    rw [toJson, ofJson?, entriesOfJson?_entriesToJson, Option.map_some]
    rw [List.forall_mem_append]
    refine ⟨fun e mem => (shaped e mem).2.ofJson?_toJson, fun e mem => ?_⟩
    obtain ⟨key, v⟩ := e
    have header := under _ mem
    cases v with
    | table entries => exact ihTables key entries mem
    | arr items =>
      rw [toJson, ofJson?, itemsOfJson?_itemsToJson, Option.map_some]
      intro v inItems
      simp only [hasHeaders, Bool.and_eq_true, List.all_eq_true] at header
      obtain ⟨entries, rfl⟩ := exists_of_isTable (header.2 v inItems)
      exact ihElements key items mem entries inItems
    | _ => cases header

end Colloquy.Toml
