import Mathlib.Tactic.SplitIfs
import Colloquy.Toml.Reader

/-!
# Integers of documents

Every integer that stands for itself in a document has 64 bits (`readNumeric?_inside`). What the
lines of a document do keeps this of the values at the root of its tree, so a key of the document
never has another integer for its value (`isInt64_of_parse?`).
-/

namespace Colloquy.Toml

/-- If the value is an integer, it has 64 bits. -/
def Inside (v : Toml) : Prop :=
  ∀ n, v = .int n → isInt64 n = true

/-! ## Values -/

theorem finishNumber?_inside {start whole rest s : List Char} {minus : Bool} {v : Toml}
    (h : finishNumber? start minus whole rest = some (v, s)) : Inside v := by
  rintro n rfl
  simp only [finishNumber?, Option.bind_eq_bind, Option.bind_eq_some_iff] at h
  obtain ⟨⟨fraction, s₁⟩, -, ⟨exponent, s₂⟩, -, h⟩ := h
  by_cases plain : fraction = [] ∧ exponent = none
  · rw [if_pos plain] at h
    obtain ⟨inside, made⟩ := Option.ite_none_right_eq_some.1 h
    cases made
    exact inside
  · rw [if_neg plain] at h
    split_ifs at h
    cases h

theorem readBased?_inside {base : Nat} {isDigit : Char → Bool} {s rest : List Char} {v : Toml}
    (h : readBased? base isDigit s = some (v, rest)) : Inside v := by
  rintro n rfl
  unfold readBased? at h
  split at h
  · split_ifs at h with inside
    cases h
    exact inside
  · cases h

theorem readNumber?_inside {s rest : List Char} {v : Toml}
    (h : readNumber? s = some (v, rest)) : Inside v := by
  unfold readNumber? at h
  split at h
  · exact readBased?_inside h
  · exact readBased?_inside h
  · exact readBased?_inside h
  · dsimp only at h
    split at h
    · cases h
      rintro n ⟨⟩
    · cases h
      rintro n ⟨⟩
    · split at h
      · exact finishNumber?_inside h
      · cases h

theorem readNumeric?_inside {s rest : List Char} {v : Toml}
    (h : readNumeric? s = some (v, rest)) : Inside v := by
  unfold readNumeric? at h
  split_ifs at h
  · obtain ⟨_, -, made⟩ := Option.map_eq_some_iff.1 h
    cases made
    rintro n ⟨⟩
  · exact readNumber?_inside h

theorem readItems?_inside {n room : Nat} {done : List Toml} {s rest : List Char} {v : Toml}
    (h : readItems? n room done s = some (v, rest)) : Inside v := by
  induction n generalizing done s with
  | zero => cases h
  | succ n ih =>
    rw [readItems?] at h
    split at h
    · split at h
      · split at h
        · cases h
          rintro n ⟨⟩
        · exact ih h
        · cases h
      · cases h
        rintro n ⟨⟩
      · cases h
    · cases h

theorem readEntries?_inside {n room : Nat} {entries : Tree.Entries} {s rest : List Char} {v : Toml}
    (h : readEntries? n room entries s = some (v, rest)) : Inside v := by
  induction n generalizing entries s with
  | zero => cases h
  | succ n ih =>
    rw [readEntries?] at h
    split at h
    · split at h
      · split at h
        · split at h
          · exact ih h
          · cases h
            rintro n ⟨⟩
          · cases h
        · cases h
      · cases h
    · cases h

theorem readValue?_inside {n room : Nat} {s rest : List Char} {v : Toml}
    (h : readValue? n room s = some (v, rest)) : Inside v := by
  cases n with
  | zero => cases h
  | succ n =>
    unfold readValue? at h
    split at h
    · split_ifs at h
      split at h
      · cases h
        rintro n ⟨⟩
      · exact readItems?_inside h
      · cases h
    · split_ifs at h
      split at h
      · cases h
        rintro n ⟨⟩
      · exact readEntries?_inside h
    · cases h
      rintro n ⟨⟩
    · cases h
      rintro n ⟨⟩
    · split_ifs at h
      · obtain ⟨_, -, made⟩ := Option.map_eq_some_iff.1 h
        cases made
        rintro n ⟨⟩
      · exact readNumeric?_inside h
    · cases h

/-! ## Lines -/

/-- If the statement sets a key to an integer, that has 64 bits. -/
def Statement.Inside : Statement → Prop
  | .set _ _ v => Toml.Inside v
  | _ => True

theorem Statement.read?_inside {s rest : List Char} {statement : Statement}
    (h : Statement.read? s = some (statement, rest)) : statement.Inside := by
  unfold Statement.read? at h
  split at h
  · split at h
    · cases h
      trivial
    · cases h
  · split at h
    · cases h
      trivial
    · cases h
  · split at h
    · obtain ⟨_, read, made⟩ := Option.map_eq_some_iff.1 h
      cases made
      exact readValue?_inside read
    · cases h

theorem Statement.readAll?_inside {n : Nat} {done statements : List Statement} {s : List Char}
    (before : ∀ a ∈ done, a.Inside) (h : Statement.readAll? n done s = some statements) :
    ∀ a ∈ statements, a.Inside := by
  induction n generalizing done s with
  | zero => cases h
  | succ n ih =>
    rw [Statement.readAll?] at h
    split at h
    · cases h
      simpa using before
    · split at h
      · exact ih before h
      · cases h
    · split at h
      · exact ih before h
      · split at h
        · rename_i read
          split at h
          · exact ih (List.forall_mem_cons.2 ⟨Statement.read?_inside read, before⟩) h
          · cases h
        · cases h

/-! ## The root of a tree -/

/-- The integers at the root of a tree have 64 bits. -/
def RootInside (entries : Tree.Entries) : Prop :=
  ∀ key v, (key, .leaf v) ∈ entries → Inside v

theorem rootInside_nil : RootInside [] := fun _ _ mem => nomatch mem

namespace RootInside

variable {entries : Tree.Entries} (h : RootInside entries)
include h

theorem append_leaf (key : String) {v : Toml} (inside : Inside v) :
    RootInside (entries ++ [(key, .leaf v)]) := by
  intro k w mem
  rcases List.mem_append.1 mem with mem | mem
  · exact h k w mem
  · cases List.mem_singleton.1 mem
    exact inside

variable {t : Tree} (noLeaf : ∀ v, t ≠ .leaf v)
include noLeaf

theorem append (key : String) : RootInside (entries ++ [(key, t)]) := by
  intro k w mem
  rcases List.mem_append.1 mem with mem | mem
  · exact h k w mem
  · cases List.mem_singleton.1 mem
    exact absurd rfl (noLeaf w)

theorem replace (key : String) : RootInside (Tree.replace key t entries) := by
  intro k w mem
  obtain ⟨e, inEntries, made⟩ := List.mem_map.1 mem
  split_ifs at made
  · cases made
    exact absurd rfl (noLeaf w)
  · rw [made] at inEntries
    exact h k w inEntries

end RootInside

section

variable {entries entries' : Tree.Entries}

theorem Tree.insert?_rootInside {key : String} {v : Toml} {parts : List String}
    (inside : Inside v) (before : RootInside entries)
    (h : Tree.insert? key v parts entries = some entries') : RootInside entries' := by
  cases parts with
  | nil =>
    rw [Tree.insert?] at h
    split at h
    · cases h
      exact before.append_leaf key inside
    · cases h
  | cons part parts =>
    rw [Tree.insert?] at h
    split at h
    · obtain ⟨inner, -, rfl⟩ := Option.map_eq_some_iff.1 h
      exact before.append (fun _ => Tree.noConfusion) part
    · obtain ⟨inner, -, rfl⟩ := Option.map_eq_some_iff.1 h
      exact before.replace (fun _ => Tree.noConfusion) part
    · split_ifs at h
      obtain ⟨inner, -, rfl⟩ := Option.map_eq_some_iff.1 h
      exact before.replace (fun _ => Tree.noConfusion) part
    · split_ifs at h
      obtain ⟨inner, -, rfl⟩ := Option.map_eq_some_iff.1 h
      exact before.replace (fun _ => Tree.noConfusion) part
    · cases h

/-- What is done at a path keeps the integers at the root, if it does so at the root itself. -/
theorem Tree.changeAt?_rootInside {f : Tree.Entries → Option Tree.Entries} {path : List String}
    (keeps : ∀ E E', RootInside E → f E = some E' → RootInside E') (before : RootInside entries)
    (h : Tree.changeAt? f path entries = some entries') : RootInside entries' := by
  cases path with
  | nil => exact keeps entries entries' before h
  | cons part path =>
    rw [Tree.changeAt?] at h
    split at h
    · obtain ⟨inner, -, rfl⟩ := Option.map_eq_some_iff.1 h
      exact before.append (fun _ => Tree.noConfusion) part
    · obtain ⟨inner, -, rfl⟩ := Option.map_eq_some_iff.1 h
      exact before.replace (fun _ => Tree.noConfusion) part
    · obtain ⟨inner, -, rfl⟩ := Option.map_eq_some_iff.1 h
      exact before.replace (fun _ => Tree.noConfusion) part
    · cases h

theorem Tree.openTable?_rootInside {key : String} (before : RootInside entries)
    (h : Tree.openTable? key entries = some entries') : RootInside entries' := by
  unfold Tree.openTable? at h
  split at h
  · cases h
    exact before.append (fun _ => Tree.noConfusion) key
  · cases h
    exact before.replace (fun _ => Tree.noConfusion) key
  · cases h

theorem Tree.openElement?_rootInside {key : String} (before : RootInside entries)
    (h : Tree.openElement? key entries = some entries') : RootInside entries' := by
  unfold Tree.openElement? at h
  split at h
  · cases h
    exact before.append (fun _ => Tree.noConfusion) key
  · cases h
    exact before.replace (fun _ => Tree.noConfusion) key
  · cases h

theorem Statement.run?_rootInside {statements : List Statement} {path : List String}
    (inside : ∀ a ∈ statements, a.Inside) (before : RootInside entries)
    (h : Statement.run? path entries statements = some entries') : RootInside entries' := by
  induction statements generalizing path entries with
  | nil =>
    cases h
    exact before
  | cons a statements ih =>
    rw [List.forall_mem_cons] at inside
    cases a with
    | set parts key v =>
      rw [Statement.run?] at h
      split at h
      · rename_i changed
        refine ih inside.2 (Tree.changeAt?_rootInside ?_ before changed) h
        exact fun _ _ => Tree.insert?_rootInside inside.1
      · cases h
    | openTable parts key =>
      rw [Statement.run?] at h
      split at h
      · rename_i changed
        refine ih inside.2 (Tree.changeAt?_rootInside ?_ before changed) h
        exact fun _ _ => Tree.openTable?_rootInside
      · cases h
    | openElement parts key =>
      rw [Statement.run?] at h
      split at h
      · rename_i changed
        refine ih inside.2 (Tree.changeAt?_rootInside ?_ before changed) h
        exact fun _ _ => Tree.openElement?_rootInside
      · cases h

end

/-! ## Documents -/

theorem leaf_mem_of_mem_entryValues {entries : Tree.Entries} {key : String} {n : Int}
    (h : (key, .int n) ∈ Tree.entryValues entries) : (key, .leaf (.int n)) ∈ entries := by
  induction entries with
  | nil => cases h
  | cons e entries ih =>
    obtain ⟨k, t⟩ := e
    rw [Tree.entryValues, List.mem_cons] at h
    rcases h with h | h
    · cases t with
      | leaf v =>
        cases h
        exact List.mem_cons_self ..
      | table origin inner => cases h
      | tables elements => cases h
    · exact List.mem_cons_of_mem _ (ih h)

theorem mem_of_mem_entriesToJson {entries : List (String × Toml)} {key : String} {n : Int}
    (h : (key, .int n) ∈ entriesToJson entries) : (key, .int n) ∈ entries := by
  induction entries with
  | nil => cases h
  | cons e entries ih =>
    obtain ⟨k, v⟩ := e
    rw [entriesToJson, List.mem_cons] at h
    rcases h with h | h
    · cases v with
      | int m =>
        cases h
        exact List.mem_cons_self ..
      | _ => cases h
    · exact List.mem_cons_of_mem _ (ih h)

/-- An integer that is the value of a key of a document has 64 bits. -/
theorem isInt64_of_parse? {s : String} {t : Toml} (h : parse? s = some t)
    {members : List (String × Json)} (data : t.toJson = .obj members) {key : String} {n : Int}
    (mem : (key, .int n) ∈ members) : isInt64 n = true := by
  unfold parse? at h
  dsimp only at h
  split at h
  · rename_i statements read
    obtain ⟨entries, made, rfl⟩ := Option.map_eq_some_iff.1 h
    cases data
    have root := Statement.run?_rootInside (Statement.readAll?_inside (by simp) read) rootInside_nil
      made
    exact root key _ (leaf_mem_of_mem_entryValues (mem_of_mem_entriesToJson mem)) n rfl
  · cases h

end Colloquy.Toml
