import Colloquy.Toml.Tree

/-!
# Building trees

New keys go behind the entries that are there. What is done at a path happens at one place of the
tree (`Place`), whatever it is; the table that has just been opened is such a place, and so is each
table opened in it.
-/

namespace Colloquy.Toml.Tree

/-! ## Entries -/

theorem lookup_of_not_mem {α : Type} {key : String} {entries : List (String × α)}
    (new : key ∉ entries.map Prod.fst) : entries.lookup key = none := by
  rw [List.lookup_eq_none_iff]
  intro e mem
  rw [bne_iff_ne]
  rintro rfl
  exact new (List.mem_map_of_mem mem)

section

variable {key : String} {entries : Entries} (new : key ∉ entries.map Prod.fst)
include new

theorem lookup_last (t : Tree) : (entries ++ [(key, t)]).lookup key = some t := by
  rw [List.lookup_append, lookup_of_not_mem new, Option.none_or, List.lookup_cons_self]

theorem replace_last (t u : Tree) :
    replace key u (entries ++ [(key, t)]) = entries ++ [(key, u)] := by
  have kept : replace key u entries = entries := by
    refine (List.map_congr_left fun e mem => if_neg ?_).trans (List.map_id' entries)
    rintro rfl
    exact new (List.mem_map_of_mem mem)
  rw [replace, List.map_append, ← replace, kept]
  simp

theorem insert?_new (v : Toml) : insert? key v [] entries = some (entries ++ [(key, .leaf v)]) := by
  rw [insert?, lookup_of_not_mem new]

theorem openTable?_new :
    openTable? key entries = some (entries ++ [(key, .table .header [])]) := by
  rw [openTable?, lookup_of_not_mem new]

theorem openElement?_new :
    openElement? key entries = some (entries ++ [(key, .tables [.table .header []])]) := by
  rw [openElement?, lookup_of_not_mem new]

theorem openElement?_last (elements : List Tree) :
    openElement? key (entries ++ [(key, .tables elements)]) =
      some (entries ++ [(key, .tables (elements ++ [.table .header []]))]) := by
  rw [openElement?, lookup_last new]
  exact congrArg some (replace_last new ..)

end

/-- Where keys are distinct, each is new behind those before it. -/
theorem new_of_distinct {α : Type} {done entries : List (String × α)} {e : String × α}
    (distinct : ((done ++ e :: entries).map Prod.fst).Nodup) : e.1 ∉ done.map Prod.fst := by
  rw [List.map_append, List.nodup_append] at distinct
  exact fun mem => distinct.2.2 _ mem _ (List.mem_cons_self ..) rfl

theorem keys_entryValues (entries : Entries) :
    (entryValues entries).map Prod.fst = entries.map Prod.fst := by
  induction entries with
  | nil => rfl
  | cons e entries ih => rw [entryValues, List.map_cons, List.map_cons, ih]

theorem entryValues_append (entries more : Entries) :
    entryValues (entries ++ more) = entryValues entries ++ entryValues more := by
  induction entries with
  | nil => rfl
  | cons e entries ih => rw [List.cons_append, entryValues, entryValues, List.cons_append, ih]

/-! ## Places -/

theorem changeAt?_nil (f : Entries → Option Entries) : changeAt? f [] = f := rfl

theorem changeAt?_append (f : Entries → Option Entries) (path more : List String)
    (entries : Entries) :
    changeAt? f (path ++ more) entries = changeAt? (changeAt? f more) path entries := by
  induction path generalizing entries with
  | nil => rfl
  | cons part path ih =>
    have same : changeAt? f (path ++ more) = changeAt? (changeAt? f more) path := funext ih
    rw [List.cons_append, changeAt?, changeAt?, same]

theorem changeLast?_append (f : Entries → Option Entries) (elements : List Tree) (origin : Origin)
    (inner : Entries) :
    changeLast? f (elements ++ [.table origin inner]) =
      (f inner).map fun inner => elements ++ [.table origin inner] := by
  simp [changeLast?]

/-- What is done to the table at a path is done to the entries that are put at this place. -/
def Place (path : List String) (put : Entries → Entries) : Prop :=
  ∀ (f : Entries → Option Entries) (entries : Entries),
    changeAt? f path (put entries) = (f entries).map put

theorem place_root : Place [] id := by
  intro f entries
  rw [changeAt?, Option.map_id, id, id]

section

variable {path : List String} {put : Entries → Entries} (h : Place path put) {key : String}
  {entries : Entries} (new : key ∉ entries.map Prod.fst)
include h new

/-- The last table of a place is a place. -/
theorem Place.table (origin : Origin) :
    Place (path ++ [key]) fun inner => put (entries ++ [(key, .table origin inner)]) := by
  intro f inner
  rw [changeAt?_append, h, changeAt?, lookup_last new]
  simp only [changeAt?_nil, replace_last new, Option.map_map]
  rfl

/-- The last element of an array that comes last at a place is a place. -/
theorem Place.element (elements : List Tree) (origin : Origin) :
    Place (path ++ [key]) fun inner =>
      put (entries ++ [(key, .tables (elements ++ [.table origin inner]))]) := by
  intro f inner
  rw [changeAt?_append, h, changeAt?, lookup_last new]
  simp only [changeAt?_nil, changeLast?_append, replace_last new, Option.map_map]
  rfl

end

end Colloquy.Toml.Tree
