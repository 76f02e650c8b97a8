import Colloquy.Json.Record
import Colloquy.Proofs.Json.Parsed

/-!
# Records written and read

A record is written as an object with its fields as members. The reader finds each field again under
its name, as a document that means what was written there (`fields?_of_spells`), and it finds the
records of a list one after the other (`items?_write`).
-/

namespace Colloquy.Json

/-! ## Lists -/

section

variable {α β γ : Type}

theorem mapM_eq_mapM_of_forall₂ {R : α → β → Prop} {f : α → Option γ} {g : β → Option γ}
    {l : List α} {l' : List β} (h : ∀ a, ∀ b ∈ l', R a b → f a = g b)
    (all : List.Forall₂ R l l') : l.mapM f = l'.mapM g := by
  induction all with
  | nil => rfl
  | cons hab _ ih =>
    rw [List.mapM_cons, List.mapM_cons, h _ _ (List.mem_cons_self ..) hab,
      ih fun a b hb => h a b (List.mem_cons_of_mem _ hb)]

theorem mapM_eq_some_map_iff {f : α → Option β} {g : α → β} {l : List α} :
    l.mapM f = some (l.map g) ↔ ∀ a ∈ l, f a = some (g a) := by
  induction l with
  | nil => simp
  | cons a l ih =>
    rw [List.mapM_cons, List.map_cons, List.forall_mem_cons, ← ih]
    cases f a <;> cases l.mapM f <;> simp

theorem exists_of_mem_mapM {f : α → Option β} {l : List α} {l' : List β} (h : l.mapM f = some l')
    {b : β} (hb : b ∈ l') : ∃ a ∈ l, f a = some b := by
  induction l generalizing l' with
  | nil =>
    obtain rfl : [] = l' := by simpa using h
    cases hb
  | cons a l ih =>
    rw [List.mapM_cons, Option.bind_eq_bind, Option.bind_eq_some_iff] at h
    obtain ⟨c, hc, h⟩ := h
    rw [Option.bind_eq_bind, Option.bind_eq_some_iff] at h
    obtain ⟨cs, hcs, h⟩ := h
    obtain rfl := Option.some.inj h
    rcases List.mem_cons.1 hb with rfl | hb
    · exact ⟨a, List.mem_cons_self .., hc⟩
    · obtain ⟨x, hx, found⟩ := ih hcs hb
      exact ⟨x, List.mem_cons_of_mem _ hx, found⟩

end

/-! ## Fields -/

/-- A field that is read means a member that was written. -/
def FieldMeans (f : String × Document) (m : String × Json) : Prop :=
  f.1 = m.1 ∧ Means f.2 m.2

theorem pickFields?_of_spelled {names : List String} {ds : List (List Piece × Document)}
    {ms : List (String × Json)} (h : List.Forall₂ MemberMeans ds ms)
    (known : ∀ m ∈ ms, m.1 ∈ names) (done : Document.Fields)
    (distinct : (done.map Prod.fst ++ ms.map Prod.fst).Nodup) :
    ∃ fields, Document.pickFields? names done ds = some (done ++ fields) ∧
      List.Forall₂ FieldMeans fields ms := by
  induction h generalizing done with
  | nil => exact ⟨[], by simp [Document.pickFields?], .nil⟩
  | @cons d m ds ms hd _ ih =>
    obtain ⟨text, means⟩ := hd
    rw [List.forall_mem_cons] at known
    have fresh : (done.lookup m.1).isSome = false := by
      rw [Option.isSome_eq_false_iff, Option.isNone_iff_eq_none, List.lookup_eq_none_iff]
      intro f hf
      rw [bne_iff_ne]
      intro same
      rw [List.nodup_append] at distinct
      exact distinct.2.2 f.1 (List.mem_map_of_mem hf) m.1 (by simp) same.symm
    obtain ⟨fields, picked, all⟩ := ih known.2 (done ++ [(m.1, d.2)]) (by simpa using distinct)
    refine ⟨(m.1, d.2) :: fields, ?_, .cons ⟨rfl, means⟩ all⟩
    rw [Document.pickFields?, text]
    simp only [known.1, fresh, if_true, Bool.false_eq_true, if_false]
    rw [picked, List.append_assoc, List.singleton_append]

theorem lookup_of_fieldMeans {fields : Document.Fields} {ms : List (String × Json)}
    (h : List.Forall₂ FieldMeans fields ms) {name : String} {v : Json}
    (hv : ms.lookup name = some v) : ∃ d, fields.lookup name = some d ∧ Means d v := by
  induction h with
  | nil => cases hv
  | @cons f m fields ms hf _ ih =>
    obtain ⟨key, means⟩ := hf
    rw [List.lookup_cons] at hv ⊢
    rw [key]
    split at hv
    · rw [← Option.some.inj hv]
      exact ⟨f.2, rfl, means⟩
    · exact ih hv

/-- A record is found again in the object that spells it out. -/
theorem fields?_of_spells (names : List String) {d : Document} {ms : List (String × Json)}
    (h : SpellsMembers d (.obj ms)) (keys : ms.map Prod.fst = names) (distinct : names.Nodup)
    {room : Nat} (pos : 0 < room) :
    ∃ fields, d.fields? names room = some fields ∧
      ∀ name v, ms.lookup name = some v → ∃ f, fields.lookup name = some f ∧ Means f v := by
  obtain ⟨ds, _, rfl, ⟨⟩, spelled⟩ := h
  have known : ∀ m ∈ ms, m.1 ∈ names := fun m hm => keys ▸ List.mem_map_of_mem hm
  obtain ⟨fields, picked, all⟩ := pickFields?_of_spelled spelled known [] (by simpa [keys])
  refine ⟨fields, ?_, fun name v => lookup_of_fieldMeans all⟩
  rw [Document.fields?, if_neg (Nat.ne_of_gt pos), picked, List.nil_append]

/-! ## Texts -/

theorem value?_ne_str (n : Numeral) (s : String) : n.value? ≠ some (.str s) := by
  intro h
  unfold Numeral.value? at h
  dsimp only at h
  split at h
  · cases h
  · obtain ⟨x, -, same⟩ := Option.map_eq_some_iff.1 h
    cases same

theorem exists_eq_str_of_means {d : Document} {s : String} (h : Means d (.str s)) :
    ∃ pieces, d = .str pieces ∧ textOf? pieces = some s := by
  have value : d.valueWithin? 0 = some (.str s) := h 0 (Nat.zero_le _)
  cases d with
  | null | bool | arr | obj => simp [Document.valueWithin?] at value
  | num n => exact absurd value (value?_ne_str n s)
  | str pieces =>
    refine ⟨pieces, rfl, ?_⟩
    rw [Document.valueWithin?] at value
    obtain ⟨t, ht, same⟩ := Option.map_eq_some_iff.1 value
    cases same
    exact ht

theorem text?_of_means {d : Document} {s : String} (h : Means d (.str s)) : d.text? = some s := by
  obtain ⟨pieces, rfl, text⟩ := exists_eq_str_of_means h
  exact text

theorem name?_of_means {d : Document} {s : String} (h : Means d (.str s)) (room : Nat) :
    d.name? room = some s := by
  obtain ⟨pieces, rfl, text⟩ := exists_eq_str_of_means h
  exact text

/-! ## Lists of records -/

/-- An object with given keys, each once, and values that their texts keep. -/
structure IsRecord (names : List String) (v : Json) : Prop where
  distinct : names.Nodup
  exists_members : ∃ ms, v = .obj ms ∧ ms.map Prod.fst = names ∧ ∀ m ∈ ms, Exact m.2

theorem IsRecord.exact {names : List String} {v : Json} (h : IsRecord names v) : Exact v := by
  obtain ⟨distinct, ms, rfl, rfl, values⟩ := h
  exact .obj distinct values

theorem IsRecord.readsAs {names : List String} {v : Json} (h : IsRecord names v)
    (layout : Layout) : ReadsAs SpellsMembers layout v := by
  obtain ⟨distinct, ms, rfl, rfl, values⟩ := h
  exact readsAs_obj distinct values fun m hm => readsBack (values m hm) layout

/-- What is read of a written list of records is what is found of each of them. -/
theorem items?_write {α β : Type} (read? : Nat → Document → Option α) (find? : β → Option α)
    {write : β → Json} {names : List String} {l : List β}
    (records : ∀ b ∈ l, IsRecord names (write b))
    (finds : ∀ d, ∀ b ∈ l, SpellsMembers d (write b) → read? (maxNesting - 1) d = find? b)
    (layout : Layout) :
    (Document.parse? ((Json.arr (l.map write)).write layout)).bind (·.items? maxNesting read?) =
      l.mapM find? := by
  have records' : ∀ v ∈ l.map write, IsRecord names v := List.forall_mem_map.2 records
  have exact : ∀ v ∈ l.map write, Exact v := fun v hv => (records' v hv).exact
  have reads : ∀ v ∈ l.map write, ReadsAs SpellsMembers layout v := fun v hv =>
    (records' v hv).readsAs layout
  obtain ⟨_, parsed, ds, _, rfl, ⟨⟩, spelled⟩ :=
    Document.parse?_write (.arr exact) (readsAs_arr exact reads)
  rw [parsed, Option.bind_some, Document.items?, if_neg (by decide)]
  rw [List.forall₂_map_right_iff] at spelled
  exact mapM_eq_mapM_of_forall₂ finds spelled

end Colloquy.Json
