import Colloquy.Catalog.Basic
import Colloquy.Config.Basic
import Colloquy.Proofs.Bytes
import Colloquy.Proofs.Except
import Colloquy.Proofs.InPlace
import Mathlib.Data.Finset.Card
import Mathlib.Data.List.Sort
import Mathlib.Data.String.Basic

/-!
# Runs of registrations

A registry keeps its templates in the order of their names, each name once (`Sorted`), so it is
known by what it finds under each name (`Sorted.ext`). One registration puts a template under its
name and leaves all other names alone, or fails and leaves the registry alone. A run of
registrations, some of which may fail, makes the registry of all templates registered so far
(`ofList_after`), and that has the last one of each name (`find?_ofList`). All else that
`last_writer_wins` says of runs follows from these.
-/

namespace Colloquy

open InPlace

/-- The template that a configuration describes, if its formatters are as they should be. -/
def TemplateConfig.template? (c : TemplateConfig) : Option Template :=
  c.spec.toOption.map Template.Spec.build

theorem TemplateConfig.name_of_spec {c : TemplateConfig} {spec : Template.Spec}
    (h : c.spec = .ok spec) : spec.name = c.name := by
  simp only [TemplateConfig.spec, bind_eq_ok_iff, pure_eq_ok, Except.ok.injEq] at h
  obtain ⟨-, -, -, -, -, -, -, -, -, -, -, -, -, -, rfl⟩ := h
  rfl

theorem TemplateConfig.name_of_template? {c : TemplateConfig} {t : Template}
    (h : c.template? = some t) : t.name = c.name := by
  obtain ⟨spec, checked, rfl⟩ := Option.map_eq_some_iff.1 h
  cases hs : c.spec with
  | error e =>
    rw [hs] at checked
    cases checked
  | ok spec' =>
    rw [hs] at checked
    cases checked
    exact name_of_spec hs

/-- The last of some templates that has a given name. -/
def lastNamed? (ts : List Template) (name : String) : Option Template :=
  ts.reverse.find? (·.name = name)

theorem lastNamed?_append (ts us : List Template) (name : String) :
    lastNamed? (ts ++ us) name = (lastNamed? us name).or (lastNamed? ts name) := by
  rw [lastNamed?, List.reverse_append, List.find?_append]
  rfl

theorem lastNamed?_singleton (t : Template) (name : String) :
    lastNamed? [t] name = if t.name = name then some t else none := by
  simp [lastNamed?, List.find?_singleton]

theorem lastNamed?_eq_none_iff {ts : List Template} {name : String} :
    lastNamed? ts name = none ↔ ∀ t ∈ ts, t.name ≠ name := by
  simp [lastNamed?]

/-- Where no name comes twice, the template of a name is the one that has it. -/
theorem find?_eq_some_iff_of_nodup {ts : List Template} (h : (ts.map (·.name)).Nodup)
    {name : String} {t : Template} :
    ts.find? (·.name = name) = some t ↔ t ∈ ts ∧ t.name = name := by
  induction ts with
  | nil => simp
  | cons u rest ih =>
    obtain ⟨fresh, tail⟩ := List.nodup_cons.1 h
    rw [List.find?_cons]
    by_cases here : u.name = name
    · simp only [here, decide_true, Option.some.injEq, List.mem_cons]
      constructor
      · rintro rfl
        exact ⟨.inl rfl, here⟩
      · rintro ⟨rfl | later, named⟩
        · rfl
        · exact absurd (List.mem_map.2 ⟨t, later, named.trans here.symm⟩) fresh
    · simp only [here, decide_false, ih tail, List.mem_cons]
      constructor
      · rintro ⟨later, named⟩
        exact ⟨.inr later, named⟩
      · rintro ⟨rfl | later, named⟩
        · exact absurd named here
        · exact ⟨later, named⟩

theorem lastNamed?_perm {ts us : List Template} (perm : ts.Perm us)
    (h : (ts.map (·.name)).Nodup) (name : String) : lastNamed? ts name = lastNamed? us name := by
  have forth : (ts.reverse.map (·.name)).Nodup := by
    rwa [List.map_reverse, List.nodup_reverse]
  have back : (us.reverse.map (·.name)).Nodup := by
    rwa [List.map_reverse, List.nodup_reverse, ← (perm.map _).nodup_iff]
  apply Option.ext
  intro t
  rw [lastNamed?, lastNamed?, find?_eq_some_iff_of_nodup forth, find?_eq_some_iff_of_nodup back,
    List.mem_reverse, List.mem_reverse, perm.mem_iff]

namespace Registry

/-! ## Registering in place -/

/-- Registers a template that a configuration describes. -/
def register (c : TemplateConfig) : InPlace Registry TemplateError PUnit := do
  let spec ← ofExcept (c.spec.mapError .invalidFormatter)
  modify (·.insert spec.build)

/-- In place or not, registering gives the same registry or the same error. -/
theorem outcome_register (c : TemplateConfig) (r : Registry) :
    outcome (register c) r =
      match r.insertConfig c with
      | .ok r' => (.ok ⟨⟩, r')
      | .error e => (.error e, r) := by
  unfold register insertConfig
  simp only [outcome_bind, outcome_ofExcept]
  cases c.spec <;> rfl

/-- A registry after registrations one after the other, of which some may fail. -/
def after (r : Registry) (cs : List TemplateConfig) : Registry :=
  cs.foldl (fun r c => (outcome (register c) r).2) r

theorem outcome_register_snd (c : TemplateConfig) (r : Registry) :
    (outcome (register c) r).2 = (c.template?.map r.insert).getD r := by
  rw [outcome_register, insertConfig, TemplateConfig.template?]
  cases c.spec <;> rfl

theorem outcome_register_fst_eq_ok_iff (c : TemplateConfig) (r : Registry) :
    (outcome (register c) r).1 = .ok ⟨⟩ ↔ c.template?.isSome := by
  rw [outcome_register, insertConfig, TemplateConfig.template?]
  cases c.spec <;> simp [Except.toOption]

theorem outcome_register_of_error {c : TemplateConfig} {r : Registry} {e : TemplateError}
    (h : (outcome (register c) r).1 = .error e) : (outcome (register c) r).2 = r := by
  rw [outcome_register] at h ⊢
  cases inserted : r.insertConfig c with
  | error e' => rfl
  | ok r' =>
    rw [inserted] at h
    cases h

/-! ## One more template -/

theorem mem_insertSorted {t u : Template} {ts : List Template}
    (h : u ∈ insertSorted t ts) : u = t ∨ u ∈ ts := by
  induction ts with
  | nil => exact .inl (List.mem_singleton.1 h)
  | cons v rest ih =>
    rw [insertSorted] at h
    split at h
    · exact List.mem_cons.1 h
    split at h
    · rcases List.mem_cons.1 h with rfl | h
      · exact .inl rfl
      · exact .inr (List.mem_cons_of_mem _ h)
    · rcases List.mem_cons.1 h with rfl | h
      · exact .inr (List.mem_cons_self ..)
      · exact (ih h).imp_right (List.mem_cons_of_mem _)

theorem mem_foldl_insert {u : Template} {ts : List Template} {r : Registry}
    (h : u ∈ (ts.foldl insert r).templates) : u ∈ r.templates ∨ u ∈ ts := by
  induction ts generalizing r with
  | nil => exact .inl h
  | cons t ts ih =>
    rcases ih h with here | later
    · rcases mem_insertSorted here with rfl | before
      · exact .inr (List.mem_cons_self ..)
      · exact .inl before
    · exact .inr (List.mem_cons_of_mem _ later)

/-- Every built-in template has a description in the catalog. -/
theorem exists_build_of_mem_builtins {t : Template} (h : t ∈ builtins.templates) :
    ∃ spec ∈ Catalog.specs, spec.build = t := by
  rcases mem_foldl_insert h with none | some
  · cases none
  · exact List.mem_map.1 some

/-- A template is found under its name once it is registered, and all else is found as before. -/
theorem find?_insert (r : Registry) (t : Template) (name : String) :
    (r.insert t).find? name = if t.name = name then some t else r.find? name := by
  obtain ⟨ts⟩ := r
  simp only [find?, insert]
  induction ts with
  | nil => simp [insertSorted, List.find?_singleton]
  | cons u rest ih =>
    rw [insertSorted]
    by_cases before : t.name < u.name
    · rw [if_pos before]
      by_cases here : t.name = name <;> simp [here]
    rw [if_neg before]
    by_cases same : t.name = u.name
    · rw [if_pos same]
      by_cases here : t.name = name
      · simp [here]
      · simp [here, same ▸ here]
    · rw [if_neg same]
      by_cases here : u.name = name
      · simp [here, here ▸ same]
      · simp [here, ih]

theorem find?_outcome_register {c : TemplateConfig} {name : String} (other : name ≠ c.name)
    (r : Registry) : (outcome (register c) r).2.find? name = r.find? name := by
  rw [outcome_register_snd]
  cases made : c.template? with
  | none => rfl
  | some t =>
    rw [Option.map_some, Option.getD_some, find?_insert, c.name_of_template? made,
      if_neg (Ne.symm other)]

/-! ## Sorted registries -/

/-- A registry in the order of its names, with each name once. -/
def Sorted (r : Registry) : Prop :=
  r.templates.Pairwise fun t u => t.name < u.name

theorem sorted_empty : empty.Sorted :=
  List.Pairwise.nil

theorem Sorted.insert {r : Registry} (h : r.Sorted) (t : Template) : (r.insert t).Sorted := by
  obtain ⟨ts⟩ := r
  simp only [Sorted, Registry.insert] at h ⊢
  induction ts with
  | nil => exact List.pairwise_singleton ..
  | cons u rest ih =>
    obtain ⟨head, tail⟩ := List.pairwise_cons.1 h
    rw [insertSorted]
    by_cases before : t.name < u.name
    · rw [if_pos before, List.pairwise_cons]
      refine ⟨fun v hv => ?_, h⟩
      rcases List.mem_cons.1 hv with rfl | hv
      · exact before
      · exact before.trans (head v hv)
    rw [if_neg before]
    by_cases same : t.name = u.name
    · rw [if_pos same, List.pairwise_cons, same]
      exact ⟨head, tail⟩
    · rw [if_neg same, List.pairwise_cons]
      refine ⟨fun v hv => ?_, ih tail⟩
      rcases mem_insertSorted hv with rfl | hv
      · exact lt_of_le_of_ne (not_lt.1 before) (Ne.symm same)
      · exact head v hv

theorem Sorted.nodup_names {r : Registry} (h : r.Sorted) : r.names.Nodup :=
  List.pairwise_map.2 (h.imp ne_of_lt)

theorem Sorted.nodup {r : Registry} (h : r.Sorted) : r.templates.Nodup :=
  List.Nodup.of_map _ h.nodup_names

theorem Sorted.mem_iff {r : Registry} (h : r.Sorted) {t : Template} :
    t ∈ r.templates ↔ r.find? t.name = some t := by
  rw [find?, find?_eq_some_iff_of_nodup h.nodup_names]
  exact ⟨fun ht => ⟨ht, rfl⟩, And.left⟩

/-- Sorted registries that find the same templates are the same. -/
theorem Sorted.ext {r r' : Registry} (h : r.Sorted) (h' : r'.Sorted)
    (same : ∀ name, r.find? name = r'.find? name) : r = r' := by
  have perm : r.templates.Perm r'.templates := by
    rw [List.perm_ext_iff_of_nodup h.nodup h'.nodup]
    intro t
    rw [h.mem_iff, h'.mem_iff, same]
  have equal : r.templates = r'.templates :=
    perm.eq_of_pairwise (fun t u _ _ before behind => absurd behind (lt_asymm before)) h h'
  cases r
  cases r'
  congr

/-! ## Registries of templates -/

theorem ofList_concat (ts : List Template) (t : Template) :
    ofList (ts ++ [t]) = (ofList ts).insert t := by
  rw [ofList, List.foldl_append]
  rfl

theorem sorted_ofList (ts : List Template) : (ofList ts).Sorted := by
  induction ts using List.reverseRecOn with
  | nil => exact sorted_empty
  | append_singleton ts t ih =>
    rw [ofList_concat]
    exact ih.insert t

/-- The last template of a name is the one that counts. -/
theorem find?_ofList (ts : List Template) (name : String) :
    (ofList ts).find? name = lastNamed? ts name := by
  induction ts using List.reverseRecOn with
  | nil => rfl
  | append_singleton ts t ih =>
    rw [ofList_concat, find?_insert, ih, lastNamed?_append, lastNamed?_singleton]
    split <;> rfl

theorem find?_eq_none_iff {r : Registry} {name : String} :
    r.find? name = none ↔ name ∉ r.names := by
  simp [find?, names]

theorem mem_names_ofList {ts : List Template} {name : String} :
    name ∈ (ofList ts).names ↔ name ∈ ts.map (·.name) := by
  rw [← not_iff_not, ← find?_eq_none_iff, find?_ofList, lastNamed?_eq_none_iff]
  simp

theorem size_ofList (ts : List Template) :
    (ofList ts).size = (ts.map (·.name)).toFinset.card := by
  have same : (ofList ts).names.toFinset = (ts.map (·.name)).toFinset := by
    ext name
    rw [List.mem_toFinset, List.mem_toFinset, mem_names_ofList]
  rw [← same, List.toFinset_card_of_nodup (sorted_ofList ts).nodup_names]
  exact (List.length_map ..).symm

theorem ofList_eq_ofList {ts us : List Template}
    (same : ∀ name, lastNamed? ts name = lastNamed? us name) : ofList ts = ofList us := by
  apply (sorted_ofList ts).ext (sorted_ofList us)
  intro name
  rw [find?_ofList, find?_ofList, same]

/-! ## Runs -/

/-- A run makes the registry of all templates that are registered in it. -/
theorem ofList_after (ts : List Template) (cs : List TemplateConfig) :
    (ofList ts).after cs = ofList (ts ++ cs.filterMap TemplateConfig.template?) := by
  induction cs generalizing ts with
  | nil => rw [List.filterMap_nil, List.append_nil]; rfl
  | cons c cs ih =>
    rw [after, List.foldl_cons, outcome_register_snd, List.filterMap_cons]
    cases c.template? with
    | none => exact ih ts
    | some t =>
      rw [Option.map_some, Option.getD_some, ← ofList_concat, ← after, ih, List.append_assoc]
      rfl

/-- A template that was registered under a name still found is as good as registered again. -/
theorem lastNamed?_again (ts us : List Template) {t : Template} (h : ∀ u ∈ us, u.name ≠ t.name)
    (name : String) :
    lastNamed? (ts ++ t :: (us ++ [t])) name = lastNamed? (ts ++ t :: us) name := by
  rw [← List.cons_append, ← List.append_assoc, lastNamed?_append, lastNamed?_singleton]
  by_cases here : t.name = name
  · subst here
    rw [if_pos rfl, lastNamed?_append, ← List.singleton_append, lastNamed?_append,
      lastNamed?_eq_none_iff.2 h, lastNamed?_singleton, if_pos rfl]
    rfl
  · rw [if_neg here]
    rfl

/-- After any run of registrations, some of which may fail, a registry that starts with none or any
templates, such as those of the catalog, has its names in the order of their bytes, and under each
of them the last template that was registered. -/
theorem last_writer_wins (ts : List Template) (cs : List TemplateConfig) :
    ((ofList ts).after cs).names.Pairwise (fun a b => Text.utf8 a < Text.utf8 b) ∧
    ((ofList ts).after cs).size =
      ((ts ++ cs.filterMap TemplateConfig.template?).map (·.name)).toFinset.card ∧
    (∀ name, ((ofList ts).after cs).get name =
      match lastNamed? (ts ++ cs.filterMap TemplateConfig.template?) name with
      | some t => .ok t
      | none => .error (.notFound name)) ∧
    (∀ c, (outcome (register c) ((ofList ts).after cs)).1 = .ok ⟨⟩ ↔ c.template?.isSome) ∧
    (∀ c name, name ≠ c.name →
      (outcome (register c) ((ofList ts).after cs)).2.find? name =
        ((ofList ts).after cs).find? name) ∧
    (∀ c e, (outcome (register c) ((ofList ts).after cs)).1 = .error e →
      (outcome (register c) ((ofList ts).after cs)).2 = (ofList ts).after cs) ∧
    (∀ c ds, (∀ d ∈ ds, d.name ≠ c.name) →
      ((ofList ts).after cs).after (c :: (ds ++ [c])) = ((ofList ts).after cs).after (c :: ds)) ∧
    ∀ ds ds' : List TemplateConfig, ds.Perm ds' →
      ((ds.filterMap TemplateConfig.template?).map (·.name)).Nodup →
        ((ofList ts).after cs).after ds = ((ofList ts).after cs).after ds' := by
  have made := ofList_after ts cs
  refine ⟨?_, ?_, fun name => ?_, fun c => outcome_register_fst_eq_ok_iff c _,
    fun c name other => ?_, fun c e h => ?_, fun c ds others => ?_, fun ds ds' perm distinct => ?_⟩
  · rw [made, names, List.pairwise_map]
    exact (sorted_ofList _).imp Text.utf8_lt_utf8
  · rw [made, size_ofList]
  · cases last : lastNamed? (ts ++ cs.filterMap TemplateConfig.template?) name with
    | none => simp only [made, get, find?_ofList, last]
    | some t => simp only [made, get, find?_ofList, last]
  · exact find?_outcome_register other _
  · exact outcome_register_of_error h
  · rw [made, ofList_after, ofList_after]
    apply ofList_eq_ofList
    intro name
    cases registered : c.template? with
    | none => simp only [List.filterMap_cons, List.filterMap_append, registered,
        List.filterMap_nil, List.append_nil]
    | some t =>
      simp only [List.filterMap_cons, List.filterMap_append, registered, List.filterMap_nil]
      apply lastNamed?_again
      intro u hu
      obtain ⟨d, hd, made⟩ := List.mem_filterMap.1 hu
      rw [TemplateConfig.name_of_template? made, TemplateConfig.name_of_template? registered]
      exact others d hd
  · rw [made, ofList_after, ofList_after]
    apply ofList_eq_ofList
    intro name
    rw [lastNamed?_append, lastNamed?_perm (perm.filterMap _) distinct, ← lastNamed?_append]

/-- A template of which a configuration says its name and how users are shown. -/
def userConfig (name : String) (user : FormatterConfig) : TemplateConfig where
  name := name
  defaultSystem := ""
  stopWords := []
  efficientEos := false
  replaceEos := false
  forceSystem := false
  injection := none
  user := some user
  assistant := none
  system := none
  function := none
  observation := none
  tools := none
  separator := none

/-- The slots of a content that follows a mark. -/
def marked (mark : String) : FormatterConfig :=
  .string [.text mark, .text (String.ofList Placeholder.content)]

/-- The built-in template of a name gives way to a registered one, a registration that fails changes
nothing, one that is made again later changes nothing, and two of different names may be swapped. -/
theorem last_writer_wins_chatml :
    (builtins.after [userConfig "chatml" (marked "Q: ")]).get "chatml" =
      .ok (Template.Spec.build
        { name := "chatml"
          user := some (.content [.text "Q: ", .text (String.ofList Placeholder.content)]) }) ∧
    (outcome (register (userConfig "silent" (.string [])))
      (builtins.after [userConfig "chatml" (marked "Q: ")])).2 =
        builtins.after [userConfig "chatml" (marked "Q: ")] ∧
    (builtins.after [userConfig "chatml" (marked "Q: ")]).after
        [userConfig "a" (marked "A: "), userConfig "b" (marked "B: "),
          userConfig "a" (marked "A: ")] =
      (builtins.after [userConfig "chatml" (marked "Q: ")]).after
        [userConfig "b" (marked "B: "), userConfig "a" (marked "A: ")] := by
  obtain ⟨-, -, found, -, -, failed, again, swapped⟩ :=
    last_writer_wins Catalog.templates [userConfig "chatml" (marked "Q: ")]
  refine ⟨(found "chatml").trans (by decide +kernel),
    failed (userConfig "silent" (.string [])) (.invalidFormatter .noPlaceholder) rfl, ?_⟩
  have once := again (userConfig "a" (marked "A: ")) [userConfig "b" (marked "B: ")] (by decide)
  exact once.trans (swapped _ _ (List.Perm.swap ..) (by decide))

end Registry

end Colloquy
