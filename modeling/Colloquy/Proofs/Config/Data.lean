import Colloquy.Config.Data
import Colloquy.Proofs.Toml.Trees

/-!
# Configurations read back from data

What is written of a configuration as data is read back, whether the data comes from a JSON text or
from a TOML document: a record keeps the fields that are set, each under its own name, and what is
left out stands for what is not set (`Config.ofJson?_toJson`).
-/

namespace Colloquy

/-! ## Fields -/

theorem mapM_map_eq_some {α β : Type} (read? : β → Option α) {write : α → β}
    (h : ∀ a, read? (write a) = some a) (l : List α) : (l.map write).mapM read? = some l := by
  induction l with
  | nil => rfl
  | cons a l ih => simp [List.mapM_cons, h, ih]

/-- The fields of a record that are set. -/
def present {α : Type} (fields : List (String × Option α)) : List (String × α) :=
  fields.filterMap fun m => m.2.map fun v => (m.1, v)

theorem lookup_present {α : Type} {fields : List (String × Option α)}
    (distinct : (fields.map Prod.fst).Nodup) (name : String) :
    (present fields).lookup name = (fields.lookup name).join := by
  unfold present
  induction fields with
  | nil => rfl
  | cons m fields ih =>
    obtain ⟨key, field⟩ := m
    rw [List.map_cons, List.nodup_cons] at distinct
    have others := ih distinct.2
    by_cases same : name = key
    · subst same
      cases field with
      | some v => simp
      | none => simpa [Toml.Tree.lookup_of_not_mem distinct.1] using others
    · have other : (name == key) = false := by simpa using same
      cases field with
      | some v => simpa [List.lookup_cons, other] using others
      | none => simpa [List.lookup_cons, other] using others

/-- What is written of a record are the fields that are set. -/
theorem lookup_ofMembers {members : List (String × Option Json)} {fields : List (String × Json)}
    (h : Json.ofMembers members = .obj fields) (distinct : (members.map Prod.fst).Nodup)
    (name : String) : fields.lookup name = (members.lookup name).join := by
  rw [← Json.obj.inj h]
  exact lookup_present distinct name

namespace Data

variable {α : Type} {read? : Json → Option α} {fields : List (String × Json)} {name : String}

theorem required?_of_lookup {v : Json} (h : fields.lookup name = some v) :
    required? read? fields name = read? v := by
  rw [required?, h, Option.bind_some]

theorem defaulted?_of_lookup {other : α} {v : Json} (h : fields.lookup name = some v) :
    defaulted? read? other fields name = read? v := by
  rw [defaulted?, h]

/-- A field that is written if it is set is read back. -/
theorem optional?_of_lookup (write : α → Json) (h : ∀ a, read? (write a) = some a)
    (ne : ∀ a, write a ≠ .null) {o : Option α} (ho : fields.lookup name = o.map write) :
    optional? read? fields name = some o := by
  rw [optional?, ho]
  cases o with
  | none => rfl
  | some a =>
    rw [Option.map_some]
    split
    · rename_i null
      exact absurd (Option.some.inj null) (ne a)
    · rename_i v _ written
      rw [← Option.some.inj written, h]
      rfl
    · rename_i nothing
      cases nothing

theorem texts?_map (l : List String) : texts? (.arr (l.map .str)) = some l :=
  mapM_map_eq_some Json.asStr? (fun _ => rfl) l

theorem length?_int (n : Nat) : length? (.int n) = some n := by
  rw [length?, if_pos (Int.natCast_nonneg n), Int.toNat_natCast]

end Data

/-! ## The parts of a configuration -/

theorem Slot.ofJson?_toJson (s : Slot) : Slot.ofJson? s.toJson = some s := by
  cases s <;> rfl

theorem Slot.listOfJson?_map (slots : List Slot) :
    Slot.listOfJson? (.arr (slots.map Slot.toJson)) = some slots :=
  mapM_map_eq_some Slot.ofJson? Slot.ofJson?_toJson slots

theorem SystemInjection.ofJson?_name (source : DataSource) (i : SystemInjection) :
    SystemInjection.ofJson? source (.str i.name) = some i := by
  cases i <;> rfl

theorem FormatterConfig.ofJson?_toJson (f : FormatterConfig) :
    FormatterConfig.ofJson? f.toJson = some f := by
  cases f with
  | empty slots => exact congrArg (Option.map empty) (Slot.listOfJson?_map slots)
  | string slots => exact congrArg (Option.map string) (Slot.listOfJson?_map slots)
  | function slots => exact congrArg (Option.map function) (Slot.listOfJson?_map slots)
  | tool format => rfl

theorem FormatterConfig.toJson_ne_null (f : FormatterConfig) : f.toJson ≠ .null := by
  cases f <;> exact Json.noConfusion

theorem TemplateConfig.ofJson?_toJson (source : DataSource) (c : TemplateConfig) :
    TemplateConfig.ofJson? source c.toJson = some c := by
  obtain ⟨fields, written⟩ : ∃ fields, c.toJson = .obj fields := ⟨_, rfl⟩
  have lookup := lookup_ofMembers written (show fieldNames.Nodup by decide)
  have formatter {name : String} {f : Option FormatterConfig}
      (h : fields.lookup name = f.map FormatterConfig.toJson) :
      Data.optional? FormatterConfig.ofJson? fields name = some f :=
    Data.optional?_of_lookup _ FormatterConfig.ofJson?_toJson FormatterConfig.toJson_ne_null h
  have injection : Data.optional? (SystemInjection.ofJson? source) fields "system_injection" =
      some c.injection :=
    Data.optional?_of_lookup _ (SystemInjection.ofJson?_name source) (fun _ => Json.noConfusion)
      (lookup "system_injection")
  rw [written]
  refine Option.bind_eq_some_iff.2 ⟨c.name, Data.required?_of_lookup (lookup "name"), ?_⟩
  refine Option.bind_eq_some_iff.2
    ⟨c.defaultSystem, Data.defaulted?_of_lookup (lookup "default_system"), ?_⟩
  refine Option.bind_eq_some_iff.2 ⟨c.stopWords,
    (Data.defaulted?_of_lookup (lookup "stop_words")).trans (Data.texts?_map _), ?_⟩
  refine Option.bind_eq_some_iff.2
    ⟨c.efficientEos, Data.defaulted?_of_lookup (lookup "efficient_eos"), ?_⟩
  refine Option.bind_eq_some_iff.2
    ⟨c.replaceEos, Data.defaulted?_of_lookup (lookup "replace_eos"), ?_⟩
  refine Option.bind_eq_some_iff.2
    ⟨c.forceSystem, Data.defaulted?_of_lookup (lookup "force_system"), ?_⟩
  refine Option.bind_eq_some_iff.2 ⟨c.injection, injection, ?_⟩
  refine Option.bind_eq_some_iff.2 ⟨c.user, formatter (lookup "user"), ?_⟩
  refine Option.bind_eq_some_iff.2 ⟨c.assistant, formatter (lookup "assistant"), ?_⟩
  refine Option.bind_eq_some_iff.2 ⟨c.system, formatter (lookup "system"), ?_⟩
  refine Option.bind_eq_some_iff.2 ⟨c.function, formatter (lookup "function"), ?_⟩
  refine Option.bind_eq_some_iff.2 ⟨c.observation, formatter (lookup "observation"), ?_⟩
  refine Option.bind_eq_some_iff.2 ⟨c.tools, formatter (lookup "tools"), ?_⟩
  refine Option.bind_eq_some_iff.2 ⟨c.separator, formatter (lookup "separator"), rfl⟩

/-- A configuration is read back from what is written of it. -/
theorem Config.ofJson?_toJson (source : DataSource) (c : Config) :
    Config.ofJson? source c.toJson = some c := by
  obtain ⟨fields, written⟩ : ∃ fields, c.toJson = .obj fields := ⟨_, rfl⟩
  have names : ["template", "cutoff_len", "reserved_label_len", "templates"].Nodup := by decide
  have lookup := lookup_ofMembers written names
  have template : Data.optional? Json.asStr? fields "template" = some c.template :=
    Data.optional?_of_lookup .str (fun _ => rfl) (fun _ => Json.noConfusion) (lookup "template")
  have found : fields.lookup "templates" = if c.templates.isEmpty then none else
      some (.arr (c.templates.map TemplateConfig.toJson)) := lookup "templates"
  have templates : Data.defaulted? (fun v => v.asArr?.bind (·.mapM (TemplateConfig.ofJson? source)))
      [] fields "templates" = some c.templates := by
    by_cases none : c.templates.isEmpty
    · rw [Data.defaulted?, found, if_pos none, List.isEmpty_iff.1 none]
    · rw [if_neg none] at found
      rw [Data.defaulted?_of_lookup found]
      exact mapM_map_eq_some _ (TemplateConfig.ofJson?_toJson source) c.templates
  unfold Config.ofJson?
  rw [written]
  simp only [Json.asObj?, Option.bind_eq_bind, Option.bind_some, template,
    Data.defaulted?_of_lookup (lookup "cutoff_len"),
    Data.defaulted?_of_lookup (lookup "reserved_label_len"), Data.length?_int, templates]
  rfl

end Colloquy
