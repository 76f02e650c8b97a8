import Colloquy.Command.Run
import Colloquy.Proofs.Config.Data
import Colloquy.Proofs.Config.Layers
import Colloquy.Proofs.Toml.Documents
import Colloquy.Proofs.Toml.Integers

/-!
# Configurations read back from TOML

A configuration whose lengths have 63 bits is written as a TOML document, any other is not
(`Config.toToml?_eq`), and the document is read back as the configuration
(`Config.parse?_of_toToml?`). The lengths that come from a file are never larger, since TOML cannot
write them, but the environment may set a cutoff that is. So what is loaded is shown as a text that
can be loaded again just if the environment does not (`shown_config_reloads_iff`).
-/

namespace Colloquy

/-! ## Fields that are set -/

theorem present_append {α : Type} (fields more : List (String × Option α)) :
    present (fields ++ more) = present fields ++ present more :=
  List.filterMap_append

theorem keys_present_sublist {α : Type} (fields : List (String × Option α)) :
    ((present fields).map Prod.fst).Sublist (fields.map Prod.fst) := by
  induction fields with
  | nil => exact .slnil
  | cons m fields ih =>
    obtain ⟨key, field⟩ := m
    cases field with
    | none => exact .cons key ih
    | some v => exact .cons_cons key ih

theorem forall_mem_present {α : Type} {P : String × α → Prop} {fields : List (String × Option α)}
    (h : ∀ m ∈ fields, ∀ v, m.2 = some v → P (m.1, v)) : ∀ e ∈ present fields, P e := by
  intro e mem
  obtain ⟨m, inFields, made⟩ := List.mem_filterMap.1 mem
  obtain ⟨v, set, rfl⟩ := Option.map_eq_some_iff.1 made
  exact h m inFields v set

namespace Toml

theorem entriesToJson_present (fields : List (String × Option Toml)) :
    entriesToJson (present fields) = present (fields.map fun m => (m.1, m.2.map toJson)) := by
  induction fields with
  | nil => rfl
  | cons m fields ih =>
    obtain ⟨key, field⟩ := m
    cases field with
    | none => exact ih
    | some v => exact congrArg ((key, v.toJson) :: ·) ih

theorem itemsToJson_eq_map (items : List Toml) : itemsToJson items = items.map toJson := by
  induction items with
  | nil => rfl
  | cons v items ih => rw [itemsToJson, List.map_cons, ih]

theorem isInt64_natCast_iff (n : Nat) : isInt64 n = true ↔ n < 0x8000000000000000 := by
  simp only [isInt64, Bool.and_eq_true, decide_eq_true_eq]
  omega

/-- A value that is read back as it is written in a line of its own. -/
structure Plainly (v : Toml) : Prop where
  noHeaders : v.hasHeaders = false
  inline : IsInline maxNesting v

theorem plainly_str (s : String) : Plainly (.str s) := ⟨rfl, .str s⟩

theorem plainly_int {n : Int} (inside : isInt64 n = true) : Plainly (.int n) := ⟨rfl, .int inside⟩

theorem plainly_bool (b : Bool) : Plainly (.bool b) := ⟨rfl, .bool b⟩

theorem plainly_strs (l : List String) : Plainly (.arr (l.map .str)) := by
  constructor
  · cases l <;> rfl
  · refine .arr fun v mem => ?_
    obtain ⟨s, -, rfl⟩ := List.mem_map.1 mem
    exact .str s

/-- A value that is read back as it is written under headers. -/
structure UnderHeaders (room : Nat) (v : Toml) : Prop where
  hasHeaders : v.hasHeaders = true
  table : ∀ entries, v = .table entries → Written room entries
  elements : ∀ items, v = .arr items → ∀ entries, .table entries ∈ items → Written room entries

theorem underHeaders_table {room : Nat} {entries : List (String × Toml)}
    (h : Written room entries) : UnderHeaders room (.table entries) where
  hasHeaders := rfl
  table _ same := by cases same; exact h
  elements _ same := by cases same

/-- The set fields of a record are read back if the fields under headers come last. -/
theorem written_present {room : Nat} (plain headers : List (String × Option Toml))
    (bare : ∀ key ∈ (plain ++ headers).map Prod.fst, isBareKey key = true)
    (distinct : ((plain ++ headers).map Prod.fst).Nodup)
    (plainly : ∀ m ∈ plain, ∀ v, m.2 = some v → Plainly v)
    (under : ∀ m ∈ headers, ∀ v, m.2 = some v → UnderHeaders room v) :
    Written (room + 1) (present (plain ++ headers)) := by
  have keys := keys_present_sublist (plain ++ headers)
  have lines := forall_mem_present (P := fun e => Plainly e.2) plainly
  have headers_under := forall_mem_present (P := fun e => UnderHeaders room e.2) under
  rw [present_append] at keys ⊢
  refine .intro (fun e mem => bare _ (keys.subset (List.mem_map_of_mem mem)))
    (distinct.sublist keys) (fun e mem => ⟨(lines e mem).noHeaders, (lines e mem).inline⟩)
    (fun e mem => (headers_under e mem).hasHeaders)
    (fun k entries mem => (headers_under _ mem).table entries rfl)
    (fun k items mem => (headers_under _ mem).elements items rfl)

end Toml

/-! ## Configurations as TOML values -/

open Toml (IsInline Written Plainly UnderHeaders hasHeaders)

namespace Slot

/-- A slot as a TOML value. -/
def toToml : Slot → Toml
  | .text s => .table [("text", .str s)]
  | .token s => .table [("token", .str s)]
  | .bos => .str "bos"
  | .eos => .str "eos"

theorem toJson_toToml (s : Slot) : s.toToml.toJson = s.toJson := by
  cases s <;> rfl

theorem isInline_toToml (room : Nat) (s : Slot) : IsInline (room + 1) s.toToml := by
  cases s with
  | text s => exact .table (by simp; decide) (by simp) (by simpa using .str s)
  | token s => exact .table (by simp; decide) (by simp) (by simpa using .str s)
  | bos => exact .str "bos"
  | eos => exact .str "eos"

theorem written_of_toToml_eq_table (room : Nat) {s : Slot} {entries : List (String × Toml)}
    (h : s.toToml = .table entries) : Written (room + 1) entries := by
  have single {key : String} (bare : Toml.isBareKey key = true) (t : String) :
      Written (room + 1) [(key, .str t)] :=
    Toml.written_present [(key, some (.str t))] [] (by simpa using bare) (by simp)
      (by simpa using Toml.plainly_str t) (by simp)
  cases s with
  | text s =>
    cases h
    exact single (by decide) s
  | token s =>
    cases h
    exact single (by decide) s
  | bos => cases h
  | eos => cases h

theorem underHeaders_slots (room : Nat) {slots : List Slot}
    (h : hasHeaders (.arr (slots.map toToml)) = true) :
    UnderHeaders (room + 1) (.arr (slots.map toToml)) where
  hasHeaders := h
  table entries h := by cases h
  elements items h entries mem := by
    cases h
    obtain ⟨s, -, made⟩ := List.mem_map.1 mem
    exact written_of_toToml_eq_table room made

theorem isInline_slots (room : Nat) (slots : List Slot) :
    IsInline (room + 2) (.arr (slots.map toToml)) := by
  refine .arr fun v mem => ?_
  obtain ⟨s, -, rfl⟩ := List.mem_map.1 mem
  exact isInline_toToml room s

end Slot

namespace FormatterConfig

/-- The fields of a formatter in TOML. -/
def entries : FormatterConfig → List (String × Toml)
  | empty slots => [("kind", .str "empty"), ("slots", .arr (slots.map Slot.toToml))]
  | string slots => [("kind", .str "string"), ("slots", .arr (slots.map Slot.toToml))]
  | function slots => [("kind", .str "function"), ("slots", .arr (slots.map Slot.toToml))]
  | tool format => [("kind", .str "tool"), ("format", .str format)]

theorem toJson_entries (f : FormatterConfig) : (Toml.table f.entries).toJson = f.toJson := by
  have slots_eq (slots : List Slot) :
      Toml.itemsToJson (slots.map Slot.toToml) = slots.map Slot.toJson := by
    rw [Toml.itemsToJson_eq_map, List.map_map]
    exact List.map_congr_left fun s _ => s.toJson_toToml
  cases f <;> simp [entries, toJson, Toml.toJson, Toml.entriesToJson, slots_eq]

theorem written_entries (room : Nat) (f : FormatterConfig) : Written (room + 2) f.entries := by
  have slotted (kind : String) (slots : List Slot) :
      Written (room + 2) [("kind", .str kind), ("slots", .arr (slots.map Slot.toToml))] := by
    have distinct : ["kind", "slots"].Nodup := by decide
    have bare : ∀ key ∈ ["kind", "slots"], Toml.isBareKey key = true := by decide
    cases headers : hasHeaders (.arr (slots.map Slot.toToml)) with
    | true =>
      refine Toml.written_present [("kind", some (.str kind))]
        [("slots", some (.arr (slots.map Slot.toToml)))] bare distinct
        (by simpa using Toml.plainly_str kind) ?_
      simpa using Slot.underHeaders_slots room headers
    | false =>
      refine Toml.written_present
        [("kind", some (.str kind)), ("slots", some (.arr (slots.map Slot.toToml)))] [] bare
        distinct ?_ (by simp)
      -- Slots are tables in an array, so two of the levels that may nest are enough.
      simpa using ⟨Toml.plainly_str kind, headers, Slot.isInline_slots 77 slots⟩
  cases f with
  | empty slots => exact slotted "empty" slots
  | string slots => exact slotted "string" slots
  | function slots => exact slotted "function" slots
  | tool format =>
    have distinct : ["kind", "format"].Nodup := by decide
    have bare : ∀ key ∈ ["kind", "format"], Toml.isBareKey key = true := by decide
    refine Toml.written_present [("kind", some (.str "tool")), ("format", some (.str format))] []
      bare distinct ?_ (by simp)
    simpa using ⟨Toml.plainly_str "tool", Toml.plainly_str format⟩

end FormatterConfig

namespace TemplateConfig

/-- The fields of a template that are written in lines of their own. -/
def plainFields (c : TemplateConfig) : List (String × Option Toml) := [
  ("name", some (.str c.name)),
  ("default_system", some (.str c.defaultSystem)),
  ("stop_words", some (.arr (c.stopWords.map .str))),
  ("efficient_eos", some (.bool c.efficientEos)),
  ("replace_eos", some (.bool c.replaceEos)),
  ("force_system", some (.bool c.forceSystem)),
  ("system_injection", c.injection.map fun i => .str i.name)]

/-- The formatters of a template, which are written under headers. -/
def headerFields (c : TemplateConfig) : List (String × Option FormatterConfig) := [
  ("user", c.user), ("assistant", c.assistant), ("system", c.system), ("function", c.function),
  ("observation", c.observation), ("tools", c.tools), ("separator", c.separator)]

/-- The fields of a template in TOML. -/
def entries (c : TemplateConfig) : List (String × Toml) :=
  present (c.plainFields ++ c.headerFields.map fun m => (m.1, m.2.map fun f => .table f.entries))

theorem toJson_entries (c : TemplateConfig) : (Toml.table c.entries).toJson = c.toJson := by
  have items : Toml.itemsToJson (c.stopWords.map .str) = c.stopWords.map .str := by
    rw [Toml.itemsToJson_eq_map, List.map_map]
    rfl
  have formatter (f : Option FormatterConfig) :
      (f.map fun f => Toml.table f.entries).map Toml.toJson = f.map FormatterConfig.toJson := by
    rw [Option.map_map]
    exact congrArg (Option.map · f) (funext FormatterConfig.toJson_entries)
  rw [entries, Toml.toJson, Toml.entriesToJson_present]
  simp only [plainFields, headerFields, List.map_cons, List.map_nil, List.cons_append,
    List.nil_append, formatter, Option.map_some, Toml.toJson, items, Option.map_map]
  rfl

theorem written_entries (room : Nat) (c : TemplateConfig) : Written (room + 3) c.entries := by
  have names : ∀ key ∈ fieldNames, Toml.isBareKey key = true := by decide
  have distinct : fieldNames.Nodup := by decide
  refine Toml.written_present c.plainFields _ names distinct ?_ ?_
  · simp [plainFields, Toml.plainly_str, Toml.plainly_bool, Toml.plainly_strs]
  · intro m mem v set
    obtain ⟨field, -, rfl⟩ := List.mem_map.1 mem
    obtain ⟨f, -, rfl⟩ := Option.map_eq_some_iff.1 set
    exact Toml.underHeaders_table (f.written_entries room)

end TemplateConfig

namespace Config

/-- The fields of a configuration that are written in lines of their own. -/
def plainFields (c : Config) : List (String × Option Toml) := [
  ("template", c.template.map .str),
  ("cutoff_len", some (.int c.budget.cutoff)),
  ("reserved_label_len", some (.int c.budget.reserved))]

/-- The templates of a configuration, which are written under headers. -/
def headerFields (c : Config) : List (String × Option Toml) := [
  ("templates", if c.templates.isEmpty then none else
    some (.arr (c.templates.map fun t => .table t.entries)))]

/-- The fields of a configuration in TOML. -/
def entries (c : Config) : List (String × Toml) :=
  present (c.plainFields ++ c.headerFields)

theorem toJson_entries (c : Config) : (Toml.table c.entries).toJson = c.toJson := by
  have items : Toml.itemsToJson (c.templates.map fun t => .table t.entries) =
      c.templates.map TemplateConfig.toJson := by
    rw [Toml.itemsToJson_eq_map, List.map_map]
    exact List.map_congr_left fun t _ => t.toJson_entries
  rw [entries, Toml.toJson, Toml.entriesToJson_present]
  simp only [plainFields, headerFields, List.map_cons, List.map_nil, List.cons_append,
    List.nil_append, Option.map_some, Toml.toJson, Option.map_map,
    apply_ite (Option.map Toml.toJson), Option.map_none, items]
  rfl

theorem written_entries (room : Nat) {c : Config} (cutoff : c.budget.cutoff < 0x8000000000000000)
    (reserved : c.budget.reserved < 0x8000000000000000) : Written (room + 4) c.entries := by
  have names : ∀ key ∈ ["template", "cutoff_len", "reserved_label_len", "templates"],
      Toml.isBareKey key = true := by decide
  have distinct : ["template", "cutoff_len", "reserved_label_len", "templates"].Nodup := by decide
  refine Toml.written_present c.plainFields _ names distinct ?_ ?_
  · have lengths := And.intro (Toml.plainly_int ((Toml.isInt64_natCast_iff _).2 cutoff))
      (Toml.plainly_int ((Toml.isInt64_natCast_iff _).2 reserved))
    simpa [plainFields, Toml.plainly_str] using lengths
  · intro m mem v set
    obtain rfl := List.mem_singleton.1 mem
    obtain ⟨nonempty, made⟩ := Option.ite_none_left_eq_some.1 set
    cases made
    refine ⟨by simpa [hasHeaders, Toml.isTable] using nonempty, fun _ same => (by cases same), ?_⟩
    intro items same entries inItems
    cases same
    obtain ⟨t, -, made⟩ := List.mem_map.1 inItems
    cases made
    exact t.written_entries room

theorem lengths_mem_toJson {c : Config} {members : List (String × Json)}
    (h : c.toJson = .obj members) :
    ("cutoff_len", .int c.budget.cutoff) ∈ members ∧
      ("reserved_label_len", .int c.budget.reserved) ∈ members := by
  cases h
  simp

/-- A configuration is written as a document just if its lengths have 63 bits. -/
theorem toToml?_eq (c : Config) : c.toToml? =
    if c.budget.cutoff < 0x8000000000000000 ∧ c.budget.reserved < 0x8000000000000000 then
      some (Toml.write c.entries) else none := by
  unfold toToml?
  by_cases small : c.budget.cutoff < 0x8000000000000000 ∧ c.budget.reserved < 0x8000000000000000
  · rw [if_pos small, ← toJson_entries, (written_entries 0 small.1 small.2).ofJson?_toJson]
  · rw [if_neg small]
    obtain ⟨members, data⟩ : ∃ members, c.toJson = .obj members := ⟨_, rfl⟩
    cases written : Toml.entriesOfJson? members with
    | none => rw [data, Toml.ofJson?, written]; rfl
    | some entries =>
      have inside {key : String} {n : Nat} (mem : (key, .int n) ∈ members) :
          n < 0x8000000000000000 := by
        obtain ⟨v, read⟩ := Toml.exists_ofJson?_of_mem written _ mem
        rw [Toml.ofJson?] at read
        exact (Toml.isInt64_natCast_iff n).1 (Option.ite_none_right_eq_some.1 read).1
      obtain ⟨cutoff, reserved⟩ := lengths_mem_toJson data
      exact absurd ⟨inside cutoff, inside reserved⟩ small

/-- What is written of a configuration is read back as this configuration, whatever blank lines
follow. -/
theorem parse?_of_toToml? {c : Config} {text : String} (h : c.toToml? = some text) {tail : String}
    (blank : Toml.ReadsAs tail.toList []) : parse? (text ++ tail) = some c := by
  rw [toToml?_eq] at h
  obtain ⟨small, written⟩ := Option.ite_none_right_eq_some.1 h
  -- The deepest header has three parts: a template, its formatter, and the slots of that.
  rw [← Option.some.inj written, parse?,
    Toml.parse?_write_append (written_entries 75 small.1 small.2) blank, Option.bind_some,
    toJson_entries, ofJson?_toJson]

/-- What is written of a configuration in which nothing is wrong is loaded as this configuration. -/
theorem loadFrom_of_toToml? {c : Config} {text : String} (written : c.toToml? = some text)
    (checked : c.check = .ok ()) {files : Files} {path tail : String}
    (h : files path = .text (text ++ tail)) (blank : Toml.ReadsAs tail.toList []) :
    loadFrom files path = .ok c := by
  rw [loadFrom, h]
  simp only [parse?_of_toToml? written blank, checked]

/-! ## Lengths that are loaded -/

theorem cutoff_lt_of_parse? {s : String} {c : Config} (h : parse? s = some c) :
    c.budget.cutoff < 0x8000000000000000 := by
  obtain ⟨t, read, data⟩ := Option.bind_eq_some_iff.1 h
  simp only [ofJson?, Option.bind_eq_bind, Option.bind_eq_some_iff] at data
  obtain ⟨fields, object, template, -, cutoff, found, reserved, -, templates, -, made⟩ := data
  cases made
  have members : t.toJson = .obj fields := by
    unfold Json.asObj? at object
    split at object
    · rename_i same
      rw [same, Option.some.inj object]
    · cases object
  unfold Data.defaulted? at found
  split at found
  · rename_i v lookup
    obtain ⟨before, after, parts, -⟩ := List.lookup_eq_some_iff.1 lookup
    unfold Data.length? at found
    split at found
    · rename_i n
      have mem : ("cutoff_len", Json.int n) ∈ fields := by
        rw [parts]
        simp
      have inside := Toml.isInt64_of_parse? read members mem
      obtain ⟨nonneg, made⟩ := Option.ite_none_right_eq_some.1 found
      cases made
      rw [← Int.toNat_of_nonneg nonneg] at inside
      exact (Toml.isInt64_natCast_iff _).1 inside
    · cases found
  · cases found
    exact (by decide : Budget.standard.cutoff < 0x8000000000000000)

theorem cutoff_lt_of_loadFrom {files : Files} {path : String} {c : Config}
    (h : loadFrom files path = .ok c) : c.budget.cutoff < 0x8000000000000000 := by
  unfold loadFrom at h
  split at h
  · cases h
    decide
  · cases h
  · split at h
    · cases h
    · split at h
      · cases h
        exact cutoff_lt_of_parse? ‹_›
      · cases h

end Config

/-- The cutoff that the environment gives, where no configuration file is chosen, has 63 bits. -/
def Environment.CutoffFits (env : Environment) (config : Option String) : Prop :=
  config = none → ∀ raw n, env.cutoff = some raw → readLength? raw = some n → n < 0x8000000000000000

theorem Config.cutoff_lt_iff_of_load {files : Files} {env : Environment} {config : Option String}
    {c : Config} (h : Config.load files env config = .ok c) :
    c.budget.cutoff < 0x8000000000000000 ↔ env.CutoffFits config := by
  cases config with
  | some path => exact iff_of_true (cutoff_lt_of_loadFrom h) fun none => by cases none
  | none =>
    obtain ⟨c', loaded, overridden⟩ := bind_eq_ok_iff.1 h
    have before := cutoff_lt_of_loadFrom loaded
    replace overridden := mapError_eq_ok_iff.1 overridden
    unfold overrideCutoff at overridden
    split at overridden
    · rename_i raw given
      split at overridden
      · rename_i n length
        obtain ⟨⟨⟩, -, made⟩ := bind_eq_ok_iff.1 overridden
        cases made
        refine ⟨fun small _ raw' n' given' length' => ?_, fun fits => fits rfl raw n given length⟩
        rw [given] at given'
        cases given'
        rw [length] at length'
        cases length'
        exact small
      · cases overridden
    · rename_i absent
      cases overridden
      refine iff_of_true ?_ fun _ raw n given => ?_
      · cases env.template <;> exact before
      · rw [absent] at given
        cases given

/-- A configuration that is loaded is shown as a text that is loaded as the same configuration from
whatever file, with or without the line break that ends it, unless the environment gives a cutoff
that TOML cannot write. Then it cannot be shown. -/
theorem shown_config_reloads_iff {files : Files} {env : Environment} {config : Option String}
    {c : Config} (h : Config.load files env config = .ok c) :
    (∃ text, c.toToml? = some text ∧ Command.runShowConfig files env config = .ok (text ++ "\n") ∧
      ∀ shown ∈ [text, text ++ "\n"], ∀ (files' : Files) (path : String),
        files' path = .text shown → Config.loadFrom files' path = .ok c) ↔
      env.CutoffFits config := by
  rw [← Config.cutoff_lt_iff_of_load h]
  constructor
  · rintro ⟨text, written, -⟩
    rw [Config.toToml?_eq] at written
    exact (Option.ite_none_right_eq_some.1 written).1.1
  · intro cutoff
    have reserved := Nat.lt_of_le_of_lt (Config.valid_of_load h).reserved_le cutoff
    have written := (Config.toToml?_eq c).trans (if_pos ⟨cutoff, reserved⟩)
    have checked := Config.check_of_load h
    refine ⟨_, written, ?_, ?_⟩
    · refine bind_eq_ok_iff.2 ⟨c, mapError_eq_ok_iff.2 h, ?_⟩
      rw [written]
      rfl
    · rw [List.forall_mem_cons, List.forall_mem_singleton]
      refine ⟨fun files' path found => ?_, fun files' path found => ?_⟩
      · rw [← String.append_empty (s := Toml.write c.entries)] at found
        exact Config.loadFrom_of_toToml? written checked found Toml.readsAs_nil
      · exact Config.loadFrom_of_toToml? written checked found Toml.readsAs_break

/-- A configuration file with a template of its own. -/
def chatterText : String :=
  "cutoff_len = 64\n[[templates]]\nname = \"chatter\"\nstop_words = [\"<|end|>\"]\n" ++
    "[templates.user]\nkind = \"string\"\n" ++
    "slots = [\"bos\", \x7b text = \"\x7b\x7bcontent\x7d\x7d\" \x7d]\n"

/-- The configuration in this file. -/
def chatter : Config where
  template := none
  budget := ⟨64, 1⟩
  templates := [{
    name := "chatter"
    defaultSystem := ""
    stopWords := ["<|end|>"]
    efficientEos := false
    replaceEos := false
    forceSystem := false
    injection := none
    user := some (.string [.bos, .text "\x7b\x7bcontent\x7d\x7d"])
    assistant := none
    system := none
    function := none
    observation := none
    tools := none
    separator := none }]

theorem shown_config_reloads_iff_chatter :
    Config.load (fun _ => .text chatterText) bareEnvironment none = .ok chatter ∧
      ∃ text, chatter.toToml? = some text ∧
        ∀ shown ∈ [text, text ++ "\n"], ∀ (files' : Files) (path : String),
          files' path = .text shown → Config.loadFrom files' path = .ok chatter := by
  have loaded : Config.load (fun _ => .text chatterText) bareEnvironment none = .ok chatter := by
    decide +kernel
  obtain ⟨text, written, -, reloads⟩ := (shown_config_reloads_iff loaded).2 fun _ raw n given => by
    cases given
  exact ⟨loaded, text, written, reloads⟩

/-- A cutoff of the environment that has 64 bits is loaded, but cannot be shown. -/
theorem not_reloads_of_load :
    ¬ ∀ (files : Files) (env : Environment) (config : Option String) (c : Config),
      Config.load files env config = .ok c → ∃ text, c.toToml? = some text ∧
        ∀ (files' : Files) (path : String), files' path = .text text →
          Config.loadFrom files' path = .ok c := by
  intro all
  have loaded : Config.load (fun _ => .missing)
      { bareEnvironment with cutoff := some "9223372036854775808" } none =
        .ok ⟨none, ⟨9223372036854775808, 1⟩, []⟩ := by decide +kernel
  obtain ⟨text, written, -⟩ := all _ _ _ _ loaded
  rw [Config.toToml?_eq] at written
  exact absurd (Option.ite_none_right_eq_some.1 written).1.1 (Nat.lt_irrefl _)

end Colloquy
