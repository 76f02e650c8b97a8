import Colloquy.Proofs.Config.Layers
import Colloquy.Proofs.Text

/-!
# Valid configurations

A configuration is valid if its budget is, its templates have names to tell them apart by, and each
template that takes a stop word as its end has one (`Config.Valid`). This is what the checks find
out (`Config.check_eq_ok_iff_valid`).

Hence loading gives valid configurations only, and takes every valid one. The environment can spoil
a valid one with its cutoff in three ways (`Config.CutoffFault`), and never with its template, which
changes nothing else (`Config.loads_just_valid`).
-/

namespace Colloquy

/-! ## Templates -/

namespace TemplateConfig

/-- A template whose name is more than blanks, and that has a stop word if it asks for one. -/
structure Valid (t : TemplateConfig) : Prop where
  name_shows : ∃ c ∈ t.name.toList, Text.isBlank c = false
  stopWords_ne_nil : t.replaceEos = true → t.stopWords ≠ []

theorem trim_name_eq_nil_iff {t : TemplateConfig} :
    Text.trim t.name.toList = [] ↔ ¬ ∃ c ∈ t.name.toList, Text.isBlank c = false := by
  constructor
  · rintro blank ⟨c, hc, shows⟩
    exact Text.trimBy_ne_nil hc shows blank
  · intro blank
    by_contra ne
    obtain ⟨x, y, whole, -, -⟩ := Text.exists_eq_trimBy Text.isBlank t.name.toList
    obtain ⟨c, rest, kept⟩ := List.exists_cons_of_ne_nil ne
    have kept' : Text.trimBy Text.isBlank t.name.toList = c :: rest := kept
    refine blank ⟨c, ?_, (Text.bare_trimBy ne).head c ?_⟩
    · rw [whole, kept']
      simp
    · rw [kept']
      rfl

theorem check_eq_ok_iff {seen : List String} {t : TemplateConfig} :
    t.check seen = .ok () ↔ t.Valid ∧ t.name ∉ seen := by
  unfold check
  by_cases blank : Text.trim t.name.toList = []
  · rw [if_pos (List.isEmpty_iff.2 blank)]
    exact iff_of_false (by simp) fun h => trim_name_eq_nil_iff.1 blank h.1.name_shows
  rw [if_neg (by simpa using blank)]
  have shows : ∃ c ∈ t.name.toList, Text.isBlank c = false := by
    rwa [trim_name_eq_nil_iff, not_not] at blank
  by_cases known : t.name ∈ seen
  · rw [if_pos known]
    exact iff_of_false (by simp) fun h => h.2 known
  rw [if_neg known]
  by_cases stopless : t.replaceEos = true ∧ t.stopWords = []
  · rw [if_pos (by simpa using stopless)]
    exact iff_of_false (by simp) fun h => h.1.stopWords_ne_nil stopless.1 stopless.2
  · rw [if_neg (by simpa using stopless)]
    exact iff_of_true rfl ⟨⟨shows, fun asks none => stopless ⟨asks, none⟩⟩, known⟩

/-- The names that were seen are those of the templates before, so that a name is found again just
if it stands twice. -/
theorem checkAll_eq_ok_iff {seen : List String} {templates : List TemplateConfig} :
    checkAll seen templates = .ok () ↔
      (∀ t ∈ templates, t.Valid) ∧ (templates.map (·.name)).Nodup ∧
        ∀ t ∈ templates, t.name ∉ seen := by
  induction templates generalizing seen with
  | nil => simp [checkAll]
  | cons t rest ih =>
    have step : checkAll seen (t :: rest) = .ok () ↔
        t.check seen = .ok () ∧ checkAll (t.name :: seen) rest = .ok () := by
      rw [checkAll, bind_eq_ok_iff]
      exact ⟨fun ⟨(), here, later⟩ => ⟨here, later⟩, fun ⟨here, later⟩ => ⟨(), here, later⟩⟩
    rw [step, check_eq_ok_iff, ih, List.map_cons, List.nodup_cons, List.forall_mem_cons,
      List.forall_mem_cons]
    constructor
    · rintro ⟨⟨valid, fresh⟩, valids, distinct, others⟩
      refine ⟨⟨valid, valids⟩, ⟨fun again => ?_, distinct⟩, fresh, fun u hu seen => ?_⟩
      · obtain ⟨u, hu, same⟩ := List.mem_map.1 again
        exact others u hu (same ▸ List.mem_cons_self ..)
      · exact others u hu (List.mem_cons_of_mem _ seen)
    · rintro ⟨⟨valid, valids⟩, ⟨once, distinct⟩, fresh, others⟩
      refine ⟨⟨valid, fresh⟩, valids, distinct, fun u hu known => ?_⟩
      rcases List.mem_cons.1 known with same | seen
      · exact once (same ▸ List.mem_map_of_mem hu)
      · exact others u hu seen

end TemplateConfig

/-! ## Configurations -/

namespace Config

/-- A configuration with a valid budget and valid templates under different names. -/
structure Valid (c : Config) : Prop where
  budget : c.budget.Valid
  templates : ∀ t ∈ c.templates, t.Valid
  names_nodup : (c.templates.map (·.name)).Nodup

theorem check_eq_ok_iff_valid {c : Config} : c.check = .ok () ↔ c.Valid := by
  rw [check_eq_ok_iff, TemplateConfig.checkAll_eq_ok_iff]
  constructor
  · rintro ⟨budget, templates, names, -⟩
    exact ⟨budget, templates, names⟩
  · rintro ⟨budget, templates, names⟩
    exact ⟨budget, templates, names, by simp⟩

theorem loadFrom_of_parse? {files : Files} {path text : String} {c : Config}
    (found : files path = .text text) (read : parse? text = some c) (valid : c.Valid) :
    loadFrom files path = .ok c := by
  simp [loadFrom, found, read, check_eq_ok_iff_valid.2 valid]

end Config

/-! ## The cutoff of the environment -/

/-- Decimal digits write a length if their number has at most 64 bits. -/
def DigitsWrite (digits : List Char) (n : Nat) : Prop :=
  digits ≠ [] ∧ (∀ c ∈ digits, c.isDigit = true) ∧ Json.readDigits 0 digits = n ∧
    n < 0x10000000000000000

/-- A text writes a length in decimal digits, with a plus in front or without. -/
def WritesLength (raw : String) (n : Nat) : Prop :=
  DigitsWrite raw.toList n ∨ ∃ digits, raw.toList = '+' :: digits ∧ DigitsWrite digits n

theorem not_digitsWrite_plus {rest : List Char} {n : Nat} : ¬ DigitsWrite ('+' :: rest) n := by
  rintro ⟨-, all, -⟩
  exact absurd (all '+' (List.mem_cons_self ..)) (by decide)

/-- The digits are what a plus in front leaves, and they are taken for what they write. -/
theorem readLength?_cases (raw : String) : ∃ digits : List Char,
    readLength? raw = (if digits = [] ∨ !digits.all Char.isDigit then none
      else if Json.readDigits 0 digits < 0x10000000000000000 then some (Json.readDigits 0 digits)
      else none) ∧ ∀ n, WritesLength raw n ↔ DigitsWrite digits n := by
  by_cases signed : ∃ rest, raw.toList = '+' :: rest
  · obtain ⟨rest, signed⟩ := signed
    refine ⟨rest, ?_, fun n => ?_⟩
    · rw [readLength?, signed]
      rfl
    · unfold WritesLength
      rw [signed, or_iff_right not_digitsWrite_plus]
      simp
  · refine ⟨raw.toList, ?_, fun n => ?_⟩
    · rw [readLength?]
      split
      · exact absurd ⟨_, ‹_›⟩ signed
      · rfl
    · exact or_iff_left fun ⟨rest, here, _⟩ => signed ⟨rest, here⟩

theorem readLength?_eq_some_iff {raw : String} {n : Nat} :
    readLength? raw = some n ↔ WritesLength raw n := by
  obtain ⟨digits, read, writes⟩ := readLength?_cases raw
  rw [read, writes]
  by_cases wrong : digits = [] ∨ !digits.all Char.isDigit
  · rw [if_pos wrong]
    refine iff_of_false (by simp) ?_
    rintro ⟨ne, all, -⟩
    exact wrong.elim ne fun other => by simp [List.all_eq_true.2 all] at other
  · rw [if_neg wrong, Option.ite_none_right_eq_some, Option.some.injEq]
    rw [not_or, Bool.not_eq_true, Bool.not_eq_false', List.all_eq_true] at wrong
    constructor
    · rintro ⟨bound, rfl⟩
      exact ⟨wrong.1, wrong.2, rfl, bound⟩
    · rintro ⟨-, -, rfl, bound⟩
      exact ⟨bound, rfl⟩

theorem WritesLength.eq {raw : String} {m n : Nat} (hm : WritesLength raw m)
    (hn : WritesLength raw n) : m = n :=
  Option.some.inj ((readLength?_eq_some_iff.2 hm).symm.trans (readLength?_eq_some_iff.2 hn))

namespace Config

/-- What is wrong with a cutoff of the environment, where responses are kept room for. -/
inductive CutoffFault (reserved : Nat) (raw : String) : ConfigInvalid → Prop
  | noLength (h : ∀ n, ¬ WritesLength raw n) : CutoffFault reserved raw (.badCutoff raw)
  | zero (h : WritesLength raw 0) : CutoffFault reserved raw .zeroCutoff
  | belowReserved {n : Nat} (h : WritesLength raw n) (pos : 0 < n) (below : n < reserved) :
    CutoffFault reserved raw .reservedAboveCutoff

/-- A cutoff that writes a length is put in and checked with the rest, which is valid already. -/
theorem overrideCutoff_of_writesLength {c : Config} (valid : c.Valid) {raw : String} {n : Nat}
    (writes : WritesLength raw n) :
    c.overrideCutoff (some raw) =
      if n = 0 then .error .zeroCutoff
      else if n < c.budget.reserved then .error .reservedAboveCutoff
      else .ok { c with budget := { c.budget with cutoff := n } } := by
  obtain ⟨-, templates⟩ := check_eq_ok_iff.1 (check_eq_ok_iff_valid.2 valid)
  have checked : c.overrideCutoff (some raw) = do
      check { c with budget := { c.budget with cutoff := n } }
      return { c with budget := { c.budget with cutoff := n } } := by
    rw [overrideCutoff, readLength?_eq_some_iff.2 writes]
  rw [checked, check, templates]
  split
  · rfl
  · split <;> rfl

theorem overrideCutoff_eq_error_iff {c : Config} (valid : c.Valid) {raw : String}
    {what : ConfigInvalid} :
    c.overrideCutoff (some raw) = .error what ↔ CutoffFault c.budget.reserved raw what := by
  by_cases writes : ∃ n, WritesLength raw n
  · obtain ⟨n, writes⟩ := writes
    rw [overrideCutoff_of_writesLength valid writes]
    constructor
    · intro refused
      split at refused
      · subst n
        cases refused
        exact .zero writes
      · split at refused
        · cases refused
          exact .belowReserved writes (Nat.pos_of_ne_zero ‹_›) ‹_›
        · cases refused
    · rintro (none | zero | ⟨writes', pos, below⟩)
      · exact absurd writes (none n)
      · rw [if_pos (writes.eq zero)]
      · obtain rfl := writes.eq writes'
        rw [if_neg (Nat.ne_of_gt pos), if_pos below]
  · have unread : readLength? raw = none := by
      cases read : readLength? raw with
      | none => rfl
      | some n => exact absurd ⟨n, readLength?_eq_some_iff.1 read⟩ writes
    rw [overrideCutoff, unread]
    constructor
    · intro refused
      cases refused
      exact .noLength (not_exists.1 writes)
    · rintro (- | zero | ⟨writes', -, -⟩)
      · rfl
      · exact absurd ⟨0, zero⟩ writes
      · exact absurd ⟨_, writes'⟩ writes

/-! ## Loading -/

/-- The template of the environment takes the place of the one that is configured. -/
theorem overrideTemplate_eq (c : Config) (name : Option String) :
    c.overrideTemplate name = { c with template := name.or c.template } := by
  cases name <;> rfl

theorem Valid.overrideTemplate {c : Config} (valid : c.Valid) (name : Option String) :
    (c.overrideTemplate name).Valid := by
  rw [← check_eq_ok_iff_valid, check_overrideTemplate]
  exact check_eq_ok_iff_valid.2 valid

/-- It makes no difference whether the template or the cutoff is put in first. -/
theorem overrideCutoff_overrideTemplate (c : Config) (name cutoff : Option String) :
    (c.overrideTemplate name).overrideCutoff cutoff =
      (c.overrideCutoff cutoff).map (·.overrideTemplate name) := by
  cases cutoff with
  | none => rfl
  | some raw =>
    rw [overrideCutoff, overrideCutoff]
    cases readLength? raw with
    | none => rfl
    | some n =>
      have same : check { c.overrideTemplate name with
            budget := { (c.overrideTemplate name).budget with cutoff := n } } =
          check { c with budget := { c.budget with cutoff := n } } := by
        cases name <;> rfl
      simp only [same]
      cases check { c with budget := { c.budget with cutoff := n } } with
      | error what => rfl
      | ok => cases name <;> rfl

theorem loadStandard_of_loadFrom {files : Files} {env : Environment} {c : Config}
    (loaded : loadFrom files env.configPath = .ok c) :
    loadStandard files env =
      ((c.overrideTemplate env.template).overrideCutoff env.cutoff).mapError .invalid := by
  rw [loadStandard, loaded]
  rfl

theorem loadStandard_overrideTemplate (files : Files) (env : Environment) :
    loadStandard files env =
      (loadStandard files { env with template := none }).map (·.overrideTemplate env.template) := by
  have path : Environment.configPath { env with template := none } = env.configPath := rfl
  cases loaded : loadFrom files env.configPath with
  | error e =>
    rw [loadStandard, loadStandard, path, loaded]
    rfl
  | ok c =>
    have bare : loadStandard files { env with template := none } =
        (c.overrideCutoff env.cutoff).mapError .invalid := loadStandard_of_loadFrom loaded
    rw [loadStandard_of_loadFrom loaded, overrideCutoff_overrideTemplate, bare]
    cases c.overrideCutoff env.cutoff <;> rfl

theorem valid_of_loadStandard {files : Files} {env : Environment} {c : Config}
    (h : loadStandard files env = .ok c) : c.Valid :=
  check_eq_ok_iff_valid.1 (check_of_load (show load files env none = .ok c from h))

/-- What is loaded is valid, whatever the files and the environment. A file with a valid
configuration is accepted, and then only the cutoff of the environment can still be refused, for
not being a length, for being 0, or for leaving no room for the part kept for a response. The
template of the environment never decides whether the loading fails, and changes nothing else. -/
theorem loads_just_valid (files : Files) (env : Environment) :
    (∀ path c, loadFrom files path = .ok c → c.Valid) ∧
    (∀ c, loadStandard files env = .ok c → c.Valid) ∧
    (∀ path text c, files path = .text text → parse? text = some c → c.Valid →
      loadFrom files path = .ok c) ∧
    (∀ text c, files env.configPath = .text text → parse? text = some c → c.Valid →
      (env.cutoff = none →
        loadStandard files env = .ok { c with template := env.template.or c.template }) ∧
      ∀ e, loadStandard files env = .error e ↔ ∃ raw what, env.cutoff = some raw ∧
        CutoffFault c.budget.reserved raw what ∧ e = .invalid what) ∧
    loadStandard files env = (loadStandard files { env with template := none }).map fun c =>
      { c with template := env.template.or c.template } := by
  refine ⟨fun path c loaded => check_eq_ok_iff_valid.1 (check_of_loadFrom loaded),
    fun c => valid_of_loadStandard, fun path text c => loadFrom_of_parse?, ?_, ?_⟩
  · intro text c found read valid
    rw [loadStandard_of_loadFrom (loadFrom_of_parse? found read valid)]
    constructor
    · intro unset
      rw [unset, overrideTemplate_eq]
      rfl
    · intro e
      rw [mapError_eq_error_iff]
      cases env.cutoff with
      | none => simp [overrideCutoff]
      | some raw =>
        have reserved : (c.overrideTemplate env.template).budget.reserved = c.budget.reserved := by
          rw [overrideTemplate_eq]
        simp only [overrideCutoff_eq_error_iff (valid.overrideTemplate env.template), reserved,
          Option.some.injEq]
        constructor
        · rintro ⟨what, fault, rfl⟩
          exact ⟨raw, what, rfl, fault, rfl⟩
        · rintro ⟨raw, what, rfl, fault, rfl⟩
          exact ⟨what, fault, rfl⟩
  · rw [loadStandard_overrideTemplate]
    simp only [overrideTemplate_eq]

/-- A file with a template that takes its stop word as its end. -/
def stoppingText : String :=
  "cutoff_len = 9\nreserved_label_len = 4\n\n[[templates]]\nname = \" \u2003a\"\n" ++
    "stop_words = [\"<stop>\"]\nreplace_eos = true\n\n[[templates]]\nname = \"a\"\n"

/-- The template of that file under a name, with a stop word as its end or without. -/
def stoppingTemplate (name : String) (stopWords : List String) : TemplateConfig where
  name := name
  defaultSystem := ""
  stopWords := stopWords
  efficientEos := false
  replaceEos := !stopWords.isEmpty
  forceSystem := false
  injection := none
  user := none
  assistant := none
  system := none
  function := none
  observation := none
  tools := none
  separator := none

/-- The configuration of that file. -/
def stopping : Config where
  template := none
  budget := ⟨9, 4⟩
  templates := [stoppingTemplate " \u2003a" ["<stop>"], stoppingTemplate "a" []]

/-- A valid file is refused for a cutoff below the part kept for a response, and not for a template
that nobody knows. -/
theorem loads_just_valid_stopping :
    parse? stoppingText = some stopping ∧ stopping.Valid ∧
      loadFrom (fun _ => .text stoppingText) "config.toml" = .ok stopping ∧
      loadStandard (fun _ => .text stoppingText) ⟨none, some "nobody", none, none⟩ =
        .ok { stopping with template := some "nobody" } ∧
      loadStandard (fun _ => .text stoppingText) ⟨none, none, some "+3", none⟩ =
        .error (.invalid .reservedAboveCutoff) := by
  have read : parse? stoppingText = some stopping := by decide +kernel
  have valid : stopping.Valid := check_eq_ok_iff_valid.1 (by decide)
  obtain ⟨-, -, accepts, named, -⟩ :=
    loads_just_valid (fun _ => .text stoppingText) ⟨none, some "nobody", none, none⟩
  obtain ⟨-, -, -, short, -⟩ :=
    loads_just_valid (fun _ => .text stoppingText) ⟨none, none, some "+3", none⟩
  have three : WritesLength "+3" 3 := readLength?_eq_some_iff.1 (by decide)
  have fault : CutoffFault 4 "+3" .reservedAboveCutoff :=
    .belowReserved three (by decide) (by decide)
  exact ⟨read, valid, accepts _ _ stopping rfl read valid, (named _ stopping rfl read valid).1 rfl,
    ((short _ stopping rfl read valid).2 _).2 ⟨_, _, rfl, fault, rfl⟩⟩

end Config

end Colloquy
