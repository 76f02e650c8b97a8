import Colloquy.Command.Run
import Colloquy.Proofs.Except

/-!
# Budgets of configurations and commands

A configuration that is loaded has a valid budget, whether its parts come from a file, from the
environment, or from nowhere (`valid_of_load`): the cutoff of the environment is checked together
with the rest. The parts of a budget that the command line gives are not checked. So what reaches
the encoder is the loaded budget with those parts put in, and it is valid just if they fit it
(`handed_budget_valid_iff`); a cutoff of 0 gets through (`not_valid_of_encodeInput`). The tokenizer
has no part in this: it may be of any kind, loaded in any way.
-/

namespace Colloquy

/-- A budget that a configuration may have. -/
structure Budget.Valid (b : Budget) : Prop where
  cutoff_pos : 0 < b.cutoff
  reserved_le : b.reserved ≤ b.cutoff

/-! ## Loaded configurations -/

namespace Config

theorem check_eq_ok_iff {c : Config} :
    c.check = .ok () ↔ c.budget.Valid ∧ TemplateConfig.checkAll [] c.templates = .ok () := by
  unfold check
  by_cases zero : c.budget.cutoff = 0
  · rw [if_pos zero]
    exact ⟨fun h => (by cases h), fun h => absurd zero (Nat.ne_of_gt h.1.cutoff_pos)⟩
  rw [if_neg zero]
  by_cases above : c.budget.cutoff < c.budget.reserved
  · rw [if_pos above]
    exact ⟨fun h => (by cases h), fun h => absurd h.1.reserved_le (Nat.not_le.2 above)⟩
  · rw [if_neg above]
    exact (and_iff_right ⟨Nat.pos_of_ne_zero zero, Nat.not_lt.1 above⟩).symm

theorem check_standard : standard.check = .ok () := rfl

/-- A file that is read is checked, and the standard configuration would pass the check. -/
theorem check_of_loadFrom {files : Files} {path : String} {c : Config}
    (h : loadFrom files path = .ok c) : c.check = .ok () := by
  unfold loadFrom at h
  split at h
  · cases h
    exact check_standard
  · cases h
  · split at h
    · cases h
    · split at h
      · cases h
        assumption
      · cases h

theorem check_overrideTemplate (c : Config) (name : Option String) :
    (c.overrideTemplate name).check = c.check := by
  cases name <;> rfl

theorem check_of_overrideCutoff {c c' : Config} {raw : Option String} (checked : c.check = .ok ())
    (h : c.overrideCutoff raw = .ok c') : c'.check = .ok () := by
  unfold overrideCutoff at h
  split at h
  · split at h
    · obtain ⟨⟨⟩, again, made⟩ := bind_eq_ok_iff.1 h
      cases made
      exact again
    · cases h
  · cases h
    exact checked

/-- Whatever a configuration is loaded from, it has been checked as it is. -/
theorem check_of_load {files : Files} {env : Environment} {path : Option String} {c : Config}
    (h : load files env path = .ok c) : c.check = .ok () := by
  cases path with
  | some path => exact check_of_loadFrom h
  | none =>
    obtain ⟨c', loaded, overridden⟩ := bind_eq_ok_iff.1 h
    apply check_of_overrideCutoff _ (mapError_eq_ok_iff.1 overridden)
    rw [check_overrideTemplate]
    exact check_of_loadFrom loaded

theorem valid_of_load {files : Files} {env : Environment} {path : Option String} {c : Config}
    (h : load files env path = .ok c) : c.budget.Valid :=
  (check_eq_ok_iff.1 (check_of_load h)).1

end Config

/-! ## What reaches the encoder -/

/-- All that an encoding is made from. -/
structure EncodeInput (τ : Type) where
  template : Template
  tokenizer : τ
  turns : List Turn
  system : Option String
  tools : Option String
  budget : Budget

variable {τ : Type} [Tokenizer τ]

/-- What the encoder makes of its input: one pair, or one for each round. -/
def EncodeInput.encode (i : EncodeInput τ) (single : Bool) : Except EncodeError Json :=
  if single then
    (i.template.encodeWhole i.tokenizer i.turns i.system i.tools i.budget).map EncodedPair.toJson
  else
    (i.template.encodeRounds i.tokenizer i.turns i.system i.tools i.budget).map fun pairs =>
      Json.arr (pairs.map EncodedPair.toJson)

namespace Command

/-- The input that a command hands to the encoder, if it gets that far. -/
def encodeInput (load : Files → String → Except TokenizerError τ) (files : Files)
    (env : Environment) (config : Option String) (args : EncodeArgs) :
    Except CommandError (EncodeInput τ) := do
  let (c, r) ← setUp files env config
  let tok ← (load files args.tokenizer).mapError .tokenizer
  let turns ← readDialogue files args.dialogue
  let tools ← readTools files args.tools
  let (t, tok) ← (r.resolve tok (args.template.or c.template)).mapError .template
  return ⟨t, tok, turns, args.system, tools, overrideBudget c.budget args⟩

/-- The command gets its input, hands it to the encoder, and writes what comes of it. -/
theorem runEncode_eq (load : Files → String → Except TokenizerError τ) (files : Files)
    (env : Environment) (config : Option String) (args : EncodeArgs) :
    runEncode load files env config args = do
      let input ← encodeInput load files env config args
      let json ← (input.encode args.single).mapError .encode
      return json.write (.indented 2) ++ "\n" := by
  unfold runEncode encodeInput EncodeInput.encode
  simp only [bind_assoc, pure_bind]
  cases args.single <;> rfl

/-- The cutoff of the command line changes nothing but the budget. -/
theorem encodeInput_cutoff (load : Files → String → Except TokenizerError τ) (files : Files)
    (env : Environment) (config : Option String) (args : EncodeArgs) (cutoff : Nat) :
    encodeInput load files env config { args with cutoff := some cutoff } =
      (encodeInput load files env config args).map fun i =>
        { i with budget := { i.budget with cutoff } } := by
  unfold encodeInput
  change _ = (fun i : EncodeInput τ => { i with budget := { i.budget with cutoff } }) <$> _
  simp only [map_bind, map_pure]
  rfl

theorem budget_of_encodeInput {load : Files → String → Except TokenizerError τ} {files : Files}
    {env : Environment} {config : Option String} {args : EncodeArgs} {input : EncodeInput τ}
    (h : encodeInput load files env config args = .ok input) :
    ∃ c, Config.load files env config = .ok c ∧ input.budget = overrideBudget c.budget args := by
  obtain ⟨⟨c, r⟩, ready, h⟩ := bind_eq_ok_iff.1 h
  obtain ⟨tok, -, h⟩ := bind_eq_ok_iff.1 h
  obtain ⟨turns, -, h⟩ := bind_eq_ok_iff.1 h
  obtain ⟨tools, -, h⟩ := bind_eq_ok_iff.1 h
  obtain ⟨⟨t, tok'⟩, -, h⟩ := bind_eq_ok_iff.1 h
  obtain ⟨c', loaded, ready⟩ := bind_eq_ok_iff.1 ready
  obtain ⟨r', -, ready⟩ := bind_eq_ok_iff.1 ready
  cases h
  cases ready
  exact ⟨c, mapError_eq_ok_iff.1 loaded, rfl⟩

end Command

/-- The parts of a budget that a command line gives, if any, make a valid one of a valid budget. -/
def EncodeArgs.Fits (args : EncodeArgs) (b : Budget) : Prop :=
  match args.cutoff, args.reserved with
  | none, none => True
  | some cutoff, none => 0 < cutoff ∧ b.reserved ≤ cutoff
  | none, some reserved => reserved ≤ b.cutoff
  | some cutoff, some reserved => 0 < cutoff ∧ reserved ≤ cutoff

theorem Budget.Valid.overrideBudget_iff {b : Budget} (h : b.Valid) (args : EncodeArgs) :
    (Command.overrideBudget b args).Valid ↔ args.Fits b := by
  have parts (cutoff reserved : Nat) :
      Valid ⟨cutoff, reserved⟩ ↔ 0 < cutoff ∧ reserved ≤ cutoff :=
    ⟨fun v => ⟨v.cutoff_pos, v.reserved_le⟩, fun v => ⟨v.1, v.2⟩⟩
  unfold Command.overrideBudget EncodeArgs.Fits
  rw [parts]
  cases args.cutoff with
  | none =>
    cases args.reserved with
    | none => exact iff_of_true ⟨h.cutoff_pos, h.reserved_le⟩ trivial
    | some reserved => exact and_iff_right h.cutoff_pos
  | some cutoff => cases args.reserved <;> exact Iff.rfl

open Command

/-- The budget that a command hands to the encoder is the valid one of its configuration with the
parts that the command line gives, and it is valid just if these fit. -/
theorem handed_budget_valid_iff {load : Files → String → Except TokenizerError τ} {files : Files}
    {env : Environment} {config : Option String} {args : EncodeArgs} {input : EncodeInput τ}
    (h : encodeInput load files env config args = .ok input) :
    ∃ c, Config.load files env config = .ok c ∧ c.budget.Valid ∧
      input.budget = overrideBudget c.budget args ∧ (input.budget.Valid ↔ args.Fits c.budget) := by
  obtain ⟨c, loaded, budget_eq⟩ := budget_of_encodeInput h
  have valid := Config.valid_of_load loaded
  refine ⟨c, loaded, valid, budget_eq, ?_⟩
  rw [budget_eq, valid.overrideBudget_iff]

/-! ## A command with a tokenizer of one word -/

/-- A tokenizer without a file beside it is just the one that its text describes. -/
theorem WordLevel.load_of_parse? {files : Files} {path s : String} {tok : WordLevel}
    (found : files path = .text s) (parsed : parse? s = some tok)
    (alone : files (Path.sibling path configName) = .missing) :
    load files path = .ok (tok.configure .null) := by
  unfold load Files.read
  rw [found]
  dsimp only [Except.mapError, bind, Except.bind]
  rw [parsed, alone]
  rfl

/-- A tokenizer that knows one word. -/
def hiTokenizerText : String :=
  "\x7b\"version\":\"1.0\",\"truncation\":null,\"padding\":null,\"added_tokens\":[],\"normalizer\":null," ++
    "\"pre_tokenizer\":null,\"post_processor\":null,\"decoder\":null,\"model\":\x7b\"type\":\"WordLevel\"," ++
    "\"vocab\":\x7b\"[UNK]\":0,\"hi\":1\x7d,\"unk_token\":\"[UNK]\"\x7d\x7d"

/-- The tokenizer in this text. -/
def hiTokenizer : WordLevel :=
  ⟨⟨[("[UNK]", 0), ("hi", 1)], "[UNK]", .whole, []⟩, SpecialTokens.none, none⟩

theorem parse?_hiTokenizerText : WordLevel.parse? hiTokenizerText = some hiTokenizer := by
  -- The characters of a literal are at hand; running its coding to find them would be slow.
  have written {s : String} {l : List Char} (h : s = String.ofList l) : s.toList = l := by
    rw [h, String.toList_ofList]
  unfold WordLevel.parse? Json.Document.parse? hiTokenizerText
  simp only [String.toList_append, written rfl]
  decide +kernel

/-- A tokenizer and a dialogue of one round. -/
def hiFiles : Files := fun path =>
  if path = "tokenizer.json" then .text hiTokenizerText
  else if path = "dialogue.json" then .text "[[\"user\",\"hi\"],[\"assistant\",\"hi\"]]"
  else .missing

theorem load_hiFiles :
    WordLevel.load hiFiles "tokenizer.json" = .ok (hiTokenizer.configure .null) :=
  WordLevel.load_of_parse? rfl parse?_hiTokenizerText (by decide +kernel)

/-- An environment without variables. -/
def bareEnvironment : Environment := ⟨none, none, none, none⟩

/-- Encodes the dialogue of one round under a cutoff. -/
def hiArgs (cutoff : Nat) : EncodeArgs where
  template := none
  tokenizer := "tokenizer.json"
  dialogue := "dialogue.json"
  system := none
  tools := none
  cutoff := some cutoff
  reserved := none
  single := false

/-- The encoder is handed the cutoff of the command line. -/
theorem exists_encodeInput_hi (cutoff : Nat) :
    ∃ input, encodeInput WordLevel.load hiFiles bareEnvironment none (hiArgs cutoff) = .ok input ∧
      input.budget = ⟨cutoff, 1⟩ := by
  have eight : (encodeInput WordLevel.load hiFiles bareEnvironment none (hiArgs 8)).map
      EncodeInput.budget = .ok ⟨8, 1⟩ := by
    unfold encodeInput
    dsimp only [hiArgs]
    rw [load_hiFiles]
    decide +kernel
  have same := encodeInput_cutoff WordLevel.load hiFiles bareEnvironment none (hiArgs 8) cutoff
  cases made : encodeInput WordLevel.load hiFiles bareEnvironment none (hiArgs 8) with
  | error e =>
    rw [made] at eight
    cases eight
  | ok input =>
    rw [made] at eight same
    have reserved : input.budget.reserved = 1 := congrArg Budget.reserved (Except.ok.inj eight)
    exact ⟨_, same, congrArg (Budget.mk cutoff) reserved⟩

/-- A cutoff of 8 fits the standard budget, which keeps one id for a response. -/
theorem handed_budget_valid_iff_eight :
    ∃ input, encodeInput WordLevel.load hiFiles bareEnvironment none (hiArgs 8) = .ok input ∧
      input.budget = ⟨8, 1⟩ ∧ input.budget.Valid := by
  obtain ⟨input, h, budget⟩ := exists_encodeInput_hi 8
  obtain ⟨c, loaded, -, -, valid⟩ := handed_budget_valid_iff h
  cases loaded
  exact ⟨input, h, budget, valid.2 (show 0 < 8 ∧ 1 ≤ 8 by decide)⟩

/-- A cutoff of 0 is handed on as it is. -/
theorem not_valid_of_encodeInput :
    ¬ ∀ (files : Files) (env : Environment) (config : Option String) (args : EncodeArgs)
      (input : EncodeInput WordLevel),
      encodeInput WordLevel.load files env config args = .ok input → input.budget.Valid := by
  intro all
  obtain ⟨input, h, budget⟩ := exists_encodeInput_hi 0
  have valid := all _ _ _ _ input h
  rw [budget] at valid
  exact absurd valid.cutoff_pos (Nat.lt_irrefl 0)

end Colloquy
