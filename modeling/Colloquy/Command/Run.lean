import Colloquy.Command.Basic

/-!
# Running commands

`Command.run` carries out a command on the files and the environment that the program sees. The
steps of a command follow a fixed order, and the first that fails decides the error. The commands
that need a tokenizer are told how one is loaded, and may be given tokenizers of any kind; the
program loads tokenizers of words.
-/

namespace Colloquy

/-! ## Listing templates -/

/-- What is particular to a template. -/
def Template.flags (t : Template) : List String :=
  (if t.efficientEos then ["efficient_eos"] else []) ++
    (if t.replaceEos then ["replace_eos"] else []) ++
    (if t.forceSystem then ["force_system"] else []) ++
    (if t.injection = .prependToFirstUser then ["prepend_system"] else []) ++
    (if t.stopWords.isEmpty then [] else ["stop=[" ++ ", ".intercalate t.stopWords ++ "]"])

/-- A text filled up with blanks to a width. -/
def padRight (width : Nat) (s : String) : String :=
  s ++ String.ofList (List.replicate (width - s.length) ' ')

/-- The line for a template in a list, where the chosen template is marked. -/
def Template.listLine (chosen : Option String) (t : Template) : String :=
  "  " ++ (if chosen = some t.name then "*" else " ") ++ " " ++ padRight 16 t.name ++ " " ++
    " ".intercalate t.flags ++ "\n"

/-- A list of the templates in a registry. -/
def Registry.listing (r : Registry) (chosen : Option String) : String :=
  "Chat templates (" ++ toString r.size ++ " registered):\n\n" ++
    String.join (r.templates.map (Template.listLine chosen))

/-! ## Encoded pairs as JSON -/

/-- A pair as a JSON object. -/
def EncodedPair.toJson (p : EncodedPair) : Json :=
  .obj [
    ("prompt_ids", .arr (p.prompt.map fun (id : Nat) => Json.int id)),
    ("response_ids", .arr (p.response.map fun (id : Nat) => Json.int id))]

/-! ## The commands -/

namespace Command

variable {τ : Type} [Tokenizer τ]

/-- The configuration with its registry. -/
def setUp (files : Files) (env : Environment) (config : Option String) :
    Except CommandError (Config × Registry) := do
  let c ← (Config.load files env config).mapError .config
  let r ← c.registry.mapError .template
  return (c, r)

/-- Lists the templates. -/
def runList (files : Files) (env : Environment) (config : Option String) :
    Except CommandError String := do
  let (c, r) ← setUp files env config
  return r.listing c.template

/-- Compiles a template for a tokenizer prepared for it. -/
def runCompile (load : Files → String → Except TokenizerError τ) (files : Files) (env : Environment)
    (config : Option String) (template : Option String) (tokenizer : String) :
    Except CommandError String := do
  let (c, r) ← setUp files env config
  let tok ← (load files tokenizer).mapError .tokenizer
  let (t, tok) ← (r.resolve tok (template.or c.template)).mapError .template
  let text ← (t.compile tok).mapError .compile
  return text ++ "\n"

/-- The turns in a file. -/
def readDialogue (files : Files) (path : String) : Except CommandError (List Turn) := do
  let text ← (files.read path).mapError (.dialogueUnreadable path)
  match Turn.parseList? text with
  | some turns => .ok turns
  | none => .error .dialogueMalformed

/-- The manifest in a file, if one is given. -/
def readTools (files : Files) : Option String → Except CommandError (Option String)
  | some path => ((files.read path).mapError .toolsUnreadable).map some
  | none => .ok none

/-- A budget with the given parts replaced. -/
def overrideBudget (b : Budget) (args : EncodeArgs) : Budget :=
  ⟨args.cutoff.getD b.cutoff, args.reserved.getD b.reserved⟩

/-- Encodes a dialogue. -/
def runEncode (load : Files → String → Except TokenizerError τ) (files : Files) (env : Environment)
    (config : Option String) (args : EncodeArgs) : Except CommandError String := do
  let (c, r) ← setUp files env config
  let tok ← (load files args.tokenizer).mapError .tokenizer
  let turns ← readDialogue files args.dialogue
  let tools ← readTools files args.tools
  let (t, tok) ← (r.resolve tok (args.template.or c.template)).mapError .template
  let budget := overrideBudget c.budget args
  let json ←
    if args.single then
      ((t.encodeWhole tok turns args.system tools budget).map EncodedPair.toJson).mapError .encode
    else
      ((t.encodeRounds tok turns args.system tools budget).map fun pairs =>
        Json.arr (pairs.map EncodedPair.toJson)).mapError .encode
  return json.write (.indented 2) ++ "\n"

/-- Writes the configuration as it counts. -/
def runShowConfig (files : Files) (env : Environment) (config : Option String) :
    Except CommandError String := do
  let c ← (Config.load files env config).mapError .configNotShown
  match c.toToml? with
  | some text => return text ++ "\n"
  | none => .error .configNotWritable

/-- What is said of a configuration in which nothing is wrong. -/
def validReport (c : Config) (r : Registry) : String :=
  let unknown := match c.template with
    | some name => (r.find? name).isNone
    | none => false
  (if unknown then
      "\n   Warning: Default template " ++ c.template.getD "" ++ " is not registered\n"
    else "   All checks passed\n") ++
    "\n   Template:       " ++ c.template.getD "(empty)" ++
    "\n   Cutoff:         " ++ toString c.budget.cutoff ++
    "\n   Reserved label: " ++ toString c.budget.reserved ++
    "\n   Custom:         " ++ toString c.templates.length ++ "\n"

/-- Checks the configuration and says what is found. -/
def runValidateConfig (describe : Fault → String) (files : Files) (env : Environment)
    (config : Option String) : Outcome :=
  let start := "Validating configuration...\n"
  match Config.load files env config with
  | .error e => ⟨start ++ "   Config error: " ++ e.message describe ++ "\n", some (.config e)⟩
  | .ok c =>
    let parsed := start ++ "   Config parsed successfully\n"
    match c.registry with
    | .error e => ⟨parsed ++ "   Template error: " ++ e.message ++ "\n", some (.template e)⟩
    | .ok r => ⟨parsed ++ validReport c r, none⟩

/-- What comes of a command, with the configuration file that is chosen for it. -/
def run (describe : Fault → String) (files : Files) (env : Environment) (config : Option String) :
    Command → Outcome
  | list => .ofExcept (runList files env config)
  | compile template tokenizer =>
    .ofExcept (runCompile WordLevel.load files env config template tokenizer)
  | encode args => .ofExcept (runEncode WordLevel.load files env config args)
  | showConfig => .ofExcept (runShowConfig files env config)
  | configPath => ⟨config.getD env.configPath ++ "\n", none⟩
  | validateConfig => runValidateConfig describe files env config

/-- The files that a command reads, with the configuration file that is chosen for it. -/
def paths (env : Environment) (config : Option String) (command : Command) : List String :=
  config.getD env.configPath ::
    match command with
    | compile _ tokenizer => [tokenizer, Path.sibling tokenizer WordLevel.configName]
    | encode args =>
      [args.tokenizer, Path.sibling args.tokenizer WordLevel.configName, args.dialogue] ++
        args.tools.toList
    | _ => []

end Command

end Colloquy
