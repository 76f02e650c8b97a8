import Colloquy.Command.Run

/-!
# Command lines

A command line names a command and its options. Words and options are read from left to right;
each subcommand has options of its own, and the options that choose the configuration and the amount
of logging may stand anywhere. An option is long (`--name value`, `--name=value`) or short
(`-n value`, `-nvalue`, `-n=value`), and short flags may share a dash. No option is given twice at
one level. Where commands may follow, the word `help` may too, with the names that lead to the
command in question.

`CommandLine.parse?` gives `none` for a command line that is not understood.
-/

namespace Colloquy.CommandLine

/-! ## Options -/

/-- What an option takes. -/
inductive Kind where
  | flag
  | text
  /-- A text that is not empty. -/
  | path
  /-- A number of at most 64 bits. -/
  | length
deriving DecidableEq, Repr

/-- An option by its names. -/
structure Opt where
  name : String
  letter : Option Char
  kind : Kind
deriving DecidableEq, Repr

/-- Options that were given, with their values. -/
abbrev Given := List (String × String)

/-- Whether an option may have a value. -/
def Kind.accepts (value : String) : Kind → Bool
  | flag => true
  | text => true
  | path => !value.isEmpty
  | length => (readLength? value).isSome

/-- The given options with one more. -/
def Given.add? (given : Given) (o : Opt) (value : String) : Option Given :=
  if (given.lookup o.name).isSome || !o.kind.accepts value then none
  else some (given ++ [(o.name, value)])

/-- Where a command line stands after an argument. -/
inductive Progress where
  | taken (given : Given)
  /-- The value of an option is the next argument. -/
  | waits (o : Opt) (given : Given)
  | command (name : String)
  /-- No options follow. -/
  | noMore
  /-- The version of the program is asked for. -/
  | version
  /-- Help is asked for. -/
  | help
  /-- Help is asked for on the command that all further arguments lead to. -/
  | helpOn
deriving DecidableEq, Repr

/-- What can be given at one level of a command line. -/
structure Level where
  options : List Opt
  commands : List String
  /-- Whether the version may be asked for. -/
  tellsVersion : Bool
deriving DecidableEq, Repr

namespace Level

/-- Takes a long option with the value that is attached to it. -/
def takeLong? (level : Level) (given : Given) (name : String) (value : Option String) :
    Option Progress :=
  match level.options.find? (·.name = name) with
  | some o =>
    match o.kind, value with
    | .flag, some _ => none
    | .flag, none => (given.add? o "").map .taken
    | _, some v => (given.add? o v).map .taken
    | _, none => some (.waits o given)
  | none =>
    if value.isSome then none
    else if name = "help" then some .help
    else if name = "version" && level.tellsVersion then some .version
    else none

/-- The value attached to a short option; an equals sign may stand between the two. -/
def attached : List Char → List Char
  | '=' :: value => value
  | value => value

/-- Takes short options that share a dash. What follows the letter of an option with a value is
that value. -/
def takeShorts? (level : Level) (given : Given) : List Char → Option Progress
  | [] => some (.taken given)
  | c :: rest =>
    match level.options.find? (·.letter = some c) with
    | some o =>
      if o.kind = .flag then
        match given.add? o "" with
        | some given => takeShorts? level given rest
        | none => none
      else if rest = [] then some (.waits o given)
      else (given.add? o (String.ofList (attached rest))).map .taken
    | none =>
      if c = 'h' then some .help
      else if c = 'V' && level.tellsVersion then some .version
      else none

end Level

/-! ## Levels -/

/-- An argument by its form. -/
inductive Argument where
  | word (s : String)
  | long (name : String) (value : Option String)
  | shorts (letters : List Char)
  /-- Two dashes, behind which everything is a word. -/
  | dashes
deriving DecidableEq, Repr

/-- A long option, with its value behind an equals sign. -/
def Argument.ofLong (s : List Char) : Argument :=
  match Text.cut? ['='] s with
  | some (name, value) => .long (String.ofList name) (some (String.ofList value))
  | none => .long (String.ofList s) none

/-- The form of an argument. A single dash is a word. -/
def Argument.ofString (s : String) : Argument :=
  match s.toList with
  | ['-'] => .word s
  | ['-', '-'] => .dashes
  | '-' :: '-' :: rest => .ofLong rest
  | '-' :: letters => .shorts letters
  | _ => .word s

/-- The given options with one more, whose value is an argument of its own. -/
def Given.addWord? (given : Given) (o : Opt) (arg : String) : Option Given :=
  match Argument.ofString arg with
  | .word value => given.add? o value
  | _ => none

/-- What help can be asked for on at a level: its commands and, where there are any, `help`. -/
def Level.topics (level : Level) : List String :=
  if level.commands.isEmpty then [] else "help" :: level.commands

/-- Takes an argument. -/
def Level.take? (level : Level) (given : Given) (arg : String) : Option Progress :=
  match Argument.ofString arg with
  | .word w =>
    if w ∈ level.commands then some (.command w)
    else if w ∈ level.topics then some .helpOn
    else none
  | .long name value => level.takeLong? given name value
  | .shorts letters => level.takeShorts? given letters
  | .dashes => some .noMore

/-- How a level ends. -/
inductive Ending where
  | done (given : Given)
  /-- A subcommand follows with its arguments. -/
  | command (given : Given) (name : String) (args : List String)
  | version
  /-- Help is asked for on the command that names lead to, or on the level if there are none. -/
  | help (names : List String)
deriving DecidableEq, Repr

/-- Reads the arguments of a level after the given options. -/
def Level.read? (level : Level) (given : Given) : List String → Option Ending
  | [] => some (.done given)
  | arg :: rest =>
    match level.take? given arg with
    | some (.taken given) => level.read? given rest
    | some (.waits o given) =>
      match rest with
      | value :: rest =>
        match given.addWord? o value with
        | some given => level.read? given rest
        | none => none
      | [] => none
    | some (.command name) => some (.command given name rest)
    | some .noMore => if rest = [] then some (.done given) else none
    | some .version => some .version
    | some .help => some (.help [])
    | some .helpOn => some (.help rest)
    | none => none

/-! ## The levels of this program -/

/-- The options that may stand at every level. -/
def commonOptions : List Opt :=
  [⟨"verbose", some 'v', .flag⟩, ⟨"config", none, .path⟩]

/-- The level of the program itself. -/
def top : Level := ⟨commonOptions, ["list", "compile", "encode", "config"], true⟩

/-- The level of a subcommand without options of its own. -/
def plain : Level := ⟨commonOptions, [], false⟩

/-- The level of the configuration commands. -/
def configLevel : Level := ⟨commonOptions, ["show", "path", "validate"], false⟩

/-- The options of both commands that need a tokenizer. -/
def tokenizerOptions : List Opt :=
  [⟨"template", some 't', .text⟩, ⟨"tokenizer", none, .path⟩]

/-- The level of the command that compiles. -/
def compileLevel : Level := ⟨commonOptions ++ tokenizerOptions, [], false⟩

/-- The level of the command that encodes. -/
def encodeLevel : Level :=
  ⟨commonOptions ++ tokenizerOptions ++
    [⟨"dialogue", some 'd', .path⟩, ⟨"system", some 's', .text⟩, ⟨"tools", none, .path⟩,
      ⟨"cutoff-len", none, .length⟩, ⟨"reserved-label-len", none, .length⟩,
      ⟨"single", none, .flag⟩], [], false⟩

/-! ## Requests -/

/-- What help can be asked for on below a command. -/
def topicsBelow (name : String) : List String :=
  if name = "config" then configLevel.topics else []

/-- Whether names lead to a command, of which the first is one of `topics`. -/
def leads (topics : List String) : List String → Bool
  | [] => true
  | name :: rest => name ∈ topics && leads (topicsBelow name) rest

/-- What a command line asks for. -/
inductive Request where
  /-- A command, with the configuration file that is chosen for it. -/
  | run (config : Option String) (command : Command)
  | version
  | help
deriving DecidableEq, Repr

/-- The command that options of `compile` describe. -/
def compileCommand? (given : Given) : Option Command :=
  (given.lookup "tokenizer").map (.compile (given.lookup "template"))

/-- The command that options of `encode` describe. -/
def encodeCommand? (given : Given) : Option Command := do
  let tokenizer ← given.lookup "tokenizer"
  let dialogue ← given.lookup "dialogue"
  return .encode {
    template := given.lookup "template"
    tokenizer, dialogue
    system := given.lookup "system"
    tools := given.lookup "tools"
    cutoff := (given.lookup "cutoff-len").bind readLength?
    reserved := (given.lookup "reserved-label-len").bind readLength?
    single := (given.lookup "single").isSome }

/-- The request for a command, where the options of each level are given from the last to the first.
The configuration file is chosen by the last level that chooses one, or else by the environment. The
environment may not choose an empty path for any level that chooses none. -/
def request? (env : Environment) (levels : List Given) (command : Option Command) :
    Option Request :=
  let chosen := levels.map (·.lookup "config")
  if env.config = some "" && chosen.any Option.isNone then none
  else command.map (.run ((chosen.findSome? id).or env.config))

/-- The request of a level that only has options. -/
def lastLevel? (env : Environment) (before : List Given) (level : Level)
    (command? : Given → Option Command) (args : List String) : Option Request :=
  match level.read? [] args with
  | some (.done given) => request? env (given :: before) (command? given)
  | some (.help _) => some .help
  | _ => none

/-- The request of the configuration commands; without one the configuration is shown. -/
def configRequest? (env : Environment) (before : List Given) (args : List String) :
    Option Request :=
  match configLevel.read? [] args with
  | some (.done given) => request? env (given :: before) (some .showConfig)
  | some (.command given name rest) =>
    let command : Command :=
      if name = "show" then .showConfig else if name = "path" then .configPath else .validateConfig
    lastLevel? env (given :: before) plain (fun _ => some command) rest
  | some (.help names) => if leads configLevel.topics names then some .help else none
  | _ => none

/-- The request that the arguments of the program make. -/
def parse? (env : Environment) (args : List String) : Option Request :=
  match top.read? [] args with
  | some (.command given name rest) =>
    if name = "list" then lastLevel? env [given] plain (fun _ => some .list) rest
    else if name = "compile" then lastLevel? env [given] compileLevel compileCommand? rest
    else if name = "encode" then lastLevel? env [given] encodeLevel encodeCommand? rest
    else configRequest? env [given] rest
  | some .version => some .version
  | some (.help names) => if leads top.topics names then some .help else none
  | some (.done _) => none
  | none => none

/-! ## Answers -/

/-- What the program leaves behind: its exit status, the text that is put out, and the error that
made a command fail. -/
structure Answer where
  status : Nat
  output : String
  error : Option CommandError
deriving DecidableEq, Repr

/-- The name and the version of the program. -/
def versionText : String := "promptloom 0.1.0\n"

/-- How the program is used. -/
def helpText : String :=
  "Usage: promptloom [-v] [--config FILE] COMMAND\n\nCommands:\n  list\n" ++
    "  compile [-t TEMPLATE] --tokenizer FILE\n" ++
    "  encode [-t TEMPLATE] --tokenizer FILE -d FILE [-s TEXT] [--tools FILE]\n" ++
    "      [--cutoff-len N] [--reserved-label-len N] [--single]\n" ++
    "  config [show | path | validate]\n"

/-- The exit status for a command line that is not understood. -/
def usageStatus : Nat := 2

/-- What comes of a request. -/
def Request.answer (describe : Fault → String) (files : Files) (env : Environment) :
    Request → Answer
  | run config command =>
    let outcome := command.run describe files env config
    ⟨if outcome.error.isSome then 1 else 0, outcome.output, outcome.error⟩
  | version => ⟨0, versionText, none⟩
  | help => ⟨0, helpText, none⟩

/-- What comes of a command line. -/
def answer (describe : Fault → String) (files : Files) (env : Environment) (args : List String) :
    Answer :=
  match parse? env args with
  | some request => request.answer describe files env
  | none => ⟨usageStatus, "", none⟩

end Colloquy.CommandLine
