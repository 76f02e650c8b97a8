import Colloquy.Catalog.Basic
import Colloquy.Config.Load
import Colloquy.Template.Encoding
import Colloquy.Template.Resolve
import Colloquy.Tokenizer.Load

/-!
# Commands

What the program can be told to do, and what comes of it: the text that is put out, and an error if
it fails. A command may put out something before it fails.
-/

namespace Colloquy

/-- What an encoding is made of. -/
structure EncodeArgs where
  template : Option String
  tokenizer : String
  dialogue : String
  system : Option String
  tools : Option String
  cutoff : Option Nat
  reserved : Option Nat
  single : Bool
deriving DecidableEq, Repr

/-- What the program can be told to do. -/
inductive Command where
  | list
  | compile (template : Option String) (tokenizer : String)
  | encode (args : EncodeArgs)
  | showConfig
  | configPath
  | validateConfig
deriving DecidableEq, Repr

/-- Why a command fails. -/
inductive CommandError where
  | config (e : ConfigError)
  | template (e : TemplateError)
  | tokenizer (e : TokenizerError)
  | compile (e : CompileError)
  | encode (e : EncodeError)
  | dialogueUnreadable (path : String) (fault : Fault)
  | dialogueMalformed
  | toolsUnreadable (fault : Fault)
  | configNotShown (e : ConfigError)
  /-- The configuration has a length that TOML cannot write. -/
  | configNotWritable
deriving DecidableEq, Repr

/-- The wording of an error. -/
def CommandError.message (describe : Fault → String) : CommandError → String
  | config e => e.message describe
  | template e => e.message
  | tokenizer e => e.message describe
  | compile e => e.message
  | encode e => e.message describe
  | dialogueUnreadable path fault =>
    "Configuration error: cannot read dialogue " ++ path ++ ": " ++ describe fault
  | dialogueMalformed => "Serialization error: " ++ describe .malformed
  | toolsUnreadable fault => describe fault
  | configNotShown e => "Failed to load config: " ++ e.message describe
  | configNotWritable => "out-of-range value for u64 type"

/-- What comes of a command. -/
structure Outcome where
  output : String
  error : Option CommandError
deriving DecidableEq, Repr

namespace Outcome

/-- An outcome with nothing put out before an error. -/
def ofExcept : Except CommandError String → Outcome
  | .ok output => ⟨output, none⟩
  | .error e => ⟨"", some e⟩

end Outcome

/-- The registry of the built-in templates and those of a configuration. -/
def Config.registry (c : Config) : Except TemplateError Registry :=
  c.templates.foldlM Registry.insertConfig Registry.builtins

end Colloquy
