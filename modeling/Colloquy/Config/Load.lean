import Colloquy.Config.Data
import Colloquy.Files
import Colloquy.Toml.Printer

/-!
# Loading configurations

A configuration file is a TOML document. Without a file the standard configuration counts. When the
file is not chosen by the caller, the environment may override the template and the cutoff.
-/

namespace Colloquy

/-- A number of at most 64 bits, written in decimal digits after an optional plus. -/
def readLength? (s : String) : Option Nat :=
  let digits := match s.toList with
    | '+' :: rest => rest
    | cs => cs
  if digits = [] ∨ !digits.all Char.isDigit then none
  else
    let n := Json.readDigits 0 digits
    if n < 0x10000000000000000 then some n else none

namespace Config

/-- The configuration that a TOML document describes. -/
def parse? (s : String) : Option Config :=
  (Toml.parse? s).bind fun t => ofJson? .toml t.toJson

/-- A configuration as a TOML document. -/
def toToml? (c : Config) : Option String :=
  match Toml.ofJson? c.toJson with
  | some (.table entries) => some (Toml.write entries)
  | _ => none

/-- The configuration in a file. -/
def loadFrom (files : Files) (path : String) : Except ConfigError Config :=
  match files path with
  | .missing => .ok standard
  | .unreadable => .error (.read path .unreadable)
  | .text s =>
    match parse? s with
    | none => .error (.parse path .malformed)
    | some c =>
      match c.check with
      | .ok () => .ok c
      | .error what => .error (.invalid what)

/-- A configuration with the template of the environment, if that has one. -/
def overrideTemplate (c : Config) : Option String → Config
  | some name => { c with template := some name }
  | none => c

/-- A configuration with the cutoff of the environment, if that has one. -/
def overrideCutoff (c : Config) : Option String → Except ConfigInvalid Config
  | some raw =>
    match readLength? raw with
    | some n => do
      let c := { c with budget := { c.budget with cutoff := n } }
      c.check
      return c
    | none => .error (.badCutoff raw)
  | none => .ok c

/-- The configuration of an environment. -/
def loadStandard (files : Files) (env : Environment) : Except ConfigError Config := do
  let c ← loadFrom files env.configPath
  ((c.overrideTemplate env.template).overrideCutoff env.cutoff).mapError .invalid

/-- The configuration in a chosen file, or that of the environment. -/
def load (files : Files) (env : Environment) : Option String → Except ConfigError Config
  | some path => loadFrom files path
  | none => loadStandard files env

end Config

end Colloquy
