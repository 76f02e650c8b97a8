import Colloquy.Budget
import Colloquy.Error
import Colloquy.Template.Registry
import Colloquy.Text.Quoted

/-!
# Configurations

A configuration names the template to use, a length budget, and templates of its own. What it says
of a template is unchecked; `TemplateConfig.spec` checks it. `Config.check` finds what is wrong with
the rest.
-/

namespace Colloquy

/-- A formatter as a configuration describes it. -/
inductive FormatterConfig where
  | empty (slots : List Slot)
  | string (slots : List Slot)
  | function (slots : List Slot)
  | tool (format : String)
deriving DecidableEq, Repr

/-- A template as a configuration describes it. -/
structure TemplateConfig where
  name : String
  defaultSystem : String
  stopWords : List String
  efficientEos : Bool
  replaceEos : Bool
  forceSystem : Bool
  injection : Option SystemInjection
  user : Option FormatterConfig
  assistant : Option FormatterConfig
  system : Option FormatterConfig
  function : Option FormatterConfig
  observation : Option FormatterConfig
  tools : Option FormatterConfig
  separator : Option FormatterConfig
deriving DecidableEq, Repr

/-- A configuration. -/
structure Config where
  template : Option String
  budget : Budget
  templates : List TemplateConfig
deriving DecidableEq, Repr

/-- What is wrong with a configuration that is read. -/
inductive ConfigInvalid where
  | zeroCutoff
  | reservedAboveCutoff
  | blankName
  | duplicateName (name : String)
  | missingStopWords (name : String)
  /-- The environment gives a cutoff that is no number. -/
  | badCutoff (raw : String)
deriving DecidableEq, Repr

/-- The wording of what is wrong. -/
def ConfigInvalid.message : ConfigInvalid → String
  | zeroCutoff => "cutoff_len must be greater than 0"
  | reservedAboveCutoff => "reserved_label_len must not exceed cutoff_len"
  | blankName => "template name must not be empty"
  | duplicateName name => "template " ++ name ++ " is defined more than once"
  | missingStopWords name => "template " ++ name ++ " sets replace_eos without stop_words"
  | badCutoff raw =>
    "PROMPTLOOM_CUTOFF_LEN must be a positive integer, got " ++ Text.quoted raw

/-- A configuration that cannot be had. -/
inductive ConfigError where
  | read (path : String) (fault : Fault)
  | parse (path : String) (fault : Fault)
  | invalid (what : ConfigInvalid)
deriving DecidableEq, Repr

/-- The wording of an error. -/
def ConfigError.message (describe : Fault → String) : ConfigError → String
  | read path fault => "Failed to read config file at " ++ path ++ ": " ++ describe fault
  | parse path fault => "Failed to parse config file at " ++ path ++ ": " ++ describe fault
  | invalid what => "Configuration validation failed: " ++ what.message

/-! ## Checked templates -/

/-- The formatter that a description stands for. -/
def FormatterConfig.formatter : FormatterConfig → Except FormatterFault Formatter
  | empty slots => Formatter.fixed? slots
  | string slots => Formatter.content? slots
  | function slots => Formatter.call? slots
  | tool format => Formatter.manifest? format

/-- The formatter that a description stands for, if there is one. -/
def FormatterConfig.optional : Option FormatterConfig → Except FormatterFault (Option Formatter)
  | some f => f.formatter.map some
  | none => .ok none

namespace TemplateConfig

/-- The description of a template with its formatters checked one after the other. -/
def spec (c : TemplateConfig) : Except FormatterFault Template.Spec := do
  let user ← FormatterConfig.optional c.user
  let assistant ← FormatterConfig.optional c.assistant
  let system ← FormatterConfig.optional c.system
  let function ← FormatterConfig.optional c.function
  let observation ← FormatterConfig.optional c.observation
  let tools ← FormatterConfig.optional c.tools
  let separator ← FormatterConfig.optional c.separator
  return {
    name := c.name
    user, assistant, system, function, observation, tools, separator
    defaultSystem := c.defaultSystem
    stopWords := c.stopWords
    efficientEos := c.efficientEos
    replaceEos := c.replaceEos
    forceSystem := c.forceSystem
    injection := c.injection }

/-- What is wrong with a template, where templates of the names in `seen` came before it. -/
def check (seen : List String) (c : TemplateConfig) : Except ConfigInvalid Unit :=
  if (Text.trim c.name.toList).isEmpty then .error .blankName
  else if c.name ∈ seen then .error (.duplicateName c.name)
  else if c.replaceEos && c.stopWords.isEmpty then .error (.missingStopWords c.name)
  else .ok ()

/-- What is wrong with templates, where templates of the names in `seen` came before them. -/
def checkAll (seen : List String) : List TemplateConfig → Except ConfigInvalid Unit
  | [] => .ok ()
  | c :: rest => do
    c.check seen
    checkAll (c.name :: seen) rest

end TemplateConfig

namespace Config

/-- The configuration when nothing is configured. -/
def standard : Config := ⟨none, Budget.standard, []⟩

/-- What is wrong with a configuration. -/
def check (c : Config) : Except ConfigInvalid Unit :=
  if c.budget.cutoff = 0 then .error .zeroCutoff
  else if c.budget.cutoff < c.budget.reserved then .error .reservedAboveCutoff
  else TemplateConfig.checkAll [] c.templates

end Config

/-- A registry with one more template, described by a configuration. -/
def Registry.insertConfig (r : Registry) (c : TemplateConfig) : Except TemplateError Registry :=
  match c.spec with
  | .ok spec => .ok (r.insert spec.build)
  | .error fault => .error (.invalidFormatter fault)

end Colloquy
