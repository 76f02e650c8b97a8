import Colloquy.Dialogue
import Colloquy.Formatter

/-!
# Errors

What can go wrong, as causes, and the wording of each. Where a cause lies in a text in some other
format, or in a file, the error holds a `Fault`, and whoever words the error says how faults are
described.
-/

namespace Colloquy

/-- Why a file or its text cannot be used. -/
inductive Fault where
  /-- There is no such file. -/
  | missing
  /-- The file cannot be read as text. -/
  | unreadable
  /-- The text does not follow its format. -/
  | malformed
deriving DecidableEq, Repr

/-- A short description of a fault. -/
def Fault.describe : Fault → String
  | missing => "no such file"
  | unreadable => "the file cannot be read as text"
  | malformed => "the text does not follow its format"

/-- A dialogue or a template that cannot be used. -/
inductive TemplateError where
  | notFound (name : String)
  | unexpectedRole (role : String)
  | oddTurnCount (turns : Nat)
  | emptyDialogue
  | missingStopWords (template : String)
  | invalidFormatter (fault : FormatterFault)
deriving DecidableEq, Repr

/-- The wording of an error. -/
def TemplateError.message : TemplateError → String
  | notFound name => "Template " ++ name ++ " does not exist"
  | unexpectedRole role => "Unexpected role: " ++ role
  | oddTurnCount turns =>
    "Dialogue must contain prompt/response pairs, got " ++ toString turns ++ " turns"
  | emptyDialogue => "Dialogue is empty"
  | missingStopWords template =>
    "Stop words are required to replace the EOS token (template: " ++ template ++ ")"
  | invalidFormatter fault => "Invalid formatter: " ++ fault.message

/-- A tokenizer that cannot be loaded or does not do what it is asked. -/
inductive TokenizerError where
  | load (path : String) (fault : Fault)
  /-- A word is unknown and the vocabulary lacks the token for unknown words. -/
  | noUnknownToken
  /-- The tokenizer takes no chat templates. -/
  | templatesDisabled
deriving DecidableEq, Repr

/-- The wording of an error. -/
def TokenizerError.message (describe : Fault → String) : TokenizerError → String
  | load path fault => "Failed to load tokenizer from " ++ path ++ ": " ++ describe fault
  | noUnknownToken =>
    "Encoding failed: WordLevel error: Missing [UNK] token from the vocabulary"
  | templatesDisabled => "Chat template rejected: templates disabled"

/-- What a chat template cannot express. -/
inductive Unsupported where
  | placeholder (name : String)
  | token (name : String)
deriving DecidableEq, Repr

/-- The wording of what cannot be expressed. -/
def Unsupported.message : Unsupported → String
  | placeholder name => "placeholder \x7b\x7b" ++ name ++ "\x7d\x7d has no Jinja counterpart"
  | token name => "token slot " ++ name ++ " cannot be expressed as text"

/-- A template that cannot be compiled: the formatter concerned, by its role, and what of it. -/
structure CompileError where
  role : Role
  unsupported : Unsupported
deriving DecidableEq, Repr

/-- The wording of an error. -/
def CompileError.message (e : CompileError) : String :=
  "Unsupported slot in " ++ e.role.name ++ " formatter: " ++ e.unsupported.message

/-- A dialogue that cannot be encoded. -/
inductive EncodeError where
  | template (e : TemplateError)
  | tokenizer (e : TokenizerError)
deriving DecidableEq, Repr

/-- The wording of an error. -/
def EncodeError.message (describe : Fault → String) : EncodeError → String
  | template e => "Template error: " ++ e.message
  | tokenizer e => "Tokenizer error: " ++ e.message describe

end Colloquy
