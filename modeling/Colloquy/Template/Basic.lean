import Colloquy.Formatter

/-!
# Templates

A chat template has one formatter for each role of a dialogue, one for the tools that a model may
use, and one for what stands between two rounds. `Template.Spec` describes a template by what is
particular to it; `Spec.build` fills in the rest.
-/

namespace Colloquy

/-- Where the rendered system prompt goes. -/
inductive SystemInjection where
  /-- Its slots come ahead of the first turn. -/
  | leading
  /-- Its text is put in front of what the first user turn says. -/
  | prependToFirstUser
deriving DecidableEq, Repr

/-- A chat template. -/
structure Template where
  name : String
  user : Formatter
  assistant : Formatter
  system : Formatter
  function : Formatter
  observation : Formatter
  tools : Formatter
  separator : Formatter
  defaultSystem : String
  stopWords : List String
  efficientEos : Bool
  replaceEos : Bool
  forceSystem : Bool
  injection : SystemInjection
deriving DecidableEq, Repr

namespace Template

/-- The call in the answer of a model that was told of its tools by this template. -/
def extractCall? (t : Template) (answer : String) : Option Tool.Call :=
  t.tools.extract? answer

/-- A template described by what differs from the usual. -/
structure Spec where
  name : String
  user : Option Formatter := none
  assistant : Option Formatter := none
  system : Option Formatter := none
  function : Option Formatter := none
  observation : Option Formatter := none
  tools : Option Formatter := none
  separator : Option Formatter := none
  defaultSystem : String := ""
  stopWords : List String := []
  efficientEos : Bool := false
  replaceEos : Bool := false
  forceSystem : Bool := false
  injection : Option SystemInjection := none
deriving DecidableEq, Repr

namespace Spec

/-- The usual slots of a user, a system or an observation turn: the content alone. -/
def plainContent : Formatter :=
  .content [.text (String.ofList Placeholder.content)]

/-- A text and, unless the template saves it, the token that ends a sequence. -/
def closed (efficientEos : Bool) (s : List Char) : List Slot :=
  .text (String.ofList s) :: if efficientEos then [] else [.eos]

/-- The usual text of a call. -/
def callText : List Char :=
  "Action: ".toList ++ Placeholder.name ++ "\nAction Input: ".toList ++ Placeholder.arguments

/-- The usual place of the system prompt, which depends on the name of the template. -/
def usualInjection (name : String) : SystemInjection :=
  if (Text.afterStart? "llama2".toList name.toList).isSome then .prependToFirstUser else .leading

/-- The template that a description stands for. Observations look like user turns unless they are
described themselves. -/
def build (s : Spec) : Template where
  name := s.name
  user := s.user.getD plainContent
  assistant := s.assistant.getD (.content (closed s.efficientEos Placeholder.content))
  system := s.system.getD plainContent
  function := s.function.getD (.call (closed s.efficientEos callText))
  observation := s.observation.getD (s.user.getD plainContent)
  tools := s.tools.getD (.manifest .general)
  separator := s.separator.getD (.fixed [])
  defaultSystem := s.defaultSystem
  stopWords := s.stopWords
  efficientEos := s.efficientEos
  replaceEos := s.replaceEos
  forceSystem := s.forceSystem
  injection := s.injection.getD (usualInjection s.name)

end Spec

end Template

end Colloquy
