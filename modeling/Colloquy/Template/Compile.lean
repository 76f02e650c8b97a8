import Colloquy.Jinja.Basic
import Colloquy.Template.Basic
import Colloquy.Tokenizer.Basic

/-!
# Compiling templates

A template as a Jinja program that renders the messages of a dialogue in the same way. A leading
message of the role `system` replaces the default system prompt. The program handles user and
assistant messages; what separates rounds follows each assistant message.

The tokens that begin and end a sequence are written into the program as the tokenizer names them
at the time. A program cannot say the round number, the parts of a call, or a token by its id.
-/

namespace Colloquy.Template

open Jinja (Expr Stmt)

variable {τ : Type} [Tokenizer τ]

/-! ## Slots as expressions -/

/-- A text as an expression, unless it is empty. -/
def textItem (s : List Char) : List Expr :=
  if s.isEmpty then [] else [.text (String.ofList s)]

/-- The pieces of a text with a variable between them. -/
def fillIn (var : Expr) : List (List Char) → List Expr
  | [] => []
  | piece :: rest => textItem piece ++ rest.flatMap fun p => var :: textItem p

/-- The first placeholder of a text that is not the content. -/
def foreignPlaceholder? (s : List Char) : Option (List Char) :=
  (Placeholder.names s).find? (· ≠ "content".toList)

/-- A special token by name, if it has an id. -/
def specialItem (id : Option TokenId) (name : Option String) : List Expr :=
  if id.isSome then (name.map Expr.text).toList else []

/-- The expressions whose texts a slot stands for, with a variable for the content. -/
def slotItems (tok : τ) (var : Expr) : Slot → Except Unsupported (List Expr)
  | .text s =>
    match foreignPlaceholder? s.toList with
    | some name => .error (.placeholder (String.ofList name))
    | none => .ok (fillIn var (Text.splitOn Placeholder.content s.toList))
  | .token name => .error (.token name)
  | .bos => .ok (specialItem (Tokenizer.bosId tok) (Tokenizer.bos tok))
  | .eos => .ok (specialItem (Tokenizer.eosId tok) (Tokenizer.eos tok))

/-- The text that slots stand for as one expression. -/
def slotsExpr (tok : τ) (role : Role) (var : Expr) (slots : List Slot) :
    Except CompileError Expr :=
  match slots.mapM (slotItems tok var) with
  | .ok items => .ok (.joinAll items.flatten)
  | .error unsupported => .error ⟨role, unsupported⟩

/-! ## The parts of a program -/

/-- The variable that holds the system prompt. -/
def systemVar : Expr := .var "system_message"

/-- The variable that holds the content of the message at hand. -/
def contentVar : Expr := .var "content"

/-- The role of a message. -/
def roleOf (message : Expr) : Expr := .item message (.text "role")

/-- The content of a message. -/
def contentOf (message : Expr) : Expr := .item message (.text "content")

/-- The first message of the dialogue. -/
def firstMessage : Expr := .item (.var "messages") (.number 0)

/-- The message at hand. -/
def thisMessage : Expr := .var "message"

/-- Whether a message has a given role. -/
def hasRole (message : Expr) (role : Role) : Expr := .equal (roleOf message) (.text role.name)

/-- The default system prompt, unless it is empty. -/
def defaultPart (t : Template) : List Stmt :=
  if t.defaultSystem.isEmpty then [] else [.set "system_message" (.text t.defaultSystem)]

/-- A leading system message replaces the default. -/
def messagePart : Stmt :=
  .cond (hasRole firstMessage .system) [.set "system_message" (contentOf firstMessage)] []

/-- The system prompt ahead of all messages. -/
def systemPart (t : Template) (system : Expr) : List Stmt :=
  match t.injection with
  | .prependToFirstUser => []
  | .leading =>
    if t.forceSystem then [.output system]
    else [.cond (.isDefined systemVar) [.output system] []]

/-- The system prompt in front of the first user message, which may stand behind a leading system
message. -/
def gluePart (t : Template) (system : Expr) : List Stmt :=
  match t.injection with
  | .leading => []
  | .prependToFirstUser =>
    [.cond
      (.both
        (.both (hasRole thisMessage .user)
          (.equal (.field (.var "loop") "index0")
            (.choose (.number 1) (hasRole firstMessage .system) (.number 0))))
        (.isDefined systemVar))
      [.set "content" (.join system (contentOf thisMessage))] []]

/-- What is done for each message. -/
def messageLoop (t : Template) (system user assistant : Expr) : Stmt :=
  .each "message" (.var "messages")
    (.set "content" (contentOf thisMessage) :: t.gluePart system ++
      [.cond (hasRole thisMessage .user) [.output user]
        [(hasRole thisMessage .assistant, [.output assistant])]])

/-- The program of a template for a tokenizer. -/
def program (t : Template) (tok : τ) : Except CompileError (List Stmt) := do
  let system ← slotsExpr tok .system systemVar t.system.skeleton
  let user ← slotsExpr tok .user contentVar t.user.skeleton
  let assistant ← slotsExpr tok .assistant contentVar
    (t.assistant.skeleton ++ t.separator.skeleton)
  return t.defaultPart ++ messagePart :: t.systemPart system ++
    [t.messageLoop system user assistant]

/-- The chat template that a template compiles to for a tokenizer. -/
def compile (t : Template) (tok : τ) : Except CompileError String :=
  return Jinja.write (← t.program tok)

end Colloquy.Template
