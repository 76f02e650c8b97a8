import Colloquy.Template.Basic
import Colloquy.Tokenizer.Basic

/-!
# Encoding dialogues

A dialogue is encoded turn by turn: each turn becomes slots, the slots become ids, and the encoded
turns are paired under a budget. The first turn comes with the system prompt, and what separates
rounds comes ahead of every later prompt:

    turn 0:   system + prompt      response
    turn 2k:  separator + prompt   response

`encodeRounds` gives one pair per round; `encodeWhole` gives one pair whose response is the last
response of the dialogue. A dialogue that ends in a turn asking for a reply can be encoded whole;
its response is what the budget leaves of the last pair, which is empty when that pair is reached.
-/

namespace Colloquy

/-- The ids of a prompt and of the response to it. -/
structure EncodedPair where
  prompt : List TokenId
  response : List TokenId
deriving DecidableEq, Repr

/-- What comes before a turn: slots ahead of it, and a text put in front of what a user says. -/
structure Opening where
  ahead : List Slot
  glued : String
deriving DecidableEq, Repr

namespace Opening

/-- Nothing. -/
def none : Opening := ⟨[], ""⟩

end Opening

namespace Template

/-! ## Slots of a turn -/

/-- The system prompt: the given one, or that of the template when none or an empty one is given. -/
def systemText (t : Template) : Option String → String
  | some s => if s.isEmpty then t.defaultSystem else s
  | none => t.defaultSystem

/-- A manifest that is there and not empty. -/
def presentTools? (tools : Option String) : Option String :=
  tools.filter (!·.isEmpty)

/-- What a template tells of the tools in a manifest. -/
def toolText (t : Template) : Option String → String
  | some manifest => (Slot.firstText? (t.tools.apply (.ofContent manifest))).getD ""
  | none => ""

/-- The slots of a system prompt and tools. -/
def renderSystem (t : Template) (system : String) (tools : Option String) : List Slot :=
  t.system.apply (.ofContent (system ++ t.toolText tools))

/-- Whether a dialogue begins with a system prompt. -/
def opensWithSystem (t : Template) (system : String) (tools : Option String) : Bool :=
  !system.isEmpty || tools.isSome || t.forceSystem

/-- What comes before the first turn. -/
def opening (t : Template) (system : String) (tools : Option String) :
    Except TemplateError Opening :=
  if t.opensWithSystem system tools then
    let slots := t.renderSystem system tools
    match t.injection with
    | .leading => .ok ⟨slots, ""⟩
    | .prependToFirstUser =>
      match Slot.firstText? slots with
      | some glued => .ok ⟨[], glued⟩
      | none => .error (.invalidFormatter (.systemNotText t.name))
  else .ok .none

/-- What comes before turn `i`. -/
def before (t : Template) (system : String) (tools : Option String) (i : Nat) :
    Except TemplateError Opening :=
  if i = 0 then t.opening system tools
  else if i % 2 = 0 then .ok ⟨t.separator.skeleton, ""⟩
  else .ok .none

/-- The slots of what is said in turn `i`, with a text put in front of what a user says. -/
def say (t : Template) (i : Nat) (glued : String) (turn : Turn) :
    Except TemplateError (List Slot) :=
  match turn.role with
  | .user => .ok (t.user.apply ⟨some (glued ++ turn.content), some (toString (i / 2))⟩)
  | .assistant => .ok (t.assistant.apply (.ofContent turn.content))
  | .observation => .ok (t.observation.apply (.ofContent turn.content))
  | .function => .ok (t.function.apply (.ofContent turn.content))
  | .system => .error (.unexpectedRole turn.role.name)

/-- The slots of turn `i`. -/
def turnSlots (t : Template) (system : String) (tools : Option String) (i : Nat) (turn : Turn) :
    Except TemplateError (List Slot) := do
  let start ← t.before system tools i
  let said ← t.say i start.glued turn
  return start.ahead ++ said

/-! ## Ids of a dialogue -/

variable {τ : Type} [Tokenizer τ]

/-- The ids of turn `i`. -/
def encodeTurn (t : Template) (tok : τ) (system : String) (tools : Option String) (i : Nat)
    (turn : Turn) : Except EncodeError (List TokenId) := do
  let slots ← (t.turnSlots system tools i turn).mapError .template
  (Slot.encodeAll tok slots).mapError .tokenizer

/-- The ids of each turn, the first of which is turn `i`. -/
def encodeTurns (t : Template) (tok : τ) (system : String) (tools : Option String) (i : Nat) :
    List Turn → Except EncodeError (List (List TokenId))
  | [] => .ok []
  | turn :: rest => do
    let ids ← t.encodeTurn tok system tools i turn
    let more ← t.encodeTurns tok system tools (i + 1) rest
    return ids :: more

/-- Whether the last turn of a dialogue asks for a reply. -/
def awaitsReply (turns : List Turn) : Bool :=
  match turns.getLast? with
  | some turn => turn.role.asksForReply
  | none => false

/-- The pairs of a dialogue within a budget. An odd number of turns is accepted only where the last
turn may be left open and asks for a reply; the reply is empty then. -/
def encodePairs (t : Template) (tok : τ) (turns : List Turn) (system tools : Option String)
    (budget : Budget) (mayBeOpen : Bool) :
    Except EncodeError (List (List TokenId × List TokenId)) :=
  let isOpen := turns.length % 2 == 1
  if isOpen && !(mayBeOpen && awaitsReply turns) then
    .error (.template (.oddTurnCount turns.length))
  else do
    let encoded ← t.encodeTurns tok (t.systemText system) (presentTools? tools) 0 turns
    return budget.pairUp (if isOpen then encoded ++ [[]] else encoded)

/-- One pair for each round of a dialogue. -/
def encodeRounds (t : Template) (tok : τ) (turns : List Turn) (system tools : Option String)
    (budget : Budget) : Except EncodeError (List EncodedPair) :=
  return (← t.encodePairs tok turns system tools budget false).map fun p => ⟨p.1, p.2⟩

/-- All pairs as one: the prompt is everything but the last response. -/
def joinPairs (pairs : List (List TokenId × List TokenId)) : EncodedPair :=
  match pairs.getLast? with
  | some (prompt, response) =>
    ⟨pairs.dropLast.flatMap (fun p => p.1 ++ p.2) ++ prompt, response⟩
  | none => ⟨[], []⟩

/-- One pair for a whole dialogue. -/
def encodeWhole (t : Template) (tok : τ) (turns : List Turn) (system tools : Option String)
    (budget : Budget) : Except EncodeError EncodedPair :=
  if turns.isEmpty then .error (.template .emptyDialogue)
  else return joinPairs (← t.encodePairs tok turns system tools budget true)

end Template

end Colloquy
