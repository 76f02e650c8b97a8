import Colloquy.Json.Record

/-!
# Dialogues

A dialogue is a list of turns, each with the role of its speaker. Turns are read from JSON and
written to it; `tool` is another name of the role `observation`.
-/

namespace Colloquy

/-- Who speaks in a turn. -/
inductive Role where
  | user
  | assistant
  | system
  | function
  | observation
deriving DecidableEq, Repr

/-- What one speaker says. -/
structure Turn where
  role : Role
  content : String
deriving DecidableEq, Repr

namespace Role

/-- The name under which a role is written. -/
def name : Role → String
  | user => "user"
  | assistant => "assistant"
  | system => "system"
  | function => "function"
  | observation => "observation"

/-- The role with a given name. -/
def ofName? (name : String) : Option Role :=
  if name = "user" then some user
  else if name = "assistant" then some assistant
  else if name = "system" then some system
  else if name = "function" then some function
  else if name = "observation" ∨ name = "tool" then some observation
  else none

/-- Whether a turn of this role asks for a reply. -/
def asksForReply : Role → Bool
  | user => true
  | observation => true
  | _ => false

/-- The role that a document names. -/
def ofDocument? (room : Nat) (d : Json.Document) : Option Role :=
  (d.name? room).bind ofName?

@[simp] theorem ofName?_name (r : Role) : ofName? r.name = some r := by
  cases r <;> rfl

end Role

namespace Turn

/-- The fields of a turn. -/
def fieldNames : List String := ["role", "content"]

/-- The turn that a document writes. -/
def ofDocument? (room : Nat) (d : Json.Document) : Option Turn := do
  let fields ← d.fields? fieldNames room
  let role ← (fields.lookup "role").bind (Role.ofDocument? (room - 1))
  let content ← Json.Document.textField? fields "content"
  return ⟨role, content⟩

/-- The turns that a document writes. -/
def listOfDocument? (d : Json.Document) : Option (List Turn) :=
  d.items? Json.maxNesting ofDocument?

/-- The turns that a JSON text writes. -/
def parseList? (s : String) : Option (List Turn) :=
  (Json.Document.parse? s).bind listOfDocument?

/-- A turn as a JSON object. -/
def toJson (t : Turn) : Json :=
  .obj [("role", .str t.role.name), ("content", .str t.content)]

/-- Turns as a JSON array. -/
def listToJson (turns : List Turn) : Json :=
  .arr (turns.map toJson)

end Turn

end Colloquy
