import Colloquy.Json.Record
import Colloquy.Json.Printer

/-!
# Tools and calls

A manifest is a JSON array of tool definitions: what a model is told about the tools it may use.
A call is what the model answers when it decides to use one.
-/

namespace Colloquy.Tool

/-- A tool: its name, what it does, and a schema of its parameters. -/
structure Definition where
  name : String
  description : String
  parameters : Json

/-- A call of a tool; the arguments are JSON text. -/
structure Call where
  name : String
  arguments : String
deriving DecidableEq, Repr

namespace Definition

/-- The fields of a tool definition. -/
def fieldNames : List String := ["name", "description", "parameters"]

/-- The tool definition that a document writes. -/
def ofDocument? (room : Nat) (d : Json.Document) : Option Definition := do
  let fields ← d.fields? fieldNames room
  let name ← Json.Document.textField? fields "name"
  let description ← Json.Document.textFieldOrEmpty? fields "description"
  let parameters ← Json.Document.valueFieldOrNull? (room - 1) fields "parameters"
  return ⟨name, description, parameters⟩

/-- The tool definitions that a manifest lists. -/
def parseList? (s : String) : Option (List Definition) :=
  (Json.Document.parse? s).bind (·.items? Json.maxNesting ofDocument?)

/-- A tool definition as a JSON object. -/
def toJson (t : Definition) : Json :=
  .obj [("name", .str t.name), ("description", .str t.description), ("parameters", t.parameters)]

/-- The names of the parameters that a call has to give. -/
def required (t : Definition) : List String :=
  match (t.parameters.get? "required").bind Json.asArr? with
  | some names => names.filterMap Json.asStr?
  | none => []

end Definition

namespace Call

/-- The fields of a call. -/
def fieldNames : List String := ["name", "arguments"]

/-- The call that a document writes. -/
def ofDocument? (room : Nat) (d : Json.Document) : Option Call := do
  let fields ← d.fields? fieldNames room
  let name ← Json.Document.textField? fields "name"
  let arguments ← Json.Document.textField? fields "arguments"
  return ⟨name, arguments⟩

/-- The call that a JSON text writes. -/
def parse? (s : String) : Option Call :=
  (Json.Document.parse? s).bind (ofDocument? Json.maxNesting)

/-- A call as a JSON object. -/
def toJson (c : Call) : Json :=
  .obj [("name", .str c.name), ("arguments", .str c.arguments)]

/-- The call in a payload: a JSON object with a string under `name` and any value under
`arguments`, which is written on one line with blanks. -/
def ofPayload? (payload : String) : Option Call := do
  let value ← Json.parse? payload
  let name ← (value.get? "name").bind Json.asStr?
  let arguments ← value.get? "arguments"
  return ⟨name, arguments.write .spaced⟩

end Call

end Colloquy.Tool
