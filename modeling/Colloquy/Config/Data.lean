import Colloquy.Config.Basic
import Colloquy.Toml.Basic

/-!
# Configurations as data

A configuration is read from a tree of data, which a TOML document or a JSON text gives, and written
as one. A record is an object, or an array of its fields in their order from which fields at the end
may be missing. A formatter is a record whose first field `kind` says what the others are. A case
without contents is its name, or an object with the name as its one key.

Two rules depend on where the tree comes from: what stands for no contents, and whether an array may
have more items than a record has fields.
-/

namespace Colloquy

/-- Where a tree of data comes from. -/
inductive DataSource where
  | json
  | toml
deriving DecidableEq, Repr

namespace DataSource

/-- Whether a value under the name of a case says that the case has no contents. -/
def isNothing : DataSource → Json → Bool
  | json, .null => true
  | toml, .obj [] => true
  | toml, .arr [] => true
  | _, _ => false

/-- The fields of a record with the given field names. -/
def fields? (source : DataSource) (names : List String) : Json → Option (List (String × Json))
  | .obj members => some members
  | .arr items =>
    if source = json ∧ names.length < items.length then none else some (names.zip items)
  | _ => none

end DataSource

namespace Data

/-- A field that has to be there. -/
def required? {α : Type} (read? : Json → Option α) (fields : List (String × Json))
    (name : String) : Option α :=
  (fields.lookup name).bind read?

/-- A field with a value of its own when it is missing. -/
def defaulted? {α : Type} (read? : Json → Option α) (other : α) (fields : List (String × Json))
    (name : String) : Option α :=
  match fields.lookup name with
  | some v => read? v
  | none => some other

/-- A field that may be missing or `null`. -/
def optional? {α : Type} (read? : Json → Option α) (fields : List (String × Json))
    (name : String) : Option (Option α) :=
  match fields.lookup name with
  | some .null => some none
  | some v => (read? v).map some
  | none => some none

/-- A truth value. -/
def bool? : Json → Option Bool
  | .bool b => some b
  | _ => none

/-- A list of texts. -/
def texts? (v : Json) : Option (List String) :=
  v.asArr?.bind (·.mapM Json.asStr?)

/-- A length. -/
def length? : Json → Option Nat
  | .int n => if 0 ≤ n then some n.toNat else none
  | _ => none

end Data

namespace Slot

/-- The slot that a value describes. -/
def ofJson? : Json → Option Slot
  | .str "bos" => some .bos
  | .str "eos" => some .eos
  | .obj [("text", .str s)] => some (.text s)
  | .obj [("token", .str s)] => some (.token s)
  | .obj [("bos", .null)] => some .bos
  | .obj [("eos", .null)] => some .eos
  | .obj [("bos", .obj [])] => some .bos
  | .obj [("eos", .obj [])] => some .eos
  | _ => none

/-- A slot as a value. -/
def toJson : Slot → Json
  | .text s => .obj [("text", .str s)]
  | .token s => .obj [("token", .str s)]
  | .bos => .str "bos"
  | .eos => .str "eos"

/-- The slots that a value describes. -/
def listOfJson? (v : Json) : Option (List Slot) :=
  v.asArr?.bind (·.mapM ofJson?)

end Slot

namespace SystemInjection

/-- The name under which a place of the system prompt is written. -/
def name : SystemInjection → String
  | leading => "leading"
  | prependToFirstUser => "prepend_to_first_user"

/-- The place of the system prompt with a given name. -/
def ofName? (name : String) : Option SystemInjection :=
  if name = "leading" then some leading
  else if name = "prepend_to_first_user" then some prependToFirstUser
  else none

/-- The place of the system prompt that a value names. -/
def ofJson? (source : DataSource) : Json → Option SystemInjection
  | .str name => ofName? name
  | .obj [(name, v)] => if source.isNothing v then ofName? name else none
  | _ => none

end SystemInjection

namespace FormatterConfig

/-- The formatter of a kind with the given further fields. -/
def ofFields? (kind : String) (fields : List (String × Json)) : Option FormatterConfig :=
  match kind with
  | "empty" => (Data.defaulted? Slot.listOfJson? [] fields "slots").map .empty
  | "string" => (Data.required? Slot.listOfJson? fields "slots").map .string
  | "function" => (Data.required? Slot.listOfJson? fields "slots").map .function
  | "tool" => (Data.defaulted? Json.asStr? "default" fields "format").map .tool
  | _ => none

/-- The name of the field that a formatter of a kind has beside its kind. -/
def fieldOf (kind : String) : String :=
  if kind = "tool" then "format" else "slots"

/-- The formatter that a value describes. -/
def ofJson? : Json → Option FormatterConfig
  | .obj members =>
    match members.lookup "kind" with
    | some (.str kind) => ofFields? kind members
    | _ => none
  | .arr [.str kind] => ofFields? kind []
  | .arr [.str kind, v] => ofFields? kind [(fieldOf kind, v)]
  | _ => none

/-- A formatter as a value. -/
def toJson : FormatterConfig → Json
  | empty slots => .obj [("kind", .str "empty"), ("slots", .arr (slots.map Slot.toJson))]
  | string slots => .obj [("kind", .str "string"), ("slots", .arr (slots.map Slot.toJson))]
  | function slots => .obj [("kind", .str "function"), ("slots", .arr (slots.map Slot.toJson))]
  | tool format => .obj [("kind", .str "tool"), ("format", .str format)]

end FormatterConfig

namespace TemplateConfig

/-- The fields of a template. -/
def fieldNames : List String :=
  ["name", "default_system", "stop_words", "efficient_eos", "replace_eos", "force_system",
    "system_injection", "user", "assistant", "system", "function", "observation", "tools",
    "separator"]

/-- The template that a value describes. -/
def ofJson? (source : DataSource) (v : Json) : Option TemplateConfig := do
  let fields ← source.fields? fieldNames v
  let formatter := Data.optional? FormatterConfig.ofJson? fields
  return {
    name := ← Data.required? Json.asStr? fields "name"
    defaultSystem := ← Data.defaulted? Json.asStr? "" fields "default_system"
    stopWords := ← Data.defaulted? Data.texts? [] fields "stop_words"
    efficientEos := ← Data.defaulted? Data.bool? false fields "efficient_eos"
    replaceEos := ← Data.defaulted? Data.bool? false fields "replace_eos"
    forceSystem := ← Data.defaulted? Data.bool? false fields "force_system"
    injection := ← Data.optional? (SystemInjection.ofJson? source) fields "system_injection"
    user := ← formatter "user"
    assistant := ← formatter "assistant"
    system := ← formatter "system"
    function := ← formatter "function"
    observation := ← formatter "observation"
    tools := ← formatter "tools"
    separator := ← formatter "separator" }

/-- A template as a value; formatters and a place of the system prompt that are not set are left
out. -/
def toJson (c : TemplateConfig) : Json :=
  Json.ofMembers [
    ("name", some (.str c.name)),
    ("default_system", some (.str c.defaultSystem)),
    ("stop_words", some (.arr (c.stopWords.map .str))),
    ("efficient_eos", some (.bool c.efficientEos)),
    ("replace_eos", some (.bool c.replaceEos)),
    ("force_system", some (.bool c.forceSystem)),
    ("system_injection", c.injection.map fun i => .str i.name),
    ("user", c.user.map FormatterConfig.toJson),
    ("assistant", c.assistant.map FormatterConfig.toJson),
    ("system", c.system.map FormatterConfig.toJson),
    ("function", c.function.map FormatterConfig.toJson),
    ("observation", c.observation.map FormatterConfig.toJson),
    ("tools", c.tools.map FormatterConfig.toJson),
    ("separator", c.separator.map FormatterConfig.toJson)]

end TemplateConfig

namespace Config

/-- The configuration that a value describes. -/
def ofJson? (source : DataSource) (v : Json) : Option Config := do
  let fields ← v.asObj?
  let template ← Data.optional? Json.asStr? fields "template"
  let cutoff ← Data.defaulted? Data.length? Budget.standard.cutoff fields "cutoff_len"
  let reserved ← Data.defaulted? Data.length? Budget.standard.reserved fields "reserved_label_len"
  let templates ←
    Data.defaulted? (fun v => v.asArr?.bind (·.mapM (TemplateConfig.ofJson? source))) [] fields
      "templates"
  return ⟨template, ⟨cutoff, reserved⟩, templates⟩

/-- A configuration as a value. -/
def toJson (c : Config) : Json :=
  Json.ofMembers [
    ("template", c.template.map .str),
    ("cutoff_len", some (.int c.budget.cutoff)),
    ("reserved_label_len", some (.int c.budget.reserved)),
    ("templates",
      if c.templates.isEmpty then none else some (.arr (c.templates.map TemplateConfig.toJson)))]

end Config

end Colloquy
