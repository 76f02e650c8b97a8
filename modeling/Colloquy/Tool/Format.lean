import Colloquy.Tool.Definition
import Colloquy.Tool.ActionBlock

/-!
# Tool formats

A tool format is a convention between a prompt and a model: `render` tells the model of the tools
in a manifest, and `extract` recognises a call in its answer. There is the general format with
action blocks and the format of GLM-4 models, in which a call is a name and its arguments on two
lines.
-/

namespace Colloquy.Tool

/-- A convention for telling of tools and calling them. -/
inductive Format where
  | general
  | glm4
deriving DecidableEq, Repr

namespace Format

/-- The name under which a format is chosen. -/
def name : Format → String
  | general => "default"
  | glm4 => "glm4"

/-- The format with a given name. -/
def ofName? (name : String) : Option Format :=
  if name = "default" then some general
  else if name = "glm4" then some glm4
  else none

@[simp] theorem ofName?_name (f : Format) : ofName? f.name = some f := by
  cases f <;> rfl

/-! ## The general format -/

/-- The text of a member of a schema, empty when it is absent or no string. -/
def textMember (key : String) (v : Json) : String :=
  ((v.get? key).bind Json.asStr?).getD ""

/-- A value in running text: a string without its quotation marks, any other value as JSON. -/
def plain : Json → String
  | .str s => s
  | v => v.write .compact

/-- Whether a value says nothing: `null`, `false`, or an empty string, array or object. -/
def saysNothing : Json → Bool
  | .null => true
  | .bool b => !b
  | .str s => s.isEmpty
  | .arr items => items.isEmpty
  | .obj members => members.isEmpty
  | _ => false

/-- What is said of the choices for a parameter. -/
def choices (schema : Json) : String :=
  match (schema.get? "enum").bind Json.asArr? with
  | some [] => ""
  | some values => ", should be one of [" ++ ", ".intercalate (values.map plain) ++ "]"
  | none => ""

/-- What is said of the items of a parameter. -/
def itemKind (schema : Json) : String :=
  match schema.get? "items" with
  | some items =>
    if saysNothing items then "" else ", where each item should be " ++ textMember "type" items
  | none => ""

/-- The line for one parameter of a tool. -/
def parameterLine (required : List String) (name : String) (schema : Json) : String :=
  "  - " ++ name ++ " (" ++ textMember "type" schema ++
    (if name ∈ required then ", required" else "") ++ "): " ++
    textMember "description" schema ++ choices schema ++ itemKind schema ++ "\n"

/-- The lines for the parameters of a tool, in the order of its schema. -/
def parameterLines (t : Definition) : String :=
  match (t.parameters.get? "properties").bind Json.asObj? with
  | some properties => String.join (properties.map fun p => parameterLine t.required p.1 p.2)
  | none => ""

/-- What is said of one tool. -/
def toolBlock (t : Definition) : String :=
  "> Tool Name: " ++ t.name ++ "\nTool Description: " ++ t.description ++ "\nTool Args:\n" ++
    parameterLines t ++ "\n"

/-- What is said before the tools. -/
def generalHead : String :=
  "You have access to the following tools:\n"

/-- What is said after the tools: how to call one of them. -/
def generalTail (names : List String) : String :=
  "Use the following format if using a tool:\n```\nAction: tool name (one of [" ++
    ", ".intercalate names ++
    "]).\nAction Input: the input to the tool, in a JSON format representing the kwargs " ++
    "(e.g. ```\x7b\"input\": \"hello world\", \"num_beams\": 5\x7d```).\n```\n"

/-- The tools of a manifest in the general format; nothing when there are none. -/
def renderGeneral : List Definition → String
  | [] => ""
  | tools => generalHead ++ String.join (tools.map toolBlock) ++ generalTail (tools.map (·.name))

/-! ## The GLM-4 format -/

/-- What is said before the tools. -/
def glm4Head : String :=
  "你是一个名为 ChatGLM 的人工智能助手。你是基于智谱AI训练的语言模型 GLM-4 模型开发的，" ++
    "你的任务是针对用户的问题和要求提供适当的答复和支持。# 可用工具"

/-- What is said of one tool: its name and its definition as it stands in the manifest. -/
def glm4Block (tool : Json) : String :=
  "\n\n## " ++ textMember "name" tool ++ "\n\n" ++ tool.write (.indented 4) ++
    "\n在调用上述函数时，请使用 Json 格式表示调用的参数。"

/-- The tools of a manifest in the GLM-4 format; nothing when there are none. -/
def renderGlm4 : List Json → String
  | [] => ""
  | tools => glm4Head ++ String.join (tools.map glm4Block)

/-! ## Rendering and extracting -/

/-- What a model is told of the tools in a manifest; nothing when the manifest is malformed. -/
def render (f : Format) (manifest : String) : String :=
  match f with
  | general => ((Definition.parseList? manifest).map renderGeneral).getD ""
  | glm4 => (((Json.parse? manifest).bind Json.asArr?).map renderGlm4).getD ""

/-- The call with a name and an input that has to be JSON. -/
def call? (name input : List Char) : Option Call :=
  (Json.parse? (String.ofList input)).map fun arguments =>
    ⟨String.ofList name, arguments.write .spaced⟩

/-- The call in an action block. Blanks, then quotation marks, then backticks are removed around
the input. -/
def extractGeneral? (s : List Char) : Option Call := do
  let (name, input) ← ActionBlock.find? s
  call? name (Text.trimBy (· == '\x60') (Text.trimBy (· == '"') (Text.trim input)))

/-- The call in an answer of exactly two lines. -/
def extractGlm4? (s : List Char) : Option Call :=
  match Text.splitOn ['\n'] (Text.trim s) with
  | [name, input] => call? (Text.trim name) (Text.trim input)
  | _ => none

/-- The call in the answer of a model; `none` for a plain answer. -/
def extract? (f : Format) (answer : String) : Option Call :=
  match f with
  | general => extractGeneral? answer.toList
  | glm4 => extractGlm4? answer.toList

end Format

end Colloquy.Tool
