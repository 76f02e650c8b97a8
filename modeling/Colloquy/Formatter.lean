import Colloquy.Slot
import Colloquy.Tool.Format

/-!
# Formatters

A formatter turns what is said in a turn into slots. There are four kinds: fixed slots that say the
same every time; slots with a placeholder for the content; slots with placeholders for the name and
the arguments of a call; and the rendering of a tool manifest.

Applied to nothing, a formatter gives its slots with their placeholders in place. The constructors
that end in `?` check which placeholders the slots hold, so that every formatter they make can say
what it is given.
-/

namespace Colloquy

/-- A way to say something in slots. -/
inductive Formatter where
  | fixed (slots : List Slot)
  | content (slots : List Slot)
  | call (slots : List Slot)
  | manifest (format : Tool.Format)
deriving DecidableEq, Repr

/-- Why a formatter is no good. -/
inductive FormatterFault where
  /-- Fixed slots hold a placeholder. -/
  | placeholderInFixed
  /-- Slots for a content hold no placeholder. -/
  | noPlaceholder
  /-- Slots for a call lack a place for its name or its arguments. -/
  | noCallPlaceholders
  /-- There is no tool format of this name. -/
  | unknownToolFormat (name : String)
  /-- The system formatter of a template that puts the system prompt into the first turn does not
  begin with a text. -/
  | systemNotText (template : String)
deriving DecidableEq, Repr

/-- The wording of a fault. -/
def FormatterFault.message : FormatterFault → String
  | placeholderInFixed => "empty formatter should not contain any placeholder"
  | noPlaceholder => "a placeholder is required in the string formatter"
  | noCallPlaceholders =>
    "name and arguments placeholders are required in the function formatter"
  | unknownToolFormat name => "unknown tool format: " ++ name
  | systemNotText template =>
    "template " ++ template ++ " must render the system prompt as a leading literal"

namespace Formatter

/-- What a formatter is given to say: a content and the number of the round. -/
structure Args where
  content : Option String
  idx : Option String
deriving DecidableEq, Repr

namespace Args

/-- Nothing to say. -/
def none : Args := ⟨.none, .none⟩

/-- A content alone. -/
def ofContent (content : String) : Args := ⟨some content, .none⟩

end Args

/-! ## Construction -/

/-- Fixed slots, which hold no placeholder. -/
def fixed? (slots : List Slot) : Except FormatterFault Formatter :=
  if slots.any Slot.hasPlaceholder then .error .placeholderInFixed else .ok (.fixed slots)

/-- Slots for a content, at least one of which holds a placeholder. -/
def content? (slots : List Slot) : Except FormatterFault Formatter :=
  if slots.any Slot.hasPlaceholder then .ok (.content slots) else .error .noPlaceholder

/-- Slots for a call, with a place for the name and one for the arguments. -/
def call? (slots : List Slot) : Except FormatterFault Formatter :=
  if slots.any (Slot.mentions Placeholder.name) && slots.any (Slot.mentions Placeholder.arguments)
  then .ok (.call slots)
  else .error .noCallPlaceholders

/-- The rendering of tools in the format of a given name. -/
def manifest? (format : String) : Except FormatterFault Formatter :=
  match Tool.Format.ofName? format with
  | some f => .ok (.manifest f)
  | none => .error (.unknownToolFormat format)

/-! ## Application -/

/-- The first place of a placeholder filled, if there is something to put there. -/
def fillFirst (mark : List Char) (value : Option String) (s : List Char) : List Char :=
  match value with
  | some v => Text.replaceFirst mark v.toList s
  | none => s

/-- A text with the content and then the round number put in. -/
def fillContent (args : Args) (s : List Char) : List Char :=
  fillFirst Placeholder.idx args.idx (fillFirst Placeholder.content args.content s)

/-- A text with the name of a call put in everywhere and then its arguments. -/
def fillCall (c : Tool.Call) (s : List Char) : List Char :=
  Text.replaceAll Placeholder.arguments c.arguments.toList
    (Text.replaceAll Placeholder.name c.name.toList s)

/-- The slots that say what a formatter is given. The content of a call is its payload, and a
payload that is none says a call without name and arguments. -/
def apply (f : Formatter) (args : Args) : List Slot :=
  match f with
  | fixed slots => slots
  | content slots => slots.map (·.mapText (fillContent args))
  | call slots =>
    match args.content with
    | none => slots
    | some payload =>
      slots.map (·.mapText (fillCall ((Tool.Call.ofPayload? payload).getD ⟨"", ""⟩)))
  | manifest format => [.text ((args.content.map format.render).getD "")]

/-- The slots of a formatter with their placeholders in place. -/
def skeleton (f : Formatter) : List Slot :=
  f.apply .none

/-- The call in the answer of a model, which only the rendering of tools can recognise. -/
def extract? (f : Formatter) (answer : String) : Option Tool.Call :=
  match f with
  | manifest format => format.extract? answer
  | _ => none

end Formatter

end Colloquy
