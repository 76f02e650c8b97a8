import Colloquy.Placeholder

/-!
# Slots

A slot is the smallest part of a rendered turn: a text that the tokenizer encodes, the name of one
token, or the token that begins or ends a sequence.
-/

namespace Colloquy

inductive Slot where
  | text (s : String)
  | token (name : String)
  | bos
  | eos
deriving DecidableEq, Repr, Inhabited

namespace Slot

/-- The text of a text slot. -/
def text? : Slot → Option String
  | text s => some s
  | _ => none

/-- A slot with its text changed. -/
def mapText (f : List Char → List Char) : Slot → Slot
  | text s => text (String.ofList (f s.toList))
  | slot => slot

/-- Whether the text of a slot holds a placeholder. -/
def hasPlaceholder : Slot → Bool
  | text s => Placeholder.occurs s.toList
  | _ => false

/-- Whether a pattern occurs in the text of a slot. -/
def mentions (pattern : List Char) : Slot → Bool
  | text s => Text.occursIn pattern s.toList
  | _ => false

/-- The text of the slot that slots begin with. -/
def firstText? (slots : List Slot) : Option String :=
  slots.head?.bind text?

end Slot

end Colloquy
