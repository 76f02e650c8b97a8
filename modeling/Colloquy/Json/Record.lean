import Colloquy.Json.Reader

/-!
# Records in JSON

A record has fields with fixed names. It is written as an object, in any order and with other
members that are skipped unread, or as an array of its fields in their order, from which fields at
the end may be missing. No field may be given twice.

A name from a fixed list is written as a string, or as an object with the name as its one key and
`null` as its value.
-/

namespace Colloquy.Json.Document

/-- The fields of a record that a document holds. -/
abbrev Fields := List (String × Document)

/-- The members of an object whose keys are among `names`, after those in `done`. -/
def pickFields? (names : List String) (done : Fields) :
    List (List Piece × Document) → Option Fields
  | [] => some done
  | (k, d) :: rest =>
    match textOf? k with
    | some key =>
      if key ∈ names then
        if (done.lookup key).isSome then none else pickFields? names (done ++ [(key, d)]) rest
      else pickFields? names done rest
    | none => none

/-- The fields of a record with the given field names, where arrays and objects have `room` to
nest. -/
def fields? (names : List String) (room : Nat) : Document → Option Fields
  | .obj members => if room = 0 then none else pickFields? names [] members
  | .arr items => if room = 0 ∨ names.length < items.length then none else some (names.zip items)
  | _ => none

/-- The text of a string. -/
def text? : Document → Option String
  | .str pieces => textOf? pieces
  | _ => none

/-- The text of a required field. -/
def textField? (fields : Fields) (name : String) : Option String :=
  (fields.lookup name).bind text?

/-- The text of a field that may be missing and is empty then. -/
def textFieldOrEmpty? (fields : Fields) (name : String) : Option String :=
  match fields.lookup name with
  | some d => d.text?
  | none => some ""

/-- The value of a field that may be missing and is `null` then. -/
def valueFieldOrNull? (room : Nat) (fields : Fields) (name : String) : Option Json :=
  match fields.lookup name with
  | some d => d.valueWithin? room
  | none => some .null

/-- A name from a fixed list. -/
def name? (room : Nat) : Document → Option String
  | .str pieces => textOf? pieces
  | .obj [(key, .null)] => if room = 0 then none else textOf? key
  | _ => none

/-- The items of an array, each read by `read?` with the room that is left. -/
def items? {α : Type} (room : Nat) (read? : Nat → Document → Option α) :
    Document → Option (List α)
  | .arr items => if room = 0 then none else items.mapM (read? (room - 1))
  | _ => none

end Colloquy.Json.Document
