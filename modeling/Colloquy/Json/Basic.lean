/-!
# JSON values

A JSON value with its members in the order of the text. Integers and floating-point numbers are
kept apart: an integer of at most 64 bits is exact.
-/

namespace Colloquy

inductive Json where
  | null
  | bool (b : Bool)
  | int (n : Int)
  | float (x : Float)
  | str (s : String)
  | arr (items : List Json)
  | obj (members : List (String × Json))
deriving Inhabited

namespace Json

/-- The member of an object with a given key. -/
def get? (key : String) : Json → Option Json
  | obj members => members.lookup key
  | _ => none

/-- The text of a string. -/
def asStr? : Json → Option String
  | str s => some s
  | _ => none

/-- The items of an array. -/
def asArr? : Json → Option (List Json)
  | arr items => some items
  | _ => none

/-- The members of an object. -/
def asObj? : Json → Option (List (String × Json))
  | obj members => some members
  | _ => none

/-- Members with one more: a key that is there already keeps its place and takes the new value. -/
def insertMember (members : List (String × Json)) (key : String) (value : Json) :
    List (String × Json) :=
  if (members.lookup key).isSome then
    members.map fun m => if m.1 = key then (key, value) else m
  else
    members ++ [(key, value)]

/-- Members that are present: a list of optional ones without the absent. -/
def ofMembers (members : List (String × Option Json)) : Json :=
  obj (members.filterMap fun m => m.2.map fun v => (m.1, v))

end Json

end Colloquy
