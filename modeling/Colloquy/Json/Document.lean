import Colloquy.Json.Basic

/-!
# JSON documents

What the grammar of JSON makes of a text, before any of it is given a meaning: strings keep their
escapes apart from plain characters, numbers are numerals, and an object may repeat a key.

`Document.value?` gives a document its meaning. It fails on a number too large for a double, on an
escape that names half of a surrogate pair, and where arrays and objects nest too deep.
-/

namespace Colloquy.Json

/-- A piece of a string: a character, or a UTF-16 unit written as an escape. -/
inductive Piece where
  | char (c : Char)
  | unit (n : Nat)
deriving DecidableEq, Repr

/-- A number as written: its sign, the digits before and after the point, and the exponent with
its sign (`true` for a minus). A numeral without a point has no fraction digits. -/
structure Numeral where
  negative : Bool
  whole : List Char
  fraction : List Char
  exponent : Option (Bool × List Char)
deriving DecidableEq, Repr

/-- A JSON text as the grammar sees it. -/
inductive Document where
  | null
  | bool (b : Bool)
  | num (n : Numeral)
  | str (pieces : List Piece)
  | arr (items : List Document)
  | obj (members : List (List Piece × Document))

/-- The number of arrays and objects that may nest. -/
def maxNesting : Nat := 127

/-! ## Strings -/

/-- The characters that pieces stand for, after those in `done`, the latest first. Two units that
form a surrogate pair are one character; half a pair stands for none. -/
def readPieces? (done : List Char) : List Piece → Option (List Char)
  | [] => some done.reverse
  | .char c :: rest => readPieces? (c :: done) rest
  | .unit n :: rest =>
    if 0xd800 ≤ n ∧ n < 0xdc00 then
      match rest with
      | .unit m :: rest =>
        if 0xdc00 ≤ m ∧ m < 0xe000 then
          readPieces? (Char.ofNat (0x10000 + (n - 0xd800) * 0x400 + (m - 0xdc00)) :: done) rest
        else none
      | _ => none
    else if 0xdc00 ≤ n ∧ n < 0xe000 then none
    else readPieces? (Char.ofNat n :: done) rest

/-- The text that pieces stand for. -/
def textOf? (pieces : List Piece) : Option String :=
  (readPieces? [] pieces).map String.ofList

/-! ## Numbers -/

/-- The value of a decimal digit. -/
def digitValue (c : Char) : Nat := c.toNat - '0'.toNat

/-- The natural number that digits write after the digits of `n`. -/
def readDigits (n : Nat) (digits : List Char) : Nat :=
  digits.foldl (fun n c => n * 10 + digitValue c) n

/-- Reads digits after the significand `n` as long as it fits 64 bits; gives back the significand
and the digits that were left. -/
def takeSignificand (n : Nat) : List Char → Nat × List Char
  | [] => (n, [])
  | c :: cs =>
    if n * 10 + digitValue c < 0x10000000000000000 then
      takeSignificand (n * 10 + digitValue c) cs
    else (n, c :: cs)

/-- A double times or divided by a power of ten, rounded at each step. The result is `none` when it
is too large. A power of ten that is itself out of range is divided by in steps of `10 ^ 308`. -/
def scaleByTen? (x : Float) (e : Int) : Option Float :=
  if 0 ≤ e then
    if e ≤ 308 then
      let y := x * Float.ofScientific 1 false e.toNat
      if y.isInf then none else some y
    else if x == 0 then some x
    else none
  else if -308 ≤ e then some (x / Float.ofScientific 1 false (-e).toNat)
  else if x == 0 then some x
  else scaleByTen? (x / Float.ofScientific 1 false 308) (e + 308)
termination_by (-e).toNat
decreasing_by omega

namespace Numeral

/-- The significand of a numeral and the power of ten it is scaled by, not counting the exponent.
Digits that do not fit 64 bits are dropped. -/
def significand (n : Numeral) : Nat × Int :=
  let (w, left) := takeSignificand 0 n.whole
  let (f, dropped) := takeSignificand w n.fraction
  (f, (left.length : Int) - (n.fraction.length - dropped.length : Nat))

/-- The exponent that a numeral writes. -/
def power (n : Numeral) : Int :=
  match n.exponent with
  | none => 0
  | some (minus, digits) => if minus then -(readDigits 0 digits : Int) else readDigits 0 digits

/-- The number that a numeral stands for. An integer from `-2 ^ 63` to `2 ^ 64 - 1` stays one, but
a zero with a minus sign is a float. -/
def value? (n : Numeral) : Option Json :=
  let (m, e) := n.significand
  if n.fraction = [] ∧ n.exponent = none ∧ e = 0 ∧
      (n.negative → 0 < m ∧ m ≤ 0x8000000000000000) then
    some (.int (if n.negative then -m else m))
  else
    (scaleByTen? m.toUInt64.toFloat (e + n.power)).map fun x =>
      .float (if n.negative then -x else x)

end Numeral

/-! ## Values -/

namespace Document

mutual

/-- The value of a document with room for `room` nested arrays and objects. Of a repeated key the
last value counts. -/
def valueWithin? (room : Nat) : Document → Option Json
  | .null => some .null
  | .bool b => some (.bool b)
  | .num n => n.value?
  | .str pieces => (textOf? pieces).map .str
  | .arr items => if room = 0 then none else (valuesWithin? (room - 1) [] items).map .arr
  | .obj members => if room = 0 then none else (membersWithin? (room - 1) [] members).map .obj

/-- The values of documents, after those in `done`, the latest first. -/
def valuesWithin? (room : Nat) (done : List Json) : List Document → Option (List Json)
  | [] => some done.reverse
  | d :: rest =>
    match d.valueWithin? room with
    | some v => valuesWithin? room (v :: done) rest
    | none => none

/-- The members `done` with those of an object put in one after the other. -/
def membersWithin? (room : Nat) (done : List (String × Json)) :
    List (List Piece × Document) → Option (List (String × Json))
  | [] => some done
  | (k, d) :: rest =>
    match textOf? k, d.valueWithin? room with
    | some key, some v => membersWithin? room (insertMember done key v) rest
    | _, _ => none

end

/-- The value of a document. -/
def value? (d : Document) : Option Json :=
  d.valueWithin? maxNesting

end Document

end Colloquy.Json
