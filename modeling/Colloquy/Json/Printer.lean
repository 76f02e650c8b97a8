import Colloquy.Json.Basic
import Colloquy.Decimal.Shortest

/-!
# Writing JSON

A value is written in one of three layouts: compact, on one line with a blank after each comma and
colon, or over several lines with a given indentation. Strings escape the quotation mark, the
backslash and the characters below U+0020, and leave all others as they are.
-/

namespace Colloquy.Json

/-- How the items of arrays and the members of objects are set apart. -/
inductive Layout where
  | compact
  | spaced
  | indented (width : Nat)
deriving DecidableEq, Repr

namespace Layout

/-- A line break and the indentation of a nesting level. -/
def newLine (width level : Nat) : List Char :=
  '\n' :: List.replicate (width * level) ' '

/-- What stands between an opening bracket and the first item, which is at a nesting level. -/
def first (level : Nat) : Layout → List Char
  | indented width => newLine width level
  | _ => []

/-- What stands between two items of a nesting level. -/
def next (level : Nat) : Layout → List Char
  | compact => [',']
  | spaced => [',', ' ']
  | indented width => ',' :: newLine width level

/-- What stands between a key and its value. -/
def colon : Layout → List Char
  | compact => [':']
  | _ => [':', ' ']

end Layout

/-! ## Strings and numbers -/

/-- The two hexadecimal digits of a number below 256, in lower case. -/
def hexByte (n : Nat) : List Char :=
  [Nat.digitChar (n / 16), Nat.digitChar (n % 16)]

/-- A character as it stands in a string. -/
def escape (c : Char) : List Char :=
  if c = '"' then ['\\', '"']
  else if c = '\\' then ['\\', '\\']
  else if c = '\x08' then ['\\', 'b']
  else if c = '\x0c' then ['\\', 'f']
  else if c = '\n' then ['\\', 'n']
  else if c = '\r' then ['\\', 'r']
  else if c = '\t' then ['\\', 't']
  else if c.toNat < 0x20 then ['\\', 'u', '0', '0'] ++ hexByte c.toNat
  else [c]

/-- A text as a JSON string. -/
def writeString (s : List Char) : List Char :=
  '"' :: s.flatMap escape ++ ['"']

/-- An integer. -/
def writeInt (n : Int) : List Char :=
  if n < 0 then '-' :: Nat.toDigits 10 n.natAbs else Nat.toDigits 10 n.natAbs

/-- The bounds of positional notation: the point of a positional number stands at most `high`
digits to the right of its first digit and at most `low` digits to the left. -/
structure Positional where
  low : Int
  high : Int

/-- Numbers from `1e-5` to below `1e16` are written positionally. -/
def positional : Positional := ⟨-5, 16⟩

/-- A positive decimal number: positional with at least one digit after the point, or with an
exponent that carries its sign. -/
def writeScaled (x : Decimal.Scaled) : List Char :=
  let digits := Nat.toDigits 10 x.digits
  let point : Int := digits.length + x.exponent
  if 0 ≤ x.exponent ∧ point ≤ positional.high then
    digits ++ List.replicate x.exponent.toNat '0' ++ ['.', '0']
  else if 0 < point ∧ point ≤ positional.high then
    digits.take point.toNat ++ '.' :: digits.drop point.toNat
  else if positional.low < point ∧ point ≤ 0 then
    '0' :: '.' :: List.replicate (-point).toNat '0' ++ digits
  else
    let e := point - 1
    digits.take 1 ++ (if digits.length = 1 then [] else '.' :: digits.drop 1) ++
      'e' :: (if e < 0 then '-' else '+') :: Nat.toDigits 10 e.natAbs

/-- A finite double other than zero as a binary number, without its sign. -/
def binaryOf (bits : UInt64) : Decimal.Binary :=
  let fraction := (bits &&& 0xfffffffffffff).toNat
  let biased := ((bits >>> 52) &&& 0x7ff).toNat
  if biased = 0 then ⟨fraction, -1074, false⟩
  else ⟨0x10000000000000 + fraction, (biased : Int) - 1075, fraction = 0 ∧ 1 < biased⟩

/-- A finite double in the fewest digits that read back as it. -/
def writeFloat (x : Float) : List Char :=
  let bits := x.toBits
  let sign := if bits >>> 63 = 1 then ['-'] else []
  if x == 0 then sign ++ ['0', '.', '0']
  else sign ++ writeScaled (binaryOf bits).shortest

/-! ## Values -/

mutual

/-- A value at a nesting level. -/
def writeAt (layout : Layout) (level : Nat) : Json → List Char
  | null => ['n', 'u', 'l', 'l']
  | bool b => if b then ['t', 'r', 'u', 'e'] else ['f', 'a', 'l', 's', 'e']
  | int n => writeInt n
  | float x => writeFloat x
  | str s => writeString s.toList
  | arr [] => ['[', ']']
  | arr (v :: rest) =>
    '[' :: layout.first (level + 1) ++ v.writeAt layout (level + 1) ++
      writeItems layout (level + 1) rest ++ layout.first level ++ [']']
  | obj [] => ['\x7b', '\x7d']
  | obj ((k, v) :: rest) =>
    '\x7b' :: layout.first (level + 1) ++ writeString k.toList ++ layout.colon ++
      v.writeAt layout (level + 1) ++ writeMembers layout (level + 1) rest ++
      layout.first level ++ ['\x7d']

/-- The items of an array after the first. -/
def writeItems (layout : Layout) (level : Nat) : List Json → List Char
  | [] => []
  | v :: rest => layout.next level ++ v.writeAt layout level ++ writeItems layout level rest

/-- The members of an object after the first. -/
def writeMembers (layout : Layout) (level : Nat) : List (String × Json) → List Char
  | [] => []
  | (k, v) :: rest =>
    layout.next level ++ writeString k.toList ++ layout.colon ++ v.writeAt layout level ++
      writeMembers layout level rest

end

/-- A value in a layout. -/
def write (layout : Layout) (v : Json) : String :=
  String.ofList (v.writeAt layout 0)

end Colloquy.Json
