import Colloquy.Json.Document

/-!
# Reading JSON

The grammar of JSON: `Document.read?` makes a document of a text, and `Json.parse?` a value. Blanks
are space, tab, line feed and carriage return. Each step of the reader gives back what follows.

Arrays and objects are read with a counter that every call lowers. A call either takes a character
or is made by one that did, so twice the length of the text is enough.
-/

namespace Colloquy.Json

/-- The blanks between the tokens of a JSON text. -/
def isSpace (c : Char) : Bool :=
  c == ' ' || c == '\t' || c == '\n' || c == '\r'

/-- A text without the blanks it starts with. -/
def skipSpace (s : List Char) : List Char :=
  s.dropWhile isSpace

/-- The value of a hexadecimal digit. -/
def hexValue? (c : Char) : Option Nat :=
  if '0' ≤ c ∧ c ≤ '9' then some (c.toNat - '0'.toNat)
  else if 'a' ≤ c ∧ c ≤ 'f' then some (c.toNat - 'a'.toNat + 10)
  else if 'A' ≤ c ∧ c ≤ 'F' then some (c.toNat - 'A'.toNat + 10)
  else none

/-- The number that hexadecimal digits write after the digits of `n`. -/
def readHex? (n : Nat) : List Char → Option Nat
  | [] => some n
  | c :: cs =>
    match hexValue? c with
    | some d => readHex? (n * 16 + d) cs
    | none => none

/-- The character that a letter after a backslash stands for. -/
def unescape? (c : Char) : Option Char :=
  if c = '"' then some '"'
  else if c = '\\' then some '\\'
  else if c = '/' then some '/'
  else if c = 'b' then some '\x08'
  else if c = 'f' then some '\x0c'
  else if c = 'n' then some '\n'
  else if c = 'r' then some '\r'
  else if c = 't' then some '\t'
  else none

namespace Document

/-- The pieces of a string up to its closing quotation mark, after those in `done`, the latest
first. -/
def readString? (done : List Piece) : List Char → Option (List Piece × List Char)
  | [] => none
  | '\\' :: 'u' :: a :: b :: c :: d :: rest =>
    match readHex? 0 [a, b, c, d] with
    | some n => readString? (.unit n :: done) rest
    | none => none
  | '\\' :: e :: rest =>
    match unescape? e with
    | some c => readString? (.char c :: done) rest
    | none => none
  | c :: rest =>
    if c = '"' then some (done.reverse, rest)
    else if c = '\\' ∨ c.toNat < 0x20 then none
    else readString? (.char c :: done) rest

/-- The digits that a text starts with; there has to be one. -/
def readDigits? (s : List Char) : Option (List Char × List Char) :=
  let digits := s.takeWhile Char.isDigit
  if digits = [] then none else some (digits, s.dropWhile Char.isDigit)

/-- The digits before the point: a zero stands alone. -/
def readWhole? (s : List Char) : Option (List Char × List Char) :=
  match readDigits? s with
  | some (digits, rest) =>
    if digits.head? = some '0' ∧ digits ≠ ['0'] then none else some (digits, rest)
  | none => none

/-- The point and the digits after it, if a point follows. -/
def readFraction? : List Char → Option (List Char × List Char)
  | '.' :: rest => readDigits? rest
  | rest => some ([], rest)

/-- The exponent, if the letter `e` follows. -/
def readExponent? : List Char → Option (Option (Bool × List Char) × List Char)
  | c :: rest =>
    if c = 'e' ∨ c = 'E' then
      match rest with
      | '-' :: rest => (readDigits? rest).map fun (ds, rest) => (some (true, ds), rest)
      | '+' :: rest => (readDigits? rest).map fun (ds, rest) => (some (false, ds), rest)
      | rest => (readDigits? rest).map fun (ds, rest) => (some (false, ds), rest)
    else some (none, c :: rest)
  | [] => some (none, [])

/-- A numeral without its sign. -/
def readUnsigned? (negative : Bool) (s : List Char) : Option (Numeral × List Char) := do
  let (whole, s) ← readWhole? s
  let (fraction, s) ← readFraction? s
  let (exponent, s) ← readExponent? s
  return (⟨negative, whole, fraction, exponent⟩, s)

/-- A numeral. -/
def readNumeral? : List Char → Option (Numeral × List Char)
  | '-' :: rest => readUnsigned? true rest
  | s => readUnsigned? false s

mutual

/-- The document that a text starts with, blanks skipped. -/
def readValue? : Nat → List Char → Option (Document × List Char)
  | 0, _ => none
  | n + 1, s =>
    match skipSpace s with
    | '"' :: rest => (readString? [] rest).map fun (pieces, rest) => (.str pieces, rest)
    | '[' :: rest =>
      match skipSpace rest with
      | ']' :: rest => some (.arr [], rest)
      | rest => readItems? n [] rest
    | '\x7b' :: rest =>
      match skipSpace rest with
      | '\x7d' :: rest => some (.obj [], rest)
      | rest => readMembers? n [] rest
    | 'n' :: 'u' :: 'l' :: 'l' :: rest => some (.null, rest)
    | 't' :: 'r' :: 'u' :: 'e' :: rest => some (.bool true, rest)
    | 'f' :: 'a' :: 'l' :: 's' :: 'e' :: rest => some (.bool false, rest)
    | rest => (readNumeral? rest).map fun (numeral, rest) => (.num numeral, rest)

/-- The items of an array up to its closing bracket, after those in `done`, the latest first. -/
def readItems? : Nat → List Document → List Char → Option (Document × List Char)
  | 0, _, _ => none
  | n + 1, done, s =>
    match readValue? n s with
    | some (item, rest) =>
      match skipSpace rest with
      | ',' :: rest => readItems? n (item :: done) rest
      | ']' :: rest => some (.arr (item :: done).reverse, rest)
      | _ => none
    | none => none

/-- The members of an object up to its closing brace, after those in `done`, the latest first. -/
def readMembers? : Nat → List (List Piece × Document) → List Char →
    Option (Document × List Char)
  | 0, _, _ => none
  | n + 1, done, s =>
    match skipSpace s with
    | '"' :: rest =>
      match readString? [] rest with
      | some (key, rest) =>
        match skipSpace rest with
        | ':' :: rest =>
          match readValue? n rest with
          | some (value, rest) =>
            match skipSpace rest with
            | ',' :: rest => readMembers? n ((key, value) :: done) rest
            | '\x7d' :: rest => some (.obj ((key, value) :: done).reverse, rest)
            | _ => none
          | none => none
        | _ => none
      | none => none
    | _ => none

end

/-- The document that a whole text writes. -/
def read? (s : List Char) : Option Document :=
  match readValue? (2 * s.length + 2) s with
  | some (d, rest) => if skipSpace rest = [] then some d else none
  | none => none

/-- The document that a whole text writes. -/
def parse? (s : String) : Option Document :=
  read? s.toList

end Document

/-- The value that a whole text writes. -/
def parse? (s : String) : Option Json :=
  (Document.parse? s).bind Document.value?

end Colloquy.Json
