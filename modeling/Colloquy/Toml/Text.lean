import Colloquy.Json.Reader

/-!
# Texts in TOML

The four ways to write a string: between quotation marks with escapes, between apostrophes as it
is, and each of these over several lines between three marks. In the longer forms one or two marks
in a row belong to the text, also right before the three that end it.

A line break is a line feed, with or without a carriage return before it, and counts as a line feed.
-/

namespace Colloquy.Toml

/-- The blanks within a line. -/
def isGap (c : Char) : Bool :=
  c == ' ' || c == '\t'

/-- A text without the blanks it starts with. -/
def skipGap (s : List Char) : List Char :=
  s.dropWhile isGap

/-- What follows a line break. -/
def afterBreak? : List Char → Option (List Char)
  | '\n' :: rest => some rest
  | '\r' :: '\n' :: rest => some rest
  | _ => none

/-- Whether a character may stand in a text or a comment: no control but the tab. -/
def isPlain (c : Char) : Bool :=
  c == '\t' || (0x20 ≤ c.toNat && c.toNat != 0x7f)

/-- The character with a code point, unless that is half of a surrogate pair or too large. -/
def charOf? (n : Nat) : Option Char :=
  if n.isValidChar then some (Char.ofNat n) else none

/-- The character that an escape stands for and what follows, given what comes after the
backslash. -/
def unescape? : List Char → Option (Char × List Char)
  | 'b' :: rest => some ('\x08', rest)
  | 't' :: rest => some ('\t', rest)
  | 'n' :: rest => some ('\n', rest)
  | 'f' :: rest => some ('\x0c', rest)
  | 'r' :: rest => some ('\r', rest)
  | '"' :: rest => some ('"', rest)
  | '\\' :: rest => some ('\\', rest)
  | 'u' :: a :: b :: c :: d :: rest =>
    ((Json.readHex? 0 [a, b, c, d]).bind charOf?).map fun c => (c, rest)
  | 'U' :: a :: b :: c :: d :: e :: f :: g :: h :: rest =>
    ((Json.readHex? 0 [a, b, c, d, e, f, g, h]).bind charOf?).map fun c => (c, rest)
  | _ => none

/-! ## Strings on one line -/

/-- The text up to the closing quotation mark, after the characters in `done`, the latest first. -/
def readBasic? : Nat → List Char → List Char → Option (List Char × List Char)
  | 0, _, _ => none
  | n + 1, done, s =>
    match s with
    | '"' :: rest => some (done.reverse, rest)
    | '\\' :: rest =>
      match unescape? rest with
      | some (c, rest) => readBasic? n (c :: done) rest
      | none => none
    | c :: rest => if isPlain c then readBasic? n (c :: done) rest else none
    | [] => none

/-- The text up to the closing apostrophe, after the characters in `done`, the latest first. -/
def readLiteral? (done : List Char) : List Char → Option (List Char × List Char)
  | [] => none
  | c :: rest =>
    if c = '\x27' then some (done.reverse, rest)
    else if isPlain c then readLiteral? (c :: done) rest
    else none

/-! ## Strings over several lines -/

/-- A text without the blanks and the line breaks it starts with. A carriage return that no line
feed follows is not a line break, so it stays. -/
def skipFold : List Char → List Char
  | '\n' :: rest => skipFold rest
  | '\r' :: '\n' :: rest => skipFold rest
  | c :: rest => if isGap c then skipFold rest else c :: rest
  | [] => []

/-- What follows a backslash at the end of a line: all blanks and line breaks are skipped. -/
def afterFold? (s : List Char) : Option (List Char) :=
  (afterBreak? (skipGap s)).map skipFold

/-- What ends a text over several lines: three marks, up to two more of which before them belong to
the text. -/
def closing? (mark : Char) (s : List Char) : Option (List Char × List Char) :=
  let marks := (s.takeWhile (· == mark)).length
  if 3 ≤ marks ∧ marks ≤ 5 then some (List.replicate (marks - 3) mark, s.drop marks) else none

/-- Whether a text starts with three marks. -/
def atThree (mark : Char) : List Char → Bool
  | a :: b :: c :: _ => a == mark && b == mark && c == mark
  | _ => false

/-- The text up to the closing three quotation marks, after the characters in `done`, the latest
first. -/
def readLongBasic? : Nat → List Char → List Char → Option (List Char × List Char)
  | 0, _, _ => none
  | n + 1, done, s =>
    if atThree '"' s then
      (closing? '"' s).map fun (more, rest) => (done.reverse ++ more, rest)
    else
      match afterBreak? s with
      | some rest => readLongBasic? n ('\n' :: done) rest
      | none =>
        match s with
        | '\\' :: rest =>
          match afterFold? rest with
          | some rest => readLongBasic? n done rest
          | none =>
            match unescape? rest with
            | some (c, rest) => readLongBasic? n (c :: done) rest
            | none => none
        | c :: rest => if isPlain c then readLongBasic? n (c :: done) rest else none
        | [] => none

/-- The text up to the closing three apostrophes, after the characters in `done`, the latest
first. -/
def readLongLiteral? : Nat → List Char → List Char → Option (List Char × List Char)
  | 0, _, _ => none
  | n + 1, done, s =>
    if atThree '\x27' s then
      (closing? '\x27' s).map fun (more, rest) => (done.reverse ++ more, rest)
    else
      match afterBreak? s with
      | some rest => readLongLiteral? n ('\n' :: done) rest
      | none =>
        match s with
        | c :: rest => if isPlain c then readLongLiteral? n (c :: done) rest else none
        | [] => none

/-- A text without the line break it starts with, if any. -/
def skipBreak (s : List Char) : List Char :=
  (afterBreak? s).getD s

/-- A string on one line, as in a key. -/
def readShort? : List Char → Option (List Char × List Char)
  | '"' :: rest => readBasic? (rest.length + 1) [] rest
  | '\x27' :: rest => readLiteral? [] rest
  | _ => none

/-- A string in any of the four forms. -/
def readText? (s : List Char) : Option (List Char × List Char) :=
  if atThree '"' s then
    let rest := skipBreak (s.drop 3)
    readLongBasic? (rest.length + 1) [] rest
  else if atThree '\x27' s then
    let rest := skipBreak (s.drop 3)
    readLongLiteral? (rest.length + 1) [] rest
  else readShort? s

end Colloquy.Toml
