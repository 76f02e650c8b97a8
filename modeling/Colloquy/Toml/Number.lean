import Colloquy.Toml.Basic
import Colloquy.Toml.Text

/-!
# Numbers and date-times in TOML

Integers are decimal with a sign, or hexadecimal, octal or binary without one; low lines may stand
between digits. A decimal does not start with a superfluous zero. A date has an optional time, a
date with a time an optional offset; a time may stand alone. All parts have to be in range.
-/

namespace Colloquy.Toml

/-! ## Digits -/

/-- The digits of a class that a text starts with, at least one, with single low lines between
them; the low lines are left out. -/
def readRun? (isDigit : Char → Bool) (done : List Char) : List Char → Option (List Char × List Char)
  | [] => if done = [] then none else some (done.reverse, [])
  | '_' :: c :: rest =>
    if done ≠ [] ∧ isDigit c then readRun? isDigit (c :: done) rest
    else none
  | c :: rest =>
    if isDigit c then readRun? isDigit (c :: done) rest
    else if done = [] ∨ c = '_' then none
    else some (done.reverse, c :: rest)

/-- The digits of a decimal: a zero stands alone. -/
def readDecimal? : List Char → Option (List Char × List Char)
  | '0' :: rest => some (['0'], rest)
  | s => readRun? Char.isDigit [] s

/-- The sign of a number: whether it is a minus, and what follows. -/
def readSign : List Char → Bool × List Char
  | '+' :: rest => (false, rest)
  | '-' :: rest => (true, rest)
  | s => (false, s)

/-- The number that digits of a base write. -/
def valueOf (base : Nat) (digits : List Char) : Nat :=
  digits.foldl (fun n c => n * base + (Json.hexValue? c).getD 0) 0

/-! ## Floats -/

/-- Whether the positive number `m * 10 ^ e` rounds to infinity as a double. Where the exponent is
far from the border the number is not worked out. -/
def overflows (m : Nat) (e : Int) : Bool :=
  let size : Int := (Nat.toDigits 10 m).length + e
  if m = 0 ∨ size < 300 then false
  else if 320 < size then true
  else (Nat.pow 2 1024 - Nat.pow 2 970) * Nat.pow 10 (-e).toNat ≤ m * Nat.pow 10 e.toNat

/-- The exponent of a float, if the letter `e` follows. -/
def readExponent? : List Char → Option (Option Int × List Char)
  | c :: rest =>
    if c = 'e' ∨ c = 'E' then
      let (minus, rest) := readSign rest
      (readRun? Char.isDigit [] rest).map fun (ds, rest) =>
        (some (if minus then -(valueOf 10 ds : Int) else valueOf 10 ds), rest)
    else some (none, c :: rest)
  | [] => some (none, [])

/-- The point and the digits after it, if a point follows. -/
def readFraction? : List Char → Option (List Char × List Char)
  | '.' :: rest => readRun? Char.isDigit [] rest
  | s => some ([], s)

/-- The text that stands before what follows it. -/
def textBefore (rest s : List Char) : String :=
  String.ofList (s.take (s.length - rest.length))

/-- A float or an integer with the text `start`, after its sign and the digits before the point. A
positive float that is too large is refused. -/
def finishNumber? (start : List Char) (minus : Bool) (whole rest : List Char) :
    Option (Toml × List Char) := do
  let (fraction, s) ← readFraction? rest
  let (exponent, s) ← readExponent? s
  if fraction = [] ∧ exponent = none then
    let n : Int := if minus then -(valueOf 10 whole : Int) else valueOf 10 whole
    if isInt64 n then some (.int n, s) else none
  else if !minus &&
      overflows (valueOf 10 (whole ++ fraction)) (exponent.getD 0 - fraction.length) then none
  else some (.float (textBefore s start), s)

/-- An integer in a base other than ten. -/
def readBased? (base : Nat) (isDigit : Char → Bool) (s : List Char) : Option (Toml × List Char) :=
  match readRun? isDigit [] s with
  | some (ds, rest) =>
    if isInt64 (valueOf base ds) then some (.int (valueOf base ds), rest) else none
  | none => none

/-- A number. -/
def readNumber? (s : List Char) : Option (Toml × List Char) :=
  match s with
  | '0' :: 'x' :: rest => readBased? 16 (fun c => (Json.hexValue? c).isSome) rest
  | '0' :: 'o' :: rest => readBased? 8 (fun c => '0' ≤ c && c ≤ '7') rest
  | '0' :: 'b' :: rest => readBased? 2 (fun c => c == '0' || c == '1') rest
  | start =>
    let (minus, s) := readSign start
    match s with
    | 'i' :: 'n' :: 'f' :: rest => some (.float (textBefore rest start), rest)
    | 'n' :: 'a' :: 'n' :: rest => some (.float (textBefore rest start), rest)
    | s =>
      match readDecimal? s with
      | some (whole, rest) => finishNumber? start minus whole rest
      | none => none

/-! ## Dates and times -/

/-- A number of exactly `n` digits between two bounds. -/
def readPart? (n low high : Nat) (s : List Char) : Option (Nat × List Char) :=
  let ds := s.take n
  if ds.length = n ∧ ds.all Char.isDigit ∧ low ≤ valueOf 10 ds ∧ valueOf 10 ds ≤ high then
    some (valueOf 10 ds, s.drop n)
  else none

/-- What follows a character that has to stand there. -/
def after? (c : Char) : List Char → Option (List Char)
  | d :: rest => if d = c then some rest else none
  | [] => none

/-- The number of days of a month. -/
def daysOf (year month : Nat) : Nat :=
  if month = 2 then
    if year % 4 = 0 ∧ (year % 100 ≠ 0 ∨ year % 400 = 0) then 29 else 28
  else if month = 4 ∨ month = 6 ∨ month = 9 ∨ month = 11 then 30
  else 31

/-- What follows a date. -/
def afterDate? (s : List Char) : Option (List Char) := do
  let (year, s) ← readPart? 4 0 9999 s
  let s ← after? '-' s
  let (month, s) ← readPart? 2 1 12 s
  let s ← after? '-' s
  let (_, s) ← readPart? 2 1 (daysOf year month) s
  return s

/-- What follows the fraction of a second, if a point follows. -/
def afterSecondFraction? : List Char → Option (List Char)
  | '.' :: rest =>
    if rest.takeWhile Char.isDigit = [] then none else some (rest.dropWhile Char.isDigit)
  | s => some s

/-- What follows a time. -/
def afterTime? (s : List Char) : Option (List Char) := do
  let (_, s) ← readPart? 2 0 23 s
  let s ← after? ':' s
  let (_, s) ← readPart? 2 0 59 s
  let s ← after? ':' s
  let (_, s) ← readPart? 2 0 60 s
  afterSecondFraction? s

/-- What follows an offset, if one is there. -/
def afterOffset? : List Char → Option (List Char)
  | c :: rest =>
    if c = 'Z' ∨ c = 'z' then some rest
    else if c = '+' ∨ c = '-' then do
      let (_, s) ← readPart? 2 0 23 rest
      let s ← after? ':' s
      let (_, s) ← readPart? 2 0 59 s
      return s
    else some (c :: rest)
  | [] => some []

/-- Whether an hour and a colon follow. -/
def atTime (s : List Char) : Bool :=
  ((readPart? 2 0 23 s).bind fun p => after? ':' p.2).isSome

/-- What follows a date with an optional time, or a time. -/
def afterDateTime? (s : List Char) : Option (List Char) :=
  if atTime s then afterTime? s
  else
    match afterDate? s with
    | some (c :: rest) =>
      if (c = 'T' ∨ c = 't' ∨ c = ' ') ∧ atTime rest then (afterTime? rest).bind afterOffset?
      else some (c :: rest)
    | other => other

/-- Whether a date or a time starts here. -/
def atDateTime (s : List Char) : Bool :=
  ((readPart? 4 0 9999 s).bind fun p => after? '-' p.2).isSome ||
    ((readPart? 2 0 99 s).bind fun p => after? ':' p.2).isSome

/-- A number, a date or a time. -/
def readNumeric? (s : List Char) : Option (Toml × List Char) :=
  if atDateTime s then
    (afterDateTime? s).map fun rest => (.time (textBefore rest s), rest)
  else readNumber? s

end Colloquy.Toml
