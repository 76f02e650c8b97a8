/-!
# Shortest decimals

The shortest decimal that reads back as a given binary floating-point number. A finite double is
`m * 2 ^ q`; the reals that round to it form an interval around it, whose ends belong to it iff `m`
is even. `shortest` looks for the coarsest grid of multiples of a power of ten with a point in the
interval and takes the point nearest to the number, of two equally near ones the even one.

Lengths are compared in units of `2 ^ (q - 2)`, a quarter of the distance to the next double.
-/

namespace Colloquy.Decimal

/-- A positive number `digits * 10 ^ exponent`. -/
structure Scaled where
  digits : Nat
  exponent : Int
deriving DecidableEq, Repr

/-- A positive binary number `significand * 2 ^ exponent` and whether the double below it is only
half as far away as the one above it. -/
structure Binary where
  significand : Nat
  exponent : Int
  closeBelow : Bool
deriving DecidableEq, Repr

namespace Binary

/-- The lower end of the rounding interval, the number and the upper end, in quarter units. -/
def quarters (b : Binary) : Nat × Nat × Nat :=
  let v := 4 * b.significand
  (if b.closeBelow then v - 1 else v - 2, v, v + 2)

/-- Factors `(l, r)` such that `d * 10 ^ k` compares to `x` quarter units as `d * l` to `x * r`. -/
def factors (b : Binary) (k : Int) : Nat × Nat :=
  let q := b.exponent - 2
  (Nat.pow 10 k.toNat * Nat.pow 2 (-q).toNat, Nat.pow 2 q.toNat * Nat.pow 10 (-k).toNat)

/-- The multiple of `10 ^ k` in the rounding interval that is nearest to the number, if any. -/
def onGrid? (b : Binary) (k : Int) : Option Nat :=
  let (l, r) := b.factors k
  let (lo, v, hi) := b.quarters
  let even := b.significand % 2 == 0
  let inside (d : Nat) : Bool :=
    0 < d &&
      if even then lo * r ≤ d * l && d * l ≤ hi * r else lo * r < d * l && d * l < hi * r
  let d := v * r / l
  let below := v * r - d * l
  let above := (d + 1) * l - v * r
  if inside d && inside (d + 1) then
    if below < above then some d
    else if above < below then some (d + 1)
    else if d % 2 == 0 then some d else some (d + 1)
  else if inside d then some d
  else if inside (d + 1) then some (d + 1)
  else none

/-- The first hit on the grids of `10 ^ k`, `10 ^ (k - 1)` and so on, `n` grids in all. -/
def search (b : Binary) (k : Int) : Nat → Scaled
  | 0 => ⟨0, 0⟩
  | n + 1 =>
    match b.onGrid? k with
    | some d => ⟨d, k⟩
    | none => b.search (k - 1) n

/-- The shortest decimal that reads back as the number. Doubles lie below `10 ^ 309`, and
`10 ^ (-324)` is finer than their finest distance. -/
def shortest (b : Binary) : Scaled :=
  b.search 309 634

end Binary

end Colloquy.Decimal
