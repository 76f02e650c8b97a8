/-!
# Length budgets

How many ids of a prompt and its response are kept when both together may not exceed a limit.
`split` divides a limit between a prompt and a response: the response gets its share in proportion,
at least what is reserved for it, and never more than it has; the prompt gets what is left.
`pairUp` pairs encoded turns under one limit for all of them.
-/

namespace Colloquy

/-- The number of a token in a vocabulary. -/
abbrev TokenId := Nat

/-- The most ids that may come out, and the number of them kept for a response. -/
structure Budget where
  cutoff : Nat
  reserved : Nat
deriving DecidableEq, Repr

namespace Budget

/-- The budget when nothing else is said: a million ids, one of them for the response. -/
def standard : Budget := ⟨1000000, 1⟩

/-- The lengths to which a source and a target are cut when `limit` ids may be kept. -/
def split (source target limit reserved : Nat) : Nat × Nat :=
  if limit = 0 ∨ source + target = 0 then (0, 0)
  else
    let t := min (min (max (limit * target / (source + target)) reserved) target) limit
    (min (limit - t) source, t)

/-- Encoded turns as pairs of a source and a target, each pair cut to what is left of the cutoff
after `used` ids. No pair follows once nothing is left; a last turn without a partner is dropped. -/
def pairFrom (b : Budget) (used : Nat) : List (List TokenId) → List (List TokenId × List TokenId)
  | source :: target :: rest =>
    if b.cutoff ≤ used then []
    else
      let (s, t) := split source.length target.length (b.cutoff - used) b.reserved
      let pair := (source.take s, target.take t)
      pair :: b.pairFrom (used + pair.1.length + pair.2.length) rest
  | _ => []

/-- Encoded turns as pairs of a source and a target within a budget. -/
def pairUp (b : Budget) (turns : List (List TokenId)) : List (List TokenId × List TokenId) :=
  b.pairFrom 0 turns

end Budget

end Colloquy
