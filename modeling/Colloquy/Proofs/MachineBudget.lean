import Mathlib.Data.List.Induction
import Mathlib.Tactic.NormNum
import Colloquy.Proofs.Budget

/-!
# Budgets in machine words

The arithmetic of a budget as a machine does it. Lengths are words of 64 bits, and the product that
a share in proportion is taken from has 128 bits. Where a result does not fit, a machine stops or
goes on with the low bits (`Overflow`), and no machine divides by zero.

It never comes to that. A share is no more than the limit that it is a share of
(`share_le_limit`), so that it fits in a word again, and what a target gets can be taken off the
limit (`split_exact`). The ids used up by pairs are no more than the cutoff (`Reaches.used_eq`), so
that they can be taken off it and counted further (`round_exact`). Hence every machine, whatever it
does where a result does not fit, comes to the exact lengths and pairs (`machine_exact`).
-/

namespace Colloquy.Machine

/-! ## Operations -/

/-- What a machine does where a result does not fit. -/
inductive Overflow where
  /-- It stops. -/
  | stops
  /-- It goes on with the low bits of the result. -/
  | wraps
deriving DecidableEq, Repr

/-- A number of 128 bits. -/
abbrev Wide := BitVec 128

/-- What comes of an operation, given whether the exact result fits, and the bits of it that do. -/
def Overflow.outcome {α : Type} (m : Overflow) (fits : Prop) [Decidable fits] (bits : α) :
    Option α :=
  if fits ∨ m = wraps then some bits else none

variable (m : Overflow)

/-- The sum of two words. -/
def add (a b : UInt64) : Option UInt64 :=
  m.outcome (a.toNat + b.toNat < 2 ^ 64) (a + b)

/-- The difference of two words. -/
def sub (a b : UInt64) : Option UInt64 :=
  m.outcome (b.toNat ≤ a.toNat) (a - b)

/-- A word as a number of 128 bits. -/
def widen (a : UInt64) : Wide :=
  a.toBitVec.setWidth 128

/-- The product of two numbers of 128 bits. -/
def mul (a b : Wide) : Option Wide :=
  m.outcome (a.toNat * b.toNat < 2 ^ 128) (a * b)

/-- The quotient of two numbers of 128 bits. No machine divides by zero. -/
def div (a b : Wide) : Option Wide :=
  if b = 0 then none else some (a / b)

/-- A number of 128 bits as a word. -/
def narrow (a : Wide) : Option UInt64 :=
  m.outcome (a.toNat < 2 ^ 64) (.ofBitVec (a.setWidth 64))

section

variable {m}

theorem Overflow.outcome_of_fits {α : Type} {fits : Prop} [Decidable fits] (h : fits) (bits : α) :
    m.outcome fits bits = some bits := by
  rw [outcome, if_pos (.inl h)]

theorem add_exact {a b : UInt64} (fits : a.toNat + b.toNat < 2 ^ 64) :
    ∃ c, add m a b = some c ∧ c.toNat = a.toNat + b.toNat := by
  refine ⟨a + b, Overflow.outcome_of_fits fits _, ?_⟩
  rw [UInt64.toNat_add]
  exact Nat.mod_eq_of_lt fits

theorem sub_exact {a b : UInt64} (fits : b.toNat ≤ a.toNat) :
    ∃ c, sub m a b = some c ∧ c.toNat = a.toNat - b.toNat :=
  ⟨a - b, Overflow.outcome_of_fits fits _, UInt64.toNat_sub_of_le _ _ fits⟩

theorem toNat_widen (a : UInt64) : (widen a).toNat = a.toNat :=
  BitVec.toNat_setWidth_of_le (by decide)

/-- The product of two words has room in 128 bits. -/
theorem mul_exact (a b : UInt64) :
    ∃ c, mul m (widen a) (widen b) = some c ∧ c.toNat = a.toNat * b.toNat := by
  have fits : a.toNat * b.toNat < 2 ^ 128 := by
    calc a.toNat * b.toNat < 2 ^ 64 * 2 ^ 64 := Nat.mul_lt_mul'' a.toNat_lt b.toNat_lt
      _ = 2 ^ 128 := by norm_num
  refine ⟨widen a * widen b, Overflow.outcome_of_fits (by rwa [toNat_widen, toNat_widen]) _, ?_⟩
  rw [BitVec.toNat_mul, toNat_widen, toNat_widen]
  exact Nat.mod_eq_of_lt fits

theorem div_exact (a : Wide) {b : UInt64} (pos : 0 < b.toNat) :
    ∃ c, div a (widen b) = some c ∧ c.toNat = a.toNat / b.toNat := by
  have nonzero : widen b ≠ 0 := by
    intro zero
    have same := congrArg BitVec.toNat zero
    rw [toNat_widen] at same
    exact Nat.ne_of_gt pos same
  refine ⟨a / widen b, if_neg nonzero, ?_⟩
  rw [BitVec.toNat_udiv, toNat_widen]

theorem narrow_exact {a : Wide} (fits : a.toNat < 2 ^ 64) :
    ∃ c, narrow m a = some c ∧ c.toNat = a.toNat := by
  refine ⟨_, Overflow.outcome_of_fits fits _, ?_⟩
  show (a.setWidth 64).toNat = a.toNat
  rw [BitVec.toNat_setWidth]
  exact Nat.mod_eq_of_lt fits

theorem toNat_min (a b : UInt64) : (min a b).toNat = min a.toNat b.toNat := by
  show (if a ≤ b then a else b).toNat = _
  simp only [UInt64.le_iff_toNat_le]
  split <;> omega

theorem toNat_max (a b : UInt64) : (max a b).toNat = max a.toNat b.toNat := by
  show (if a ≤ b then b else a).toNat = _
  simp only [UInt64.le_iff_toNat_le]
  split <;> omega

end

/-! ## The split of a limit -/

/-- The lengths to which a source and a target are cut when `limit` ids may be kept. -/
def split (source target limit reserved : UInt64) : Option (UInt64 × UInt64) := do
  let total ← add m source target
  if limit = 0 ∨ total = 0 then return (0, 0)
  let product ← mul m (widen limit) (widen target)
  let quotient ← div product (widen total)
  let share ← narrow m quotient
  let t := min (min (max share reserved) target) limit
  let rest ← sub m limit t
  return (min rest source, t)

/-- A share is no more than what it is a share of. -/
theorem share_le_limit {part total : Nat} (h : part ≤ total) (limit : Nat) :
    limit * part / total ≤ limit := by
  apply Nat.div_le_of_le_mul
  rw [Nat.mul_comm total]
  exact Nat.mul_le_mul_left limit h

theorem split_exact {source target : UInt64} (fits : source.toNat + target.toNat < 2 ^ 64)
    (limit reserved : UInt64) :
    ∃ s t, split m source target limit reserved = some (s, t) ∧
      (s.toNat, t.toNat) =
        Budget.split source.toNat target.toNat limit.toNat reserved.toNat := by
  obtain ⟨total, added, total_eq⟩ := add_exact (m := m) fits
  have none_iff : (limit = 0 ∨ total = 0) ↔
      (limit.toNat = 0 ∨ source.toNat + target.toNat = 0) := by
    rw [← total_eq, ← UInt64.toNat_inj, ← UInt64.toNat_inj]
    rfl
  unfold split Budget.split
  by_cases none : limit = 0 ∨ total = 0
  · rw [if_pos (none_iff.1 none)]
    exact ⟨0, 0, by simp [added, none], rfl⟩
  · have pos : 0 < total.toNat := by
      have := mt none_iff.2 none
      omega
    obtain ⟨product, multiplied, product_eq⟩ := mul_exact (m := m) limit target
    obtain ⟨quotient, divided, quotient_eq⟩ := div_exact product pos
    rw [product_eq, total_eq] at quotient_eq
    have small : quotient.toNat ≤ limit.toNat := by
      rw [quotient_eq]
      exact share_le_limit (Nat.le_add_left _ _) _
    obtain ⟨share, narrowed, share_eq⟩ :=
      narrow_exact (m := m) (Nat.lt_of_le_of_lt small limit.toNat_lt)
    -- The target gets no more than the limit, whatever is reserved for it.
    have t_eq : (min (min (max share reserved) target) limit).toNat =
        min (min (max quotient.toNat reserved.toNat) target.toNat) limit.toNat := by
      rw [toNat_min, toNat_min, toNat_max, share_eq]
    obtain ⟨rest, subtracted, rest_eq⟩ := sub_exact (m := m) (a := limit)
      (b := min (min (max share reserved) target) limit) (by omega)
    rw [if_neg (mt none_iff.2 none)]
    refine ⟨min rest source, min (min (max share reserved) target) limit, ?_, ?_⟩
    · simp [added, none, multiplied, divided, narrowed, subtracted]
    · rw [toNat_min, rest_eq, t_eq, quotient_eq]

/-- Where the lengths of source and target cannot be added, one machine stops, and another one takes
them for none. -/
example : split .stops 0xFFFFFFFFFFFFFFFF 1 1 1 = none ∧
    split .wraps 0xFFFFFFFFFFFFFFFF 1 1 1 = some (0, 0) ∧
    Budget.split 0xFFFFFFFFFFFFFFFF 1 1 1 = (0, 1) := by
  decide

/-! ## Pairs within a budget -/

/-- Ids as a machine holds them: four bytes for each, and less than 2 ^ 63 bytes for all. -/
structure IdArray where
  ids : List TokenId
  fits : 4 * ids.length < 2 ^ 63

namespace IdArray

/-- The number of ids. -/
def size (a : IdArray) : UInt64 :=
  .ofNat a.ids.length

/-- The first ids, as many as are asked for, or all. -/
def truncate (a : IdArray) (n : UInt64) : IdArray where
  ids := a.ids.take n.toNat
  fits := by
    have := a.fits
    rw [List.length_take]
    omega

theorem toNat_size (a : IdArray) : a.size.toNat = a.ids.length := by
  have := a.fits
  rw [size, UInt64.toNat_ofNat']
  exact Nat.mod_eq_of_lt (by omega)

end IdArray

/-- A budget in words. -/
structure WordBudget where
  cutoff : UInt64
  reserved : UInt64
deriving DecidableEq, Repr

/-- The budget that is meant. -/
def WordBudget.exact (b : WordBudget) : Budget :=
  ⟨b.cutoff.toNat, b.reserved.toNat⟩

/-- The ids of a pair. -/
def pairIds (p : IdArray × IdArray) : List TokenId × List TokenId :=
  (p.1.ids, p.2.ids)

/-- A pair cut to what is left of the cutoff after `used` ids, and the number of ids used then. -/
def round (b : WordBudget) (used : UInt64) (source target : IdArray) :
    Option ((IdArray × IdArray) × UInt64) := do
  let headroom ← sub m b.cutoff used
  let (s, t) ← split m source.size target.size headroom b.reserved
  let pair := (source.truncate s, target.truncate t)
  let size ← add m pair.1.size pair.2.size
  let used ← add m used size
  return (pair, used)

/-- Encoded turns as pairs of a source and a target, each pair cut to what is left of the cutoff
after `used` ids. -/
def pairFrom (b : WordBudget) (used : UInt64) : List IdArray → Option (List (IdArray × IdArray))
  | source :: target :: rest =>
    if b.cutoff ≤ used then some []
    else do
      let (pair, used) ← round m b used source target
      return pair :: (← pairFrom b used rest)
  | _ => some []

/-- Encoded turns as pairs of a source and a target within a budget. -/
def pairUp (b : WordBudget) (turns : List IdArray) : Option (List (IdArray × IdArray)) :=
  pairFrom m b 0 turns

/-- While turns are paired, `used` ids have been used up when `rest` is left. -/
inductive Reaches (b : WordBudget) (turns : List IdArray) : UInt64 → List IdArray → Prop
  | start : Reaches b turns 0 turns
  | round {used used' : UInt64} {source target : IdArray} {rest : List IdArray}
      {pair : IdArray × IdArray} (earlier : Reaches b turns used (source :: target :: rest))
      (room : used < b.cutoff) (cut : round m b used source target = some (pair, used')) :
      Reaches b turns used' rest

section

variable {m} {b : WordBudget} {used : UInt64} {source target : IdArray}

theorem fits_sizes (source target : IdArray) :
    source.size.toNat + target.size.toNat < 2 ^ 64 := by
  have := source.fits
  have := target.fits
  rw [IdArray.toNat_size, IdArray.toNat_size]
  omega

/-- A round that starts below the cutoff makes the exact pair and ends at the cutoff or below. -/
theorem round_exact (room : used.toNat ≤ b.cutoff.toNat) (source target : IdArray) :
    ∃ pair used', round m b used source target = some (pair, used') ∧
      pairIds pair = b.exact.cut (b.cutoff.toNat - used.toNat) (pairIds (source, target)) ∧
      used'.toNat = used.toNat +
        min (b.cutoff.toNat - used.toNat) (Budget.size (pairIds (source, target))) := by
  obtain ⟨headroom, subtracted, headroom_eq⟩ := sub_exact (m := m) room
  obtain ⟨s, t, divided, lengths_eq⟩ :=
    split_exact m (fits_sizes source target) headroom b.reserved
  rw [IdArray.toNat_size, IdArray.toNat_size, headroom_eq] at lengths_eq
  have pair_eq : pairIds (source.truncate s, target.truncate t) =
      b.exact.cut (b.cutoff.toNat - used.toNat) (pairIds (source, target)) := by
    have s_eq := congrArg Prod.fst lengths_eq
    have t_eq := congrArg Prod.snd lengths_eq
    dsimp only at s_eq t_eq
    simp only [pairIds, IdArray.truncate, Budget.cut, s_eq, t_eq]
    rfl
  have size_eq := Budget.size_cut b.exact (b.cutoff.toNat - used.toNat) (pairIds (source, target))
  rw [← pair_eq] at size_eq
  obtain ⟨size, counted, counted_eq⟩ := add_exact (m := m)
    (fits_sizes (source.truncate s) (target.truncate t))
  rw [IdArray.toNat_size, IdArray.toNat_size] at counted_eq
  have fresh : size.toNat = min (b.cutoff.toNat - used.toNat)
      (Budget.size (pairIds (source, target))) := counted_eq.trans size_eq
  have := b.cutoff.toNat_lt
  obtain ⟨used', added, used_eq⟩ := add_exact (m := m) (a := used) (b := size) (by omega)
  refine ⟨(source.truncate s, target.truncate t), used', ?_, pair_eq, by rw [used_eq, fresh]⟩
  simp [round, subtracted, divided, counted, added]

theorem pairFrom_exact (room : used.toNat ≤ b.cutoff.toNat) (turns : List IdArray) :
    ∃ pairs, pairFrom m b used turns = some pairs ∧
      pairs.map pairIds = b.exact.pairFrom used.toNat (turns.map IdArray.ids) := by
  induction turns using List.twoStepInduction generalizing used with
  | nil => exact ⟨[], rfl, rfl⟩
  | singleton source => exact ⟨[], rfl, rfl⟩
  | cons_cons source target rest ih _ =>
    rw [List.map_cons, List.map_cons]
    by_cases full : b.cutoff ≤ used
    · refine ⟨[], by rw [pairFrom, if_pos full], ?_⟩
      exact (Budget.pairFrom_of_cutoff_le b.exact (UInt64.le_iff_toNat_le.1 full) _).symm
    · have start : used.toNat < b.exact.cutoff := by
        rw [UInt64.le_iff_toNat_le] at full
        exact Nat.lt_of_not_le full
      obtain ⟨pair, used', cut, pair_eq, used_eq⟩ := round_exact (m := m) room source target
      have below : used'.toNat ≤ b.cutoff.toNat := by omega
      obtain ⟨pairs, paired, pairs_eq⟩ := ih below
      refine ⟨pair :: pairs, by simp [pairFrom, full, cut, paired], ?_⟩
      rw [List.map_cons, pair_eq, pairs_eq, used_eq, Budget.pairFrom_cons_cut b.exact start]
      rfl

/-- The ids used up are those of the turns that were taken, or as many as the cutoff allows. -/
theorem Reaches.used_eq {turns rest : List IdArray} (h : Reaches m b turns used rest) :
    ∃ taken, turns = taken ++ rest ∧
      used.toNat = min b.cutoff.toNat (taken.map (·.ids.length)).sum := by
  induction h with
  | start => exact ⟨[], rfl, by simp⟩
  | @round used used' source target rest pair earlier room cut ih =>
    obtain ⟨taken, rfl, used_eq⟩ := ih
    rw [UInt64.lt_iff_toNat_lt] at room
    obtain ⟨pair', next, cut', -, next_eq⟩ :=
      round_exact (m := m) (Nat.le_of_lt room) source target
    obtain ⟨rfl, rfl⟩ : pair' = pair ∧ next = used' := by simpa [cut] using cut'.symm
    refine ⟨taken ++ [source, target], by simp, ?_⟩
    rw [next_eq, List.map_append, List.sum_append]
    simp only [Budget.size, pairIds, List.map_cons, List.map_nil, List.sum_cons, List.sum_nil]
    omega

end

/-- Every machine comes to the exact lengths, as long as the lengths of source and target can be
added, and to the exact pairs; so one that stops where a result does not fit never stops. The ids
used up meanwhile are never more than the cutoff. -/
theorem machine_exact (m : Overflow) :
    (∀ source target limit reserved : UInt64, source.toNat + target.toNat < 2 ^ 64 →
      ∃ s t, split m source target limit reserved = some (s, t) ∧
        (s.toNat, t.toNat) =
          Budget.split source.toNat target.toNat limit.toNat reserved.toNat) ∧
    ∀ (b : WordBudget) (turns : List IdArray),
      (∃ pairs, pairUp m b turns = some pairs ∧
        pairs.map pairIds = b.exact.pairUp (turns.map IdArray.ids)) ∧
      ∀ used rest, Reaches m b turns used rest →
        used ≤ b.cutoff ∧ ∃ taken, turns = taken ++ rest ∧
          used.toNat = min b.cutoff.toNat (taken.map (·.ids.length)).sum := by
  refine ⟨fun source target limit reserved fits => split_exact m fits limit reserved,
    fun b turns => ⟨pairFrom_exact (Nat.zero_le _) turns, fun used rest h => ?_⟩⟩
  obtain ⟨taken, split, used_eq⟩ := h.used_eq
  refine ⟨?_, taken, split, used_eq⟩
  rw [UInt64.le_iff_toNat_le, used_eq]
  exact Nat.min_le_left _ _

/-- The largest share of less than the whole is taken from a product of almost 128 bits; and of two
rounds the second one uses up what the first one has left of the cutoff. -/
theorem machine_exact_widest :
    (1 : UInt64).toNat + (0xFFFFFFFFFFFFFFFE : UInt64).toNat < 2 ^ 64 ∧
    split .stops 1 0xFFFFFFFFFFFFFFFE 0xFFFFFFFFFFFFFFFE 1 = some (1, 0xFFFFFFFFFFFFFFFD) ∧
    Budget.split 1 0xFFFFFFFFFFFFFFFE 0xFFFFFFFFFFFFFFFE 1 = (1, 0xFFFFFFFFFFFFFFFD) ∧
    ∃ turns : List IdArray, turns.map IdArray.ids = [[1, 2], [3], [4, 5, 6], [7, 8]] ∧
      Reaches .stops ⟨6, 1⟩ turns 6 [] ∧ (6 : UInt64) ≤ 6 ∧
      ∃ pairs, pairUp .stops ⟨6, 1⟩ turns = some pairs ∧
        pairs.map pairIds = [([1, 2], [3]), ([4, 5], [7])] := by
  obtain ⟨lengths, pairing⟩ := machine_exact .stops
  have fits : (1 : UInt64).toNat + (0xFFFFFFFFFFFFFFFE : UInt64).toNat < 2 ^ 64 := by decide
  obtain ⟨s, t, divided, exact_eq⟩ := lengths 1 0xFFFFFFFFFFFFFFFE 0xFFFFFFFFFFFFFFFE 1 fits
  have wide : split .stops 1 0xFFFFFFFFFFFFFFFE 0xFFFFFFFFFFFFFFFE 1 =
      some (1, 0xFFFFFFFFFFFFFFFD) := by decide
  obtain ⟨rfl, rfl⟩ : s = 1 ∧ t = 0xFFFFFFFFFFFFFFFD := by simpa [wide] using divided.symm
  let turns : List IdArray := [⟨[1, 2], by decide⟩, ⟨[3], by decide⟩, ⟨[4, 5, 6], by decide⟩,
    ⟨[7, 8], by decide⟩]
  have first : Reaches .stops ⟨6, 1⟩ turns 3 (turns.drop 2) := .round .start (by decide) rfl
  have second : Reaches .stops ⟨6, 1⟩ turns 6 [] := .round first (by decide) rfl
  obtain ⟨⟨pairs, paired, pairs_eq⟩, totals⟩ := pairing ⟨6, 1⟩ turns
  exact ⟨fits, wide, exact_eq.symm, turns, rfl, second, (totals 6 [] second).1, pairs, paired,
    pairs_eq⟩

end Colloquy.Machine
