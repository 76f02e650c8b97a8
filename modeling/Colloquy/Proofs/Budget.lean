import Mathlib.Tactic.Ring
import Mathlib.Tactic.SplitIfs
import Colloquy.Budget

/-!
# What a budget leaves

`split` gives out its limit to the last id: what the two sides get is the limit, or all they have
(`split_add`), and a target keeps what is reserved for it (`split_fills`). Hence the ids used up by
pairs that are cut may be counted before the cut (`pairFrom_cons`), and the pairs within a budget
are those of the uncut rounds (`rounds`) that start below the cutoff, of which only the last can
have lost ids (`cutTo_pairUp`).
-/

namespace Colloquy

namespace Budget

/-! ## The split of a limit -/

theorem split_fst_le (source target limit reserved : Nat) :
    (split source target limit reserved).1 ≤ source := by
  unfold split
  split_ifs
  · exact Nat.zero_le _
  · exact min_le_right _ _

theorem split_snd_le (source target limit reserved : Nat) :
    (split source target limit reserved).2 ≤ target := by
  unfold split
  split_ifs
  · exact Nat.zero_le _
  · exact (min_le_left _ _).trans (min_le_right _ _)

/-- The share in proportion of one side and what the other side has reach the limit. -/
theorem le_share_add {source target limit : Nat} (h : limit ≤ source + target)
    (pos : 0 < source + target) : limit ≤ limit * target / (source + target) + source := by
  have hq := Nat.lt_div_mul_add (a := limit * target) pos
  have hs : limit * (source + target) = limit * source + limit * target := Nat.mul_add _ _ _
  have hc : limit * source ≤ (source + target) * source := Nat.mul_le_mul_right _ h
  by_contra hlt
  have hn : limit * target / (source + target) + source + 1 ≤ limit := by omega
  have hm := Nat.mul_le_mul_right (source + target) hn
  have he : (limit * target / (source + target) + source + 1) * (source + target) =
      limit * target / (source + target) * (source + target) + source * (source + target) +
        (source + target) := by ring
  have hx : (source + target) * source = source * (source + target) := Nat.mul_comm _ _
  omega

/-- A split gives out all of its limit, or all that there is. -/
theorem split_add (source target limit reserved : Nat) :
    (split source target limit reserved).1 + (split source target limit reserved).2 =
      min limit (source + target) := by
  unfold split
  split_ifs with h0
  · omega
  · have pos : 0 < source + target := by omega
    simp only
    by_cases hl : source + target ≤ limit
    · -- The share is the whole target when there is room for everything.
      have share : target ≤ limit * target / (source + target) := by
        rw [Nat.le_div_iff_mul_le pos, Nat.mul_comm]
        exact Nat.mul_le_mul_right _ hl
      omega
    · have share := le_share_add (Nat.le_of_not_le hl) pos
      omega

/-- A target keeps what is reserved for it, as far as the target and the limit go. -/
theorem reserved_le_split_snd (source target limit reserved : Nat) :
    min (min target reserved) limit ≤ (split source target limit reserved).2 := by
  unfold split
  split_ifs with h0
  · -- Nothing may be kept, or there is nothing to keep.
    rcases h0 with rfl | h0
    · exact min_le_right _ _
    · have none : target = 0 := by omega
      rw [none, Nat.zero_min, Nat.zero_min]
  · have raised : reserved ≤ max (limit * target / (source + target)) reserved :=
      le_max_right _ _
    dsimp only
    omega

/-- A split gives no side more than it has, gives out its limit or all that there is, and leaves a
target what is reserved for it. -/
theorem split_fills (source target limit reserved : Nat) :
    (split source target limit reserved).1 ≤ source ∧
      (split source target limit reserved).2 ≤ target ∧
      (split source target limit reserved).1 + (split source target limit reserved).2 =
        min limit (source + target) ∧
      min (min target reserved) limit ≤ (split source target limit reserved).2 :=
  ⟨split_fst_le _ _ _ _, split_snd_le _ _ _ _, split_add _ _ _ _, reserved_le_split_snd _ _ _ _⟩

/-! ## Rounds -/

/-- Encoded turns two at a time; a last turn without a partner is dropped. -/
def rounds : List (List TokenId) → List (List TokenId × List TokenId)
  | source :: target :: rest => (source, target) :: rounds rest
  | _ => []

/-- The number of ids in a pair. -/
def size (p : List TokenId × List TokenId) : Nat := p.1.length + p.2.length

/-- The number of ids in pairs. -/
def totalSize (ps : List (List TokenId × List TokenId)) : Nat := (ps.map size).sum

@[simp] theorem totalSize_nil : totalSize [] = 0 := rfl

@[simp] theorem totalSize_cons (p : List TokenId × List TokenId)
    (ps : List (List TokenId × List TokenId)) : totalSize (p :: ps) = size p + totalSize ps := rfl

/-- A pair cut to a headroom. -/
def cut (b : Budget) (headroom : Nat) (p : List TokenId × List TokenId) :
    List TokenId × List TokenId :=
  (p.1.take (split p.1.length p.2.length headroom b.reserved).1,
    p.2.take (split p.1.length p.2.length headroom b.reserved).2)

theorem length_cut_fst (b : Budget) (headroom : Nat) (p : List TokenId × List TokenId) :
    (b.cut headroom p).1.length = (split p.1.length p.2.length headroom b.reserved).1 := by
  simp only [cut, List.length_take]
  exact min_eq_left (split_fst_le _ _ _ _)

theorem length_cut_snd (b : Budget) (headroom : Nat) (p : List TokenId × List TokenId) :
    (b.cut headroom p).2.length = (split p.1.length p.2.length headroom b.reserved).2 := by
  simp only [cut, List.length_take]
  exact min_eq_left (split_snd_le _ _ _ _)

theorem size_cut (b : Budget) (headroom : Nat) (p : List TokenId × List TokenId) :
    size (b.cut headroom p) = min headroom (size p) := by
  unfold size
  rw [length_cut_fst, length_cut_snd, split_add]

/-- A pair for which there is room is left as it is. -/
theorem cut_of_size_le (b : Budget) {headroom : Nat} {p : List TokenId × List TokenId}
    (h : size p ≤ headroom) : b.cut headroom p = p := by
  have hs := split_add p.1.length p.2.length headroom b.reserved
  have h1 := split_fst_le p.1.length p.2.length headroom b.reserved
  have h2 := split_snd_le p.1.length p.2.length headroom b.reserved
  unfold size at h
  unfold cut
  rw [List.take_of_length_le (by omega), List.take_of_length_le (by omega)]

/-! ## Pairs within a budget -/

theorem rounds_of_short {turns : List (List TokenId)} (h : turns.length < 2) :
    rounds turns = [] := by
  match turns, h with
  | [], _ => rfl
  | [_], _ => rfl

theorem pairFrom_of_short (b : Budget) (used : Nat) {turns : List (List TokenId)}
    (h : turns.length < 2) : b.pairFrom used turns = [] := by
  match turns, h with
  | [], _ => rfl
  | [_], _ => rfl

theorem pairFrom_of_cutoff_le (b : Budget) {used : Nat} (h : b.cutoff ≤ used)
    (turns : List (List TokenId)) : b.pairFrom used turns = [] := by
  unfold pairFrom
  split
  · rw [if_pos h]
  · rfl

/-- A pair that is cut uses up as many ids as it has, or all that are left. -/
theorem pairFrom_cons_cut (b : Budget) {used : Nat} (h : used < b.cutoff)
    (source target : List TokenId) (rest : List (List TokenId)) :
    b.pairFrom used (source :: target :: rest) =
      b.cut (b.cutoff - used) (source, target) ::
        b.pairFrom (used + min (b.cutoff - used) (size (source, target))) rest := by
  rw [← size_cut b, size, ← Nat.add_assoc]
  conv_lhs => rw [pairFrom, if_neg (by omega)]
  rfl

/-- Whether a pair is counted before or after it is cut makes no difference: a cut pair fills the
budget, so that no pair follows it either way. -/
theorem pairFrom_cons (b : Budget) {used : Nat} (h : used < b.cutoff)
    (source target : List TokenId) (rest : List (List TokenId)) :
    b.pairFrom used (source :: target :: rest) =
      b.cut (b.cutoff - used) (source, target) ::
        b.pairFrom (used + size (source, target)) rest := by
  rw [pairFrom_cons_cut b h]
  by_cases hroom : size (source, target) ≤ b.cutoff - used
  · rw [min_eq_right hroom]
  · rw [pairFrom_of_cutoff_le b (by omega), pairFrom_of_cutoff_le b (by omega)]

/-- Encoded turns as rounds, one pair of turns after the other. -/
theorem rounds_induction {motive : List (List TokenId) → Prop}
    (short : ∀ turns, turns.length < 2 → motive turns)
    (round : ∀ source target rest, motive rest → motive (source :: target :: rest))
    (turns : List (List TokenId)) : motive turns := by
  induction turns using rounds.induct with
  | case1 source target rest ih => exact round source target rest ih
  | case2 turns hx =>
    refine short turns ?_
    match turns, hx with
    | [], _ => simp
    | [_], _ => simp
    | source :: target :: rest, hx => exact absurd rfl (hx source target rest)

theorem two_mul_length_rounds {turns : List (List TokenId)} (even : turns.length % 2 = 0) :
    2 * (rounds turns).length = turns.length := by
  induction turns using rounds_induction with
  | short turns h =>
    rw [rounds_of_short h, List.length_nil]
    omega
  | round source target rest ih =>
    simp only [rounds, List.length_cons] at even ⊢
    have := ih (by omega)
    omega

/-- Whole rounds are all turns. -/
theorem flatMap_rounds {turns : List (List TokenId)} (even : turns.length % 2 = 0) :
    (rounds turns).flatMap (fun p => [p.1, p.2]) = turns := by
  induction turns using rounds_induction with
  | short turns h =>
    obtain rfl := List.length_eq_zero_iff.1 (show turns.length = 0 by omega)
    rfl
  | round source target rest ih =>
    rw [List.length_cons, List.length_cons] at even
    rw [rounds, List.flatMap_cons, ih (by omega)]
    rfl

theorem flatten_rounds {turns : List (List TokenId)} (even : turns.length % 2 = 0) :
    (rounds turns).flatMap (fun p => p.1 ++ p.2) = turns.flatten := by
  conv_rhs => rw [← flatMap_rounds even, ← List.flatMap_id, List.flatMap_assoc]
  simp

/-- The pairs within a budget are the rounds that start below the cutoff, each cut to what the
rounds before it left. -/
theorem getElem?_pairFrom (b : Budget) (used : Nat) (turns : List (List TokenId)) (k : Nat) :
    (b.pairFrom used turns)[k]? =
      if used + totalSize ((rounds turns).take k) < b.cutoff then
        (rounds turns)[k]?.map (b.cut (b.cutoff - (used + totalSize ((rounds turns).take k))))
      else none := by
  induction turns using rounds_induction generalizing used k with
  | short turns h =>
    rw [pairFrom_of_short b used h, rounds_of_short h]
    simp
  | round source target rest ih =>
    by_cases h : used < b.cutoff
    · rw [pairFrom_cons b h, rounds]
      cases k with
      | zero => simp [h]
      | succ k =>
        rw [List.getElem?_cons_succ, List.getElem?_cons_succ, List.take_succ_cons, totalSize_cons,
          ih, ← Nat.add_assoc]
    · rw [pairFrom_of_cutoff_le b (by omega), if_neg (by omega)]
      rfl

theorem eq_cut_of_getElem?_pairFrom {b : Budget} {used : Nat} {turns : List (List TokenId)}
    {k : Nat} {p : List TokenId × List TokenId} (h : (b.pairFrom used turns)[k]? = some p) :
    used + totalSize ((rounds turns).take k) < b.cutoff ∧
      ∃ round, (rounds turns)[k]? = some round ∧
        p = b.cut (b.cutoff - (used + totalSize ((rounds turns).take k))) round := by
  rw [getElem?_pairFrom] at h
  split_ifs at h with hroom
  obtain ⟨round, hr, rfl⟩ := Option.map_eq_some_iff.1 h
  exact ⟨hroom, round, hr, rfl⟩

theorem totalSize_take_succ {ps : List (List TokenId × List TokenId)} {k : Nat}
    {p : List TokenId × List TokenId} (h : ps[k]? = some p) :
    totalSize (ps.take (k + 1)) = totalSize (ps.take k) + size p := by
  rw [List.take_add_one, h, totalSize, List.map_append, List.sum_append]
  rfl

/-- A pair that another one follows has lost nothing. -/
theorem getElem?_pairFrom_of_lt {b : Budget} {used : Nat} {turns : List (List TokenId)} {k : Nat}
    (h : k + 1 < (b.pairFrom used turns).length) :
    (b.pairFrom used turns)[k]? = (rounds turns)[k]? := by
  have hk : k < (b.pairFrom used turns).length := by omega
  obtain ⟨-, round, hr, hcut⟩ := eq_cut_of_getElem?_pairFrom (List.getElem?_eq_getElem hk)
  obtain ⟨hnext, -⟩ := eq_cut_of_getElem?_pairFrom (List.getElem?_eq_getElem h)
  rw [totalSize_take_succ hr] at hnext
  rw [List.getElem?_eq_getElem hk, hr, hcut, cut_of_size_le b (by omega)]

/-- As many pairs come out as rounds start below the cutoff. -/
theorem length_pairFrom (b : Budget) (used : Nat) (turns : List (List TokenId)) :
    (b.pairFrom used turns).length =
      (List.range (rounds turns).length).countP fun k =>
        used + totalSize ((rounds turns).take k) < b.cutoff := by
  induction turns using rounds_induction generalizing used with
  | short turns h =>
    rw [pairFrom_of_short b used h, rounds_of_short h]
    rfl
  | round source target rest ih =>
    rw [rounds, List.length_cons, List.range_succ_eq_map, List.countP_cons, List.countP_map,
      List.take_zero, totalSize_nil]
    by_cases h : used < b.cutoff
    · rw [pairFrom_cons b h, List.length_cons, ih, if_pos (by simpa using h)]
      simp only [Function.comp_def, List.take_succ_cons, totalSize_cons, Nat.add_assoc]
      rfl
    · rw [pairFrom_of_cutoff_le b (by omega), if_neg (by simpa using h), List.countP_eq_zero.2]
      · rfl
      · intro k _
        simp only [Function.comp_apply, decide_eq_true_eq]
        omega

/-- The pairs hold as many ids as the budget allows, or all that there are. -/
theorem totalSize_pairFrom (b : Budget) (used : Nat) (turns : List (List TokenId)) :
    totalSize (b.pairFrom used turns) = min (b.cutoff - used) (totalSize (rounds turns)) := by
  induction turns using rounds_induction generalizing used with
  | short turns h =>
    rw [pairFrom_of_short b used h, rounds_of_short h]
    simp
  | round source target rest ih =>
    by_cases h : used < b.cutoff
    · rw [pairFrom_cons b h, rounds, totalSize_cons, totalSize_cons, ih, size_cut]
      omega
    · rw [pairFrom_of_cutoff_le b (by omega), totalSize_nil]
      omega

/-- What a budget keeps of whole pairs. -/
structure CutTo (b : Budget) (whole kept : List (List TokenId × List TokenId)) : Prop where
  /-- As many pairs are kept as start below the cutoff. -/
  length_eq : kept.length = (List.range whole.length).countP fun k =>
    totalSize (whole.take k) < b.cutoff
  /-- All pairs but the last are kept whole. -/
  getElem?_of_lt : ∀ k, k + 1 < kept.length → kept[k]? = whole[k]?
  /-- Both sides of the last pair are beginnings, as long as the split of what is left allows. -/
  getElem?_last : ∀ k p, k + 1 = kept.length → kept[k]? = some p →
    ∃ q, whole[k]? = some q ∧ p.1 <+: q.1 ∧ p.2 <+: q.2 ∧
      (p.1.length, p.2.length) =
        split q.1.length q.2.length (b.cutoff - totalSize (whole.take k)) b.reserved
  /-- The pairs use up the cutoff, or hold all there is. -/
  totalSize_eq : totalSize kept = min b.cutoff (totalSize whole)

theorem cutTo_pairUp (b : Budget) (turns : List (List TokenId)) :
    b.CutTo (rounds turns) (b.pairUp turns) where
  length_eq := by
    rw [pairUp, length_pairFrom]
    simp only [Nat.zero_add]
  getElem?_of_lt k hk := getElem?_pairFrom_of_lt hk
  getElem?_last k p _ hp := by
    obtain ⟨-, round, hr, rfl⟩ := eq_cut_of_getElem?_pairFrom hp
    rw [Nat.zero_add]
    refine ⟨round, hr, List.take_prefix _ _, List.take_prefix _ _, ?_⟩
    exact Prod.ext (length_cut_fst _ _ _) (length_cut_snd _ _ _)
  totalSize_eq := totalSize_pairFrom b 0 turns

/-! ## The last pair -/

/-- The round in which a budget is used up: it starts below the cutoff and ends at it or above. -/
structure UsedUpIn (b : Budget) (whole : List (List TokenId × List TokenId)) (k : Nat)
    (round : List TokenId × List TokenId) : Prop where
  getElem?_eq : whole[k]? = some round
  start_lt : totalSize (whole.take k) < b.cutoff
  cutoff_le : b.cutoff ≤ totalSize (whole.take (k + 1))

theorem getLast?_eq_some_iff_getElem? {α : Type} {l : List α} {a : α} :
    l.getLast? = some a ↔ ∃ k : Nat, l[k]? = some a ∧ l[k + 1]? = none := by
  rw [List.getLast?_eq_getElem?]
  constructor
  · intro h
    obtain ⟨hk, -⟩ := List.getElem?_eq_some_iff.1 h
    exact ⟨l.length - 1, h, List.getElem?_eq_none (by omega)⟩
  · rintro ⟨k, h, next⟩
    obtain ⟨hk, -⟩ := List.getElem?_eq_some_iff.1 h
    rw [List.getElem?_eq_none_iff] at next
    rw [show l.length - 1 = k by omega, h]

/-- The last pair is a round that starts below the cutoff; it uses up the budget or is the last
round of all. -/
theorem getLast?_pairUp_eq_some_iff {b : Budget} {turns : List (List TokenId)}
    {p : List TokenId × List TokenId} :
    (b.pairUp turns).getLast? = some p ↔
      ∃ k round, (rounds turns)[k]? = some round ∧ totalSize ((rounds turns).take k) < b.cutoff ∧
        (b.cutoff ≤ totalSize ((rounds turns).take (k + 1)) ∨ (rounds turns)[k + 1]? = none) ∧
        p = b.cut (b.cutoff - totalSize ((rounds turns).take k)) round := by
  unfold pairUp
  rw [getLast?_eq_some_iff_getElem?]
  apply exists_congr
  intro k
  simp only [getElem?_pairFrom, Nat.zero_add]
  constructor
  · rintro ⟨h, next⟩
    split_ifs at h with start
    obtain ⟨round, hr, rfl⟩ := Option.map_eq_some_iff.1 h
    refine ⟨round, hr, start, ?_, rfl⟩
    split_ifs at next with room
    · exact .inr (Option.map_eq_none_iff.1 next)
    · exact .inl (by omega)
  · rintro ⟨round, hr, start, ends, rfl⟩
    refine ⟨by rw [if_pos start, hr, Option.map_some], ?_⟩
    rcases ends with full | ends
    · rw [if_neg (by omega)]
    · simp [ends]

/-- A cut leaves nothing of a response if there is none, or if nothing is reserved for it and its
share in proportion is less than one id. -/
theorem cut_snd_eq_nil_iff {b : Budget} {headroom : Nat} {p : List TokenId × List TokenId}
    (room : 0 < headroom) :
    (b.cut headroom p).2 = [] ↔
      p.2 = [] ∨ b.reserved = 0 ∧ headroom * p.2.length < size p := by
  rw [← List.length_eq_zero_iff, length_cut_snd, ← List.length_eq_zero_iff]
  unfold split size
  split_ifs with h
  · omega
  · have share : headroom * p.2.length / (p.1.length + p.2.length) = 0 ↔
        headroom * p.2.length < p.1.length + p.2.length := by
      rw [Nat.div_eq_zero_iff]
      omega
    rw [← share]
    generalize headroom * p.2.length / (p.1.length + p.2.length) = q
    dsimp only
    omega

/-- The rounds that more turns follow are paired as they are without them. -/
theorem pairFrom_append (b : Budget) (used : Nat) (turns more : List (List TokenId))
    (even : turns.length % 2 = 0) :
    b.pairFrom used turns = (b.pairFrom used (turns ++ more)).take (turns.length / 2) := by
  induction turns using rounds_induction generalizing used with
  | short turns h =>
    obtain rfl : turns = [] := List.length_eq_zero_iff.1 (by omega)
    rfl
  | round source target rest ih =>
    have hl : (source :: target :: rest).length / 2 = rest.length / 2 + 1 := by
      simp only [List.length_cons]
      omega
    have he : rest.length % 2 = 0 := by
      simp only [List.length_cons] at even
      omega
    rw [hl, List.cons_append, List.cons_append]
    by_cases h : used < b.cutoff
    · rw [pairFrom_cons b h, pairFrom_cons b h, List.take_succ_cons, ih _ he]
    · rw [pairFrom_of_cutoff_le b (by omega), pairFrom_of_cutoff_le b (by omega), List.take_nil]

end Budget

end Colloquy
