import Colloquy.Proofs.Encoding

/-!
# Larger budgets

A larger limit leaves neither side of a pair shorter (`split_grows`). For a target this is so
because its share grows with the limit; for a source, because the share grows no faster than the
limit does (`split_snd_le_add`). So the pairs within a budget are beginnings of those within a
larger one (`begins_pairUp`), though a pair that is cut may be cut elsewhere then, and others may
follow it.
-/

namespace Colloquy

namespace Budget

/-! ## The split of a larger limit -/

theorem share_le_share {limit more : Nat} (h : limit ≤ more) (target total : Nat) :
    limit * target / total ≤ more * target / total :=
  Nat.div_le_div_right (Nat.mul_le_mul_right target h)

/-- A share in proportion grows no faster than what is shared out. -/
theorem share_le_add {limit more target total : Nat} (h : limit ≤ more) (part : target ≤ total) :
    more * target / total ≤ limit * target / total + (more - limit) := by
  rcases Nat.eq_zero_or_pos total with rfl | pos
  · simp
  · rw [← Nat.add_mul_div_right _ _ pos]
    apply Nat.div_le_div_right
    calc more * target = limit * target + (more - limit) * target := by
          rw [← Nat.add_mul, Nat.add_sub_cancel' h]
      _ ≤ limit * target + (more - limit) * total :=
          Nat.add_le_add_left (Nat.mul_le_mul_left _ part) _

theorem split_snd_mono (source target reserved : Nat) {limit more : Nat} (h : limit ≤ more) :
    (split source target limit reserved).2 ≤ (split source target more reserved).2 := by
  have share := share_le_share h target (source + target)
  unfold split
  generalize limit * target / (source + target) = few at share ⊢
  generalize more * target / (source + target) = many at share ⊢
  split_ifs <;> dsimp only <;> omega

/-- Of what is added to a limit a target gets no more than all. -/
theorem split_snd_le_add (source target reserved : Nat) {limit more : Nat} (h : limit ≤ more) :
    (split source target more reserved).2 ≤
      (split source target limit reserved).2 + (more - limit) := by
  have share := share_le_add h (Nat.le_add_left target source)
  unfold split
  generalize limit * target / (source + target) = few at share ⊢
  generalize more * target / (source + target) = many at share ⊢
  split_ifs <;> dsimp only <;> omega

theorem split_fst_mono (source target reserved : Nat) {limit more : Nat} (h : limit ≤ more) :
    (split source target limit reserved).1 ≤ (split source target more reserved).1 := by
  have few := split_add source target limit reserved
  have many := split_add source target more reserved
  have grown := split_snd_le_add source target reserved h
  have room := split_fst_le source target limit reserved
  have target_le := split_snd_le source target more reserved
  -- Either the larger limit is given out to the last id, or it leaves both sides whole.
  omega

/-- What a target does not lose a source cannot gain. -/
theorem split_fst_le_add (source target reserved : Nat) {limit more : Nat} (h : limit ≤ more) :
    (split source target more reserved).1 ≤
      (split source target limit reserved).1 + (more - limit) := by
  have few := split_add source target limit reserved
  have many := split_add source target more reserved
  have kept := split_snd_mono source target reserved h
  omega

/-- A larger limit leaves no side shorter, and no side gains more than the limit does: with one id
more each side is longer by at most one. -/
theorem split_grows (source target reserved : Nat) {limit more : Nat} (h : limit ≤ more) :
    ((split source target limit reserved).1 ≤ (split source target more reserved).1 ∧
      (split source target more reserved).1 ≤
        (split source target limit reserved).1 + (more - limit)) ∧
    (split source target limit reserved).2 ≤ (split source target more reserved).2 ∧
      (split source target more reserved).2 ≤
        (split source target limit reserved).2 + (more - limit) :=
  ⟨⟨split_fst_mono _ _ _ h, split_fst_le_add _ _ _ h⟩,
    split_snd_mono _ _ _ h, split_snd_le_add _ _ _ h⟩

/-- The share of the target passes what is reserved for it with the eighteenth id, which the source
does not get then. -/
theorem split_grows_eighteenth :
    17 ≤ 18 ∧ split 37 11 17 3 = (14, 3) ∧ split 37 11 18 3 = (14, 4) ∧
      ((split 37 11 17 3).1 ≤ (split 37 11 18 3).1 ∧
        (split 37 11 18 3).1 ≤ (split 37 11 17 3).1 + (18 - 17)) ∧
      (split 37 11 17 3).2 ≤ (split 37 11 18 3).2 ∧
        (split 37 11 18 3).2 ≤ (split 37 11 17 3).2 + (18 - 17) :=
  ⟨by decide, by decide, by decide, split_grows 37 11 3 (by decide)⟩

/-! ## Pairs within a larger budget -/

/-- Pairs that are beginnings of other pairs, of which there are no fewer. -/
structure Begins (few many : List (List TokenId × List TokenId)) : Prop where
  length_le : few.length ≤ many.length
  isPrefix : ∀ (k : Nat) (p q : List TokenId × List TokenId), few[k]? = some p → many[k]? = some q →
    p.1 <+: q.1 ∧ p.2 <+: q.2

/-- A pair cut to a headroom is a beginning of the same pair cut to a larger one. -/
theorem isPrefix_cut {b c : Budget} (same : b.reserved = c.reserved) {headroom more : Nat}
    (h : headroom ≤ more) (p : List TokenId × List TokenId) :
    (b.cut headroom p).1 <+: (c.cut more p).1 ∧ (b.cut headroom p).2 <+: (c.cut more p).2 := by
  unfold cut
  rw [same]
  exact ⟨List.take_prefix_take_left (split_fst_mono _ _ _ h),
    List.take_prefix_take_left (split_snd_mono _ _ _ h)⟩

/-- A round that starts below a cutoff starts below a larger one, with more room. -/
theorem exists_getElem?_pairFrom {b c : Budget} (same : b.reserved = c.reserved)
    (h : b.cutoff ≤ c.cutoff) {used k : Nat} {turns : List (List TokenId)}
    {p : List TokenId × List TokenId} (hp : (b.pairFrom used turns)[k]? = some p) :
    ∃ q, (c.pairFrom used turns)[k]? = some q ∧ p.1 <+: q.1 ∧ p.2 <+: q.2 := by
  obtain ⟨start, round, hr, rfl⟩ := eq_cut_of_getElem?_pairFrom hp
  refine ⟨c.cut (c.cutoff - (used + totalSize ((rounds turns).take k))) round, ?_, ?_⟩
  · rw [getElem?_pairFrom, if_pos (by omega), hr, Option.map_some]
  · exact isPrefix_cut same (by omega) round

theorem begins_pairUp {b c : Budget} (same : b.reserved = c.reserved) (h : b.cutoff ≤ c.cutoff)
    (turns : List (List TokenId)) : Begins (b.pairUp turns) (c.pairUp turns) where
  length_le := by
    by_contra shorter
    have here := List.getElem?_eq_getElem (Nat.lt_of_not_le shorter)
    obtain ⟨q, hq, -⟩ := exists_getElem?_pairFrom same h here
    obtain ⟨absent, -⟩ := List.getElem?_eq_some_iff.1 hq
    exact Nat.lt_irrefl _ absent
  isPrefix k p q hp hq := by
    obtain ⟨q', hq', pre⟩ := exists_getElem?_pairFrom same h hp
    obtain rfl : q = q' := Option.some.inj (hq.symm.trans hq')
    exact pre

end Budget

namespace Template

variable {τ : Type} [Tokenizer τ]

/-- A larger cutoff loses no id: whatever turns are paired, and whatever dialogue is encoded, the
pairs within a cutoff are beginnings of those within a larger one. -/
theorem encodeRounds_begins {t : Template} {tok : τ} {turns : List Turn}
    {system tools : Option String} {b : Budget} {pairs : List EncodedPair}
    (accepted : t.encodeRounds tok turns system tools b = .ok pairs) (reserved : Nat)
    {cutoff larger : Nat} (h : cutoff ≤ larger) :
    (∀ ids, Budget.Begins (Budget.pairUp ⟨cutoff, reserved⟩ ids)
      (Budget.pairUp ⟨larger, reserved⟩ ids)) ∧
    ∃ few many,
      t.encodeRounds tok turns system tools ⟨cutoff, reserved⟩ = .ok few ∧
      t.encodeRounds tok turns system tools ⟨larger, reserved⟩ = .ok many ∧
      Budget.Begins (few.map EncodedPair.toPair) (many.map EncodedPair.toPair) := by
  have begins : ∀ ids, Budget.Begins (Budget.pairUp ⟨cutoff, reserved⟩ ids)
      (Budget.pairUp ⟨larger, reserved⟩ ids) := Budget.begins_pairUp rfl h
  obtain ⟨even, ids, hids, -⟩ := encodeRounds_eq_ok_iff.1 accepted
  refine ⟨begins, _, _, encodeRounds_eq_ok_iff.2 ⟨even, ids, hids, rfl⟩,
    encodeRounds_eq_ok_iff.2 ⟨even, ids, hids, rfl⟩, ?_⟩
  rw [List.map_map, List.map_map, EncodedPair.toPair_comp_ofPair, List.map_id, List.map_id]
  exact begins ids

/-- With two ids more the first round keeps its whole response, and a part of the second follows. -/
theorem encodeRounds_begins_smallTalk :
    plain.encodeRounds CharLevel.empty smallTalk none none ⟨5, 1⟩ =
        .ok [⟨[10104, 10105], [10121, 10111]⟩, ⟨[], [10114]⟩] ∧
      3 ≤ 5 ∧
      (∀ ids, Budget.Begins (Budget.pairUp ⟨3, 1⟩ ids) (Budget.pairUp ⟨5, 1⟩ ids)) ∧
      ∃ few many,
        plain.encodeRounds CharLevel.empty smallTalk none none ⟨3, 1⟩ = .ok few ∧
        plain.encodeRounds CharLevel.empty smallTalk none none ⟨5, 1⟩ = .ok many ∧
        Budget.Begins (few.map EncodedPair.toPair) (many.map EncodedPair.toPair) := by
  have h : plain.encodeRounds CharLevel.empty smallTalk none none ⟨5, 1⟩ =
      .ok [⟨[10104, 10105], [10121, 10111]⟩, ⟨[], [10114]⟩] := by decide
  exact ⟨h, by decide, encodeRounds_begins h 1 (by decide)⟩

end Template

end Colloquy
