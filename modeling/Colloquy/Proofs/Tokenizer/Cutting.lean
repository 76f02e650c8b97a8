import Colloquy.Tokenizer.CharLevel

/-!
# What a text is cut into

A text is cut where the longest token stands that it starts with (`longestAt?_eq_some`), and there
is none only if it starts with no token (`longestAt?_eq_none_iff`).

The ids that a character tokenizer gives to a text are said once more by a relation (`Segments`)
that takes the longest token of the vocabulary, or else one character, off the text until nothing is
left. The empty token counts here, so that with it in the vocabulary this may go on forever, and
there are no ids then (`not_segments_of_empty`). Where the vocabulary does not have it, and has no
token twice, every text has ids, and they are those that the tokenizer gives it (`segments_iff`).
-/

namespace Colloquy

namespace Tokenizer

variable {entries : List Entry} {e : Entry} {s : List Char}

/-! ## The longest token -/

theorem startsWith_iff : startsWith s e = true ↔ e.1 ≠ [] ∧ e.1 <+: s := by
  rw [startsWith, Bool.and_eq_true, Bool.not_eq_true', List.isEmpty_eq_false_iff,
    Option.isSome_iff_exists]
  simp only [Text.afterStart?_eq_some, List.IsPrefix, @eq_comm _ s]

theorem foldl_longer_mem (e : Entry) (rest : List Entry) : rest.foldl longer e ∈ e :: rest := by
  induction rest generalizing e with
  | nil => exact List.mem_singleton_self e
  | cons x rest ih =>
    have among : (x :: rest).foldl longer e ∈ longer e x :: rest := ih (longer e x)
    have one : longer e x = e ∨ longer e x = x := by
      unfold longer
      split
      · exact .inr rfl
      · exact .inl rfl
    simp only [List.mem_cons] at among ⊢
    rcases among with first | later
    · rw [first]
      exact one.imp_right .inl
    · exact .inr (.inr later)

theorem length_le_foldl_longer (e : Entry) (rest : List Entry) :
    ∀ x ∈ e :: rest, x.1.length ≤ (rest.foldl longer e).1.length := by
  induction rest generalizing e with
  | nil => simp
  | cons y rest ih =>
    have longest : ∀ x ∈ longer e y :: rest,
        x.1.length ≤ ((y :: rest).foldl longer e).1.length := ih (longer e y)
    have both : e.1.length ≤ (longer e y).1.length ∧ y.1.length ≤ (longer e y).1.length := by
      unfold longer
      split <;> omega
    have first := longest _ (List.mem_cons_self ..)
    intro x hx
    simp only [List.mem_cons] at hx
    rcases hx with rfl | rfl | later
    · exact Nat.le_trans both.1 first
    · exact Nat.le_trans both.2 first
    · exact longest x (List.mem_cons_of_mem _ later)

theorem longestAt?_eq_none_iff :
    longestAt? entries s = none ↔ ∀ e ∈ entries, e.1 ≠ [] → ¬ e.1 <+: s := by
  have none_iff : longestAt? entries s = none ↔ entries.filter (startsWith s) = [] := by
    unfold longestAt?
    split <;> simp [*]
  simp only [none_iff, List.filter_eq_nil_iff, startsWith_iff, not_and]

theorem longestAt?_eq_some (h : longestAt? entries s = some e) :
    e ∈ entries ∧ e.1 ≠ [] ∧ e.1 <+: s ∧
      ∀ x ∈ entries, x.1 <+: s → x.1.length ≤ e.1.length := by
  unfold longestAt? at h
  split at h
  · cases h
  · rename_i first rest among
    cases h
    have mem := foldl_longer_mem first rest
    rw [← among, List.mem_filter, startsWith_iff] at mem
    refine ⟨mem.1, mem.2.1, mem.2.2, fun x hx starts => ?_⟩
    by_cases empty : x.1 = []
    · rw [empty]
      exact Nat.zero_le _
    · refine length_le_foldl_longer first rest x ?_
      rw [← among, List.mem_filter, startsWith_iff]
      exact ⟨hx, empty, starts⟩

end Tokenizer

namespace CharLevel

open Tokenizer (cutFrom cutTokens longestAt?)

/-! ## Ids one after the other -/

/-- The ids of the characters of a text. -/
def idsOf (tok : CharLevel) (s : List Char) : List TokenId :=
  (cutTokens tok.entries s).flatMap partIds

theorem encode_eq (tok : CharLevel) (s : String) : tok.encode s = tok.idsOf s.toList := rfl

theorem flatMap_cutFrom (tok : CharLevel) (skip : Nat) (done : List Tokenizer.Part)
    (piece s : List Char) :
    (cutFrom tok.entries skip done piece s).flatMap partIds =
      done.reverse.flatMap partIds ++ partIds (.text piece.reverse) ++
        tok.idsOf (s.drop skip) := by
  induction s generalizing skip done piece with
  | nil => simp [cutFrom, idsOf, cutTokens, partIds]
  | cons c s ih =>
    cases skip with
    | succ skip => exact ih skip done piece
    | zero =>
      rw [List.drop_zero, idsOf, cutTokens]
      unfold cutFrom
      cases found : longestAt? tok.entries (c :: s) with
      | some e => simp [ih, partIds]
      | none => simp [ih, partIds]

theorem idsOf_of_token {tok : CharLevel} {c : Char} {s t rest : List Char} {id : TokenId}
    (found : longestAt? tok.entries (c :: s) = some (t, id)) (cut : c :: s = t ++ rest) :
    tok.idsOf (c :: s) = id :: tok.idsOf rest := by
  have ne : t ≠ [] := (Tokenizer.longestAt?_eq_some found).2.1
  have dropped : s.drop (t.length - 1) = rest := by
    cases t with
    | nil => exact absurd rfl ne
    | cons d t =>
      rw [(List.cons.inj cut).2]
      exact List.drop_left
  rw [idsOf, cutTokens, cutFrom, found]
  dsimp only
  rw [flatMap_cutFrom, dropped]
  rfl

theorem idsOf_of_char {tok : CharLevel} {c : Char} {s : List Char}
    (none : longestAt? tok.entries (c :: s) = none) :
    tok.idsOf (c :: s) = (charBase + c.toNat) :: tok.idsOf s := by
  rw [idsOf, cutTokens, cutFrom, none]
  exact flatMap_cutFrom tok 0 [] [c] s

/-! ## Segments -/

/-- A token of the vocabulary that a text starts with, where it starts with no longer one. -/
structure LongestAt (tok : CharLevel) (token : String) (s : List Char) : Prop where
  mem : token ∈ tok.vocab
  starts : token.toList <+: s
  longest : ∀ other ∈ tok.vocab, other.toList <+: s → other.toList.length ≤ token.toList.length

/-- The ids of a text: as long as something is left, that of the longest token that it starts with,
or else that of its first character. -/
inductive Segments (tok : CharLevel) : List Char → List TokenId → Prop
  | nil : Segments tok [] []
  | token {token : String} {c : Char} {s rest : List Char} {ids : List TokenId}
      (longest : tok.LongestAt token (c :: s)) (cut : c :: s = token.toList ++ rest)
      (more : Segments tok rest ids) : Segments tok (c :: s) (tok.idOf token :: ids)
  | char {c : Char} {s : List Char} {ids : List TokenId}
      (none : ∀ token ∈ tok.vocab, ¬ token.toList <+: c :: s) (more : Segments tok s ids) :
      Segments tok (c :: s) ((charBase + c.toNat) :: ids)

section

variable {tok : CharLevel}

/-- With the empty token in the vocabulary nothing is taken off a text that starts with no other
token. -/
theorem not_segments_of_empty (empty : "" ∈ tok.vocab) {s : List Char} (ne : s ≠ [])
    (no_other : ∀ token ∈ tok.vocab, token.toList <+: s → token = "") (ids : List TokenId) :
    ¬ Segments tok s ids := by
  intro h
  induction h with
  | nil => exact ne rfl
  | @token token c s rest ids longest cut _ ih =>
    obtain rfl := no_other token longest.mem longest.starts
    -- All of the text is left, so that the same step comes again.
    obtain rfl : c :: s = rest := cut
    exact ih ne no_other
  | char none => exact none "" empty List.nil_prefix

theorem mem_entries_iff {e : Tokenizer.Entry} :
    e ∈ tok.entries ↔ ∃ i token, tok.vocab[i]? = some token ∧ e = (token.toList, i + 1) := by
  simp only [entries, List.mem_map, Prod.exists, List.mem_zipIdx_iff_getElem?]
  constructor
  · rintro ⟨token, i, found, rfl⟩
    exact ⟨i, token, found, rfl⟩
  · rintro ⟨i, token, found, rfl⟩
    exact ⟨token, i, found, rfl⟩

theorem getElem?_idOf {token : String} (h : token ∈ tok.vocab) :
    ∃ i, tok.idOf token = i + 1 ∧ tok.vocab[i]? = some token := by
  obtain ⟨i, found⟩ := Option.isSome_iff_exists.1 (List.isSome_idxOf?.2 h)
  obtain ⟨lt, here, -⟩ := List.idxOf?_eq_some_iff.1 found
  exact ⟨i, by rw [idOf, found], by rw [List.getElem?_eq_getElem lt, here]⟩

/-- Of the entries for a token there is only one. -/
theorem exists_of_mem_entries (nodup : tok.vocab.Nodup) {e : Tokenizer.Entry}
    (h : e ∈ tok.entries) : ∃ token ∈ tok.vocab, e = (token.toList, tok.idOf token) := by
  obtain ⟨i, token, here, rfl⟩ := mem_entries_iff.1 h
  have mem : token ∈ tok.vocab := List.mem_of_getElem? here
  obtain ⟨j, id, there⟩ := getElem?_idOf mem
  obtain ⟨lt, -⟩ := List.getElem?_eq_some_iff.1 here
  obtain rfl : i = j := (List.getElem?_inj lt nodup).1 (here.trans there.symm)
  exact ⟨token, mem, by rw [id]⟩

theorem mem_entries_of_mem {token : String} (h : token ∈ tok.vocab) :
    (token.toList, tok.idOf token) ∈ tok.entries := by
  obtain ⟨i, id, here⟩ := getElem?_idOf h
  exact mem_entries_iff.2 ⟨i, token, here, by rw [id]⟩

theorem toList_ne_nil (nonempty : "" ∉ tok.vocab) {token : String} (h : token ∈ tok.vocab) :
    token.toList ≠ [] := by
  rw [ne_eq, String.toList_eq_nil_iff]
  rintro rfl
  exact nonempty h

variable {s : List Char} (nodup : tok.vocab.Nodup)
include nodup

theorem longestAt?_entries_eq_some {t : List Char} {id : TokenId}
    (found : longestAt? tok.entries s = some (t, id)) :
    ∃ token, tok.LongestAt token s ∧ t = token.toList ∧ id = tok.idOf token := by
  obtain ⟨mem, -, starts, longest⟩ := Tokenizer.longestAt?_eq_some found
  obtain ⟨token, h, same⟩ := exists_of_mem_entries nodup mem
  obtain ⟨rfl, rfl⟩ := Prod.mk.inj same
  exact ⟨token, ⟨h, starts, fun other ho => longest _ (mem_entries_of_mem ho)⟩, rfl, rfl⟩

variable (nonempty : "" ∉ tok.vocab)
include nonempty

theorem longestAt?_entries_eq_none_iff :
    longestAt? tok.entries s = none ↔ ∀ token ∈ tok.vocab, ¬ token.toList <+: s := by
  rw [Tokenizer.longestAt?_eq_none_iff]
  constructor
  · exact fun none token h => none _ (mem_entries_of_mem h) (toList_ne_nil nonempty h)
  · intro none e he _
    obtain ⟨token, h, rfl⟩ := exists_of_mem_entries nodup he
    exact none token h

/-- A text starts with one longest token. -/
theorem LongestAt.longestAt?_entries {token : String} (h : tok.LongestAt token s) :
    longestAt? tok.entries s = some (token.toList, tok.idOf token) := by
  cases found : longestAt? tok.entries s with
  | none =>
    exact absurd h.starts ((longestAt?_entries_eq_none_iff nodup nonempty).1 found token h.mem)
  | some e =>
    obtain ⟨other, ho, text, id⟩ := longestAt?_entries_eq_some nodup found
    have same : other.toList = token.toList :=
      (List.prefix_of_prefix_length_le ho.starts h.starts
        (h.longest other ho.mem ho.starts)).eq_of_length
        (Nat.le_antisymm (h.longest other ho.mem ho.starts) (ho.longest token h.mem h.starts))
    obtain rfl := String.toList_inj.1 same
    rw [← text, ← id]

/-- The longest token or else the first character is taken off until nothing is left. -/
theorem segments_idsOf (s : List Char) : Segments tok s (tok.idsOf s) := by
  induction hn : s.length using Nat.strongRecOn generalizing s with
  | _ n ih =>
    subst hn
    cases s with
    | nil => exact .nil
    | cons c s =>
      cases found : longestAt? tok.entries (c :: s) with
      | none =>
        rw [idsOf_of_char found]
        exact .char ((longestAt?_entries_eq_none_iff nodup nonempty).1 found)
          (ih _ (Nat.lt_succ_self _) s rfl)
      | some e =>
        obtain ⟨token, longest, text, id⟩ := longestAt?_entries_eq_some nodup found
        obtain ⟨rest, cut⟩ := longest.starts
        have pos : 0 < token.toList.length :=
          List.length_pos_iff.2 (toList_ne_nil nonempty longest.mem)
        have shorter : rest.length < (c :: s).length := by
          rw [← cut, List.length_append]
          omega
        rw [idsOf_of_token found (show c :: s = e.1 ++ rest by rw [text, cut]), id]
        exact .token longest cut.symm (ih _ shorter rest rfl)

theorem segments_iff {ids : List TokenId} : Segments tok s ids ↔ ids = tok.idsOf s := by
  constructor
  · intro h
    induction h with
    | nil => rfl
    | token longest cut _ ih =>
      rw [ih, idsOf_of_token (longest.longestAt?_entries nodup nonempty) cut]
    | char none _ ih =>
      rw [ih, idsOf_of_char ((longestAt?_entries_eq_none_iff nodup nonempty).2 none)]
  · rintro rfl
    exact segments_idsOf nodup nonempty s

end

end CharLevel

end Colloquy
