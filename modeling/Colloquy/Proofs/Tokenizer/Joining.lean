import Colloquy.Proofs.Encoding
import Colloquy.Proofs.Tokenizer.Cutting

/-!
# Texts that are joined

Tokens are taken off a text from its beginning, so what follows a text may change its ids: a token
may start in it and end in what follows (`Straddles`). If no token of the vocabulary does
(`Seamless`), then at each place of the first text the same tokens start whether the second one
follows or not (`Seamless.isPrefix_iff`). The longest of them is the same, and what is left when it
is taken off meets the second text as seamlessly (`Seamless.of_append`). Hence the ids of joined
texts are those of the texts one after the other (`idsOf_append`), and it makes no difference
whether texts come in one slot or in several (`encode_append`).
-/

namespace Colloquy

/-- A token occurs where two texts are joined: it starts in the first and ends in the second. -/
def Straddles (token a b : List Char) : Prop :=
  ∃ ahead behind, a ++ b = ahead ++ token ++ behind ∧
    ahead.length < a.length ∧ behind.length < b.length

/-- A token that straddles is cut in two where the texts meet. -/
theorem straddles_iff {token a b : List Char} :
    Straddles token a b ↔
      ∃ k ∈ List.range token.length, 0 < k ∧ token.take k <:+ a ∧ token.drop k <+: b := by
  constructor
  · rintro ⟨ahead, behind, joined, starts, ends⟩
    rw [List.append_assoc, List.append_eq_append_iff] at joined
    rcases joined with ⟨late, rfl, -⟩ | ⟨u, rfl, joined⟩
    · rw [List.length_append] at starts
      omega
    rcases List.append_eq_append_iff.1 joined with ⟨early, -, rfl⟩ | ⟨v, rfl, rfl⟩
    · rw [List.length_append] at ends
      omega
    · rw [List.length_append] at starts ends
      refine ⟨u.length, ?_, by omega, ?_, ?_⟩
      · rw [List.mem_range, List.length_append]
        omega
      · rw [List.take_left]
        exact List.suffix_append ahead u
      · rw [List.drop_left]
        exact List.prefix_append v behind
  · rintro ⟨k, below, pos, ⟨ahead, rfl⟩, ⟨behind, rfl⟩⟩
    rw [List.mem_range] at below
    refine ⟨ahead, behind, ?_, ?_, ?_⟩
    · rw [List.append_assoc, List.append_assoc, ← List.append_assoc (token.take k),
        List.take_append_drop]
    · rw [List.length_append, List.length_take]
      omega
    · rw [List.length_append, List.length_drop]
      omega

instance (token a b : List Char) : Decidable (Straddles token a b) :=
  decidable_of_iff _ straddles_iff.symm

namespace CharLevel

open Tokenizer (longestAt? startsWith)

/-- No token of the vocabulary occurs across the place where two texts meet. -/
def Seamless (tok : CharLevel) (a b : List Char) : Prop :=
  ∀ token ∈ tok.vocab, ¬ Straddles token.toList a b

instance (tok : CharLevel) (a b : List Char) : Decidable (tok.Seamless a b) :=
  inferInstanceAs (Decidable (∀ token ∈ tok.vocab, ¬ Straddles token.toList a b))

section

variable {tok : CharLevel} {a b : List Char}

theorem seamless_nil (tok : CharLevel) (a : List Char) : tok.Seamless a [] := by
  rintro token - ⟨-, behind, -, -, ends⟩
  exact Nat.not_lt_zero behind.length ends

theorem Seamless.of_append {ahead : List Char} (h : tok.Seamless (ahead ++ a) b) :
    tok.Seamless a b := by
  rintro token mem ⟨before, behind, joined, starts, ends⟩
  refine h token mem ⟨ahead ++ before, behind, ?_, ?_, ends⟩
  · rw [List.append_assoc, joined]
    simp
  · rw [List.length_append, List.length_append]
    omega

/-- A text starts with the same tokens whether another one follows or not. -/
theorem Seamless.isPrefix_iff (h : tok.Seamless a b) (ne : a ≠ []) {token : String}
    (mem : token ∈ tok.vocab) : token.toList <+: a ++ b ↔ token.toList <+: a := by
  constructor
  · intro starts
    by_cases inside : token.toList.length ≤ a.length
    · exact List.prefix_of_prefix_length_le starts (List.prefix_append a b) inside
    · -- The token goes on into the second text.
      obtain ⟨behind, joined⟩ := starts
      have lengths := congrArg List.length joined
      rw [List.length_append, List.length_append] at lengths
      have straddles : Straddles token.toList a b :=
        ⟨[], behind, joined.symm, List.length_pos_iff.2 ne, by omega⟩
      exact absurd straddles (h token mem)
  · intro starts
    exact starts.trans (List.prefix_append a b)

theorem Seamless.longestAt?_eq (h : tok.Seamless a b) (ne : a ≠ []) :
    longestAt? tok.entries (a ++ b) = longestAt? tok.entries a := by
  have same : tok.entries.filter (startsWith (a ++ b)) = tok.entries.filter (startsWith a) := by
    apply List.filter_congr
    intro e mem
    obtain ⟨i, token, here, rfl⟩ := mem_entries_iff.1 mem
    rw [Bool.eq_iff_iff, Tokenizer.startsWith_iff, Tokenizer.startsWith_iff,
      h.isPrefix_iff ne (List.mem_of_getElem? here)]
  rw [longestAt?, longestAt?, same]

theorem idsOf_append (h : tok.Seamless a b) : tok.idsOf (a ++ b) = tok.idsOf a ++ tok.idsOf b := by
  induction hn : a.length using Nat.strongRecOn generalizing a with
  | _ n ih =>
    subst hn
    cases a with
    | nil => rfl
    | cons c s =>
      have same := h.longestAt?_eq (List.cons_ne_nil c s)
      cases found : longestAt? tok.entries (c :: s) with
      | none =>
        have later : tok.Seamless s b := by
          rw [← List.singleton_append] at h
          exact h.of_append
        have shorter : tok.idsOf (s ++ b) = tok.idsOf s ++ tok.idsOf b :=
          ih s.length (Nat.lt_succ_self _) later rfl
        have joined : tok.idsOf (c :: (s ++ b)) = (charBase + c.toNat) :: tok.idsOf (s ++ b) :=
          idsOf_of_char (same.trans found)
        rw [idsOf_of_char found, List.cons_append, joined, shorter, List.cons_append]
      | some e =>
        obtain ⟨t, id⟩ := e
        obtain ⟨-, ne, ⟨rest, cut : t ++ rest = c :: s⟩, -⟩ :=
          Tokenizer.longestAt?_eq_some found
        have pos : 0 < t.length := List.length_pos_iff.2 ne
        have fewer : rest.length < (c :: s).length := by
          rw [← cut, List.length_append]
          omega
        have later : tok.Seamless rest b := by
          rw [← cut] at h
          exact h.of_append
        have shorter : tok.idsOf (rest ++ b) = tok.idsOf rest ++ tok.idsOf b :=
          ih rest.length fewer later rfl
        have joined : tok.idsOf (c :: (s ++ b)) = id :: tok.idsOf (rest ++ b) := by
          refine idsOf_of_token (same.trans found) ?_
          rw [← List.append_assoc, cut, List.cons_append]
        rw [idsOf_of_token found cut.symm, List.cons_append, joined, shorter, List.cons_append]

/-- A token that straddles has an id of its own, which the two texts do not have. -/
example : (empty.intern "ab").idsOf ['a', 'b'] = [1] ∧
    (empty.intern "ab").idsOf ['a'] ++ (empty.intern "ab").idsOf ['b'] = [10097, 10098] := by
  decide

/-! ## Slots -/

/-- No token of the vocabulary occurs across a place where two of some texts meet when all of them
are joined. -/
def SeamlessAll (tok : CharLevel) (texts : List String) : Prop :=
  ∀ k < texts.length,
    tok.Seamless (String.join (texts.take k)).toList (String.join (texts.drop k)).toList

instance (tok : CharLevel) (texts : List String) : Decidable (tok.SeamlessAll texts) :=
  inferInstanceAs (Decidable (∀ k < texts.length,
    tok.Seamless (String.join (texts.take k)).toList (String.join (texts.drop k)).toList))

theorem SeamlessAll.tail {s : String} {texts : List String} (h : tok.SeamlessAll (s :: texts)) :
    tok.SeamlessAll texts := by
  intro k below
  have later := h (k + 1) (Nat.succ_lt_succ below)
  rw [List.take_succ_cons, List.drop_succ_cons, String.join_cons, String.toList_append] at later
  exact later.of_append

theorem encode_join {texts : List String} (h : tok.SeamlessAll texts) :
    tok.encode (String.join texts) = texts.flatMap tok.encode := by
  induction texts with
  | nil => rfl
  | cons s texts ih =>
    have first : tok.Seamless s.toList (String.join texts).toList := by
      cases texts with
      | nil => exact seamless_nil tok s.toList
      | cons s' texts => simpa using h 1 (by simp)
    rw [String.join_cons, encode_eq, String.toList_append, idsOf_append first, ← encode_eq,
      ← encode_eq, ih h.tail, List.flatMap_cons]

theorem slot_encode_text (tok : CharLevel) (s : String) :
    Slot.encode tok (.text s) = .ok (tok.encode s) := by
  by_cases empty : s = ""
  · subst empty
    rfl
  · rw [Slot.encode, if_neg (by simpa using empty)]
    rfl

theorem encodeAll_texts (tok : CharLevel) (texts : List String) :
    Slot.encodeAll tok (texts.map .text) = .ok (texts.flatMap tok.encode) := by
  have each : (texts.map .text).mapM (Slot.encode tok) = .ok (texts.map tok.encode) := by
    rw [mapM_eq_ok_iff, List.forall₂_map_left_iff, List.forall₂_map_right_iff, List.forall₂_same]
    exact fun s _ => slot_encode_text tok s
  rw [Slot.encodeAll, each, List.flatMap_def]
  rfl

/-- Texts in slots of their own have the ids of the joined text, whatever slots stand around. -/
theorem encodeAll_join {texts : List String} (h : tok.SeamlessAll texts)
    (ahead behind : List Slot) :
    Slot.encodeAll tok (ahead ++ texts.map .text ++ behind) =
      Slot.encodeAll tok (ahead ++ [.text (String.join texts)] ++ behind) := by
  have same : Slot.encodeAll tok (texts.map .text) =
      Slot.encodeAll tok [.text (String.join texts)] := by
    have whole := encodeAll_texts tok [String.join texts]
    rw [List.map_singleton, List.flatMap_singleton, encode_join h] at whole
    rw [encodeAll_texts, whole]
  rw [Slot.encodeAll_append, Slot.encodeAll_append, same, ← Slot.encodeAll_append,
    ← Slot.encodeAll_append]

end

/-- If the empty token is not in the vocabulary and no token occurs across the place where two texts
meet, then the ids of the joined text are those of the two one after the other, and they are those
that taking the longest tokens off it comes to. So texts in slots of their own have the ids of the
joined text, if no token occurs across a place where slots meet. -/
theorem encode_append {tok : CharLevel} (nonempty : "" ∉ tok.vocab) :
    (∀ a b : String, tok.Seamless a.toList b.toList →
      tok.encode (a ++ b) = tok.encode a ++ tok.encode b ∧
      (tok.vocab.Nodup → ∀ ids,
        Segments tok (a ++ b).toList ids ↔ ids = tok.encode a ++ tok.encode b)) ∧
    ∀ texts : List String, tok.SeamlessAll texts →
      Slot.encodeAll tok (texts.map .text) = .ok (tok.encode (String.join texts)) ∧
      ∀ ahead behind, Slot.encodeAll tok (ahead ++ texts.map .text ++ behind) =
        Slot.encodeAll tok (ahead ++ [.text (String.join texts)] ++ behind) := by
  refine ⟨fun a b h => ?_, fun texts h => ⟨?_, encodeAll_join h⟩⟩
  · have joined : tok.encode (a ++ b) = tok.encode a ++ tok.encode b := by
      rw [encode_eq, String.toList_append]
      exact idsOf_append h
    refine ⟨joined, fun nodup ids => ?_⟩
    rw [segments_iff nodup nonempty, ← encode_eq, joined]
  · rw [encodeAll_texts, encode_join h]

/-- A vocabulary of tokens that overlap and begin with others. -/
def overlapping : CharLevel :=
  empty.internAll ["<a>", "<a><b>", "a><", "b", "b><a"]

/-- A longer token begins as the first text ends, but does not go on as the second one begins. -/
theorem encode_append_overlapping :
    "" ∉ overlapping.vocab ∧ overlapping.vocab.Nodup ∧
      overlapping.Seamless "x<a>".toList "b><a><b>".toList ∧
      overlapping.encode ("x<a>" ++ "b><a><b>") = [10120, 1, 5, 10062, 10060, 4, 10062] ∧
      Segments overlapping ("x<a>" ++ "b><a><b>").toList [10120, 1, 5, 10062, 10060, 4, 10062] ∧
      overlapping.SeamlessAll ["x<a>", "", "b>", "a"] ∧
      Slot.encodeAll overlapping [.bos, .text "x<a>", .text "", .text "b>", .text "a", .eos] =
        Slot.encodeAll overlapping [.bos, .text "x<a>b>a", .eos] := by
  have nonempty : "" ∉ overlapping.vocab := by decide
  have nodup : overlapping.vocab.Nodup := by decide
  have seamless : overlapping.Seamless "x<a>".toList "b><a><b>".toList := by decide
  have seamlessAll : overlapping.SeamlessAll ["x<a>", "", "b>", "a"] := by decide
  obtain ⟨two, more⟩ := encode_append nonempty
  obtain ⟨joined, ends⟩ := two "x<a>" "b><a><b>" seamless
  obtain ⟨-, around⟩ := more ["x<a>", "", "b>", "a"] seamlessAll
  have ids : overlapping.encode "x<a>" ++ overlapping.encode "b><a><b>" =
      [10120, 1, 5, 10062, 10060, 4, 10062] := by decide
  exact ⟨nonempty, nodup, seamless, joined.trans ids, (ends nodup _).2 ids.symm, seamlessAll,
    around [.bos] [.eos]⟩

end CharLevel

end Colloquy
