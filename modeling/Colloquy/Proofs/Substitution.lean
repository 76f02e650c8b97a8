import Mathlib.Data.List.Infix
import Colloquy.Proofs.Encoding
import Colloquy.Proofs.Formatters

/-!
# Contents put into texts

A formatter puts the content into a text first and then the round number into what comes out. This
is the same as filling both places where the text itself has them (`replaceBoth`), unless the
content, once it is put in, makes a place for a round number ahead of that of the text
(`intrudes`). A round number that is put there takes away a part of the content
(`apply_content_eq_iff`). Where no content intrudes, what a user says is told to the tokenizer as
it stands.
-/

namespace Colloquy

namespace Text

/-! ## Patterns that do not overlap -/

/-- No end of `p` begins `q` or begins with it. -/
def EndsFree (p q : List Char) : Prop :=
  ∀ m ∈ p.tails, m ≠ [] → ¬ m <+: q ∧ ¬ q <+: m

instance (p q : List Char) : Decidable (EndsFree p q) :=
  inferInstanceAs (Decidable (∀ m ∈ p.tails, m ≠ [] → _))

/-- Occurrences of two patterns share no character. -/
structure Apart (p q : List Char) : Prop where
  left : EndsFree p q
  right : EndsFree q p

theorem EndsFree.eq_append {p q b x d : List Char} (h : EndsFree p q)
    (eq : p ++ b = x ++ (q ++ d)) : ∃ m, x = p ++ m ∧ b = m ++ (q ++ d) := by
  rcases List.append_eq_append_iff.1 eq with ⟨m, hx, hb⟩ | ⟨m, hp, hq⟩
  · exact ⟨m, hx, hb⟩
  · cases m with
    | nil => exact ⟨[], by simpa using hp.symm, by simpa using hq.symm⟩
    | cons e m =>
      have free := h (e :: m) ((List.mem_tails _ _).2 ⟨x, hp.symm⟩) (by simp)
      have both : e :: m <+: q ++ d := ⟨b, hq.symm⟩
      rcases List.prefix_or_prefix_of_prefix both (List.prefix_append q d) with h' | h'
      · exact absurd h' free.1
      · exact absurd h' free.2

theorem Apart.eq_append {p q a b c d : List Char} (h : Apart p q)
    (eq : a ++ p ++ b = c ++ q ++ d) :
    (∃ m, c = a ++ p ++ m ∧ b = m ++ q ++ d) ∨ (∃ m, a = c ++ q ++ m ∧ d = m ++ p ++ b) := by
  rw [List.append_assoc, List.append_assoc] at eq
  rcases List.append_eq_append_iff.1 eq with ⟨x, rfl, hx⟩ | ⟨x, rfl, hx⟩
  · obtain ⟨m, rfl, rfl⟩ := h.left.eq_append hx
    exact .inl ⟨m, by simp, by simp⟩
  · obtain ⟨m, rfl, rfl⟩ := h.right.eq_append hx
    exact .inr ⟨m, by simp, by simp⟩

theorem cut?_append_of_apart {p q a : List Char} (h : Apart p q) (ha : cut? q a = none)
    (b : List Char) :
    cut? q (a ++ p ++ b) = (cut? q b).map fun c => (a ++ p ++ c.1, c.2) := by
  apply cut?_append_of_behind
  intro c d hs
  rcases h.eq_append hs with ⟨m, rfl, -⟩ | ⟨m, hm, -⟩
  · simp
  · exact absurd hm (cut?_eq_none_iff.1 ha c m)

/-! ## Two replacements -/

/-- A text with the first occurrences of `p` and of `q` in it replaced by `v` and by `w`. -/
def replaceBoth (p v q w s : List Char) : List Char :=
  match cut? p s, cut? q s with
  | none, none => s
  | some (a, b), none => a ++ v ++ b
  | none, some (c, d) => c ++ w ++ d
  | some (a, b), some (c, d) =>
    if a.length < c.length then a ++ v ++ c.drop (a ++ p).length ++ w ++ d
    else c ++ w ++ a.drop (c ++ q).length ++ v ++ b

/-- Whether `v` in the place of the first `p` makes a `q` ahead of all that the text has. -/
def intrudes (p v q s : List Char) : Bool :=
  match cut? p s with
  | none => false
  | some (a, b) =>
    !occursIn q a && (cut? q (a ++ v ++ b)).any fun c => c.1.length < (a ++ v).length

theorem replaceBoth_of_ahead {p v q w s a b c d : List Char} (hp : cut? p s = some (a, b))
    (hq : cut? q a = some (c, d)) : replaceBoth p v q w s = c ++ w ++ d ++ v ++ b := by
  have whole := cut?_eq_some hp
  have ha := cut?_eq_some hq
  have hs : cut? q s = some (c, d ++ p ++ b) := by
    rw [whole, List.append_assoc, cut?_append_of_some hq]
    simp
  have later : ¬ a.length < c.length := by
    rw [ha]
    simp only [List.length_append]
    omega
  rw [replaceBoth, hp, hs]
  simp only [if_neg later]
  rw [ha, List.drop_left]

theorem replaceBoth_of_behind {p v q w s a b : List Char} (ne : p ≠ []) (apart : Apart p q)
    (hp : cut? p s = some (a, b)) (hq : cut? q a = none) :
    replaceBoth p v q w s = a ++ v ++ replaceFirst q w b := by
  have hs : cut? q s = _ := cut?_eq_some hp ▸ cut?_append_of_apart apart hq b
  rw [replaceBoth, hp, hs, replaceFirst]
  cases cut? q b with
  | none => rfl
  | some c =>
    have later : a.length < (a ++ p ++ c.1).length := by
      have := List.length_pos_of_ne_nil ne
      simp only [List.length_append]
      omega
    simp only [Option.map_some]
    rw [if_pos later, List.drop_left]
    simp only [List.append_assoc]

/-- Where the first text put in does not intrude, two replacements one after the other are made
where the text itself has the patterns. -/
theorem replaceFirst_replaceFirst {p v q s : List Char} (ne : p ≠ []) (apart : Apart p q)
    (h : intrudes p v q s = false) (w : List Char) :
    replaceFirst q w (replaceFirst p v s) = replaceBoth p v q w s := by
  cases hp : cut? p s with
  | none =>
    rw [replaceFirst_of_not_occursIn (occursIn_eq_false_iff.2 hp), replaceFirst, replaceBoth, hp]
    cases cut? q s <;> rfl
  | some x =>
    obtain ⟨a, b⟩ := x
    rw [replaceFirst, replaceFirst, hp]
    dsimp only
    cases hq : cut? q a with
    | some y =>
      rw [replaceBoth_of_ahead hp hq, List.append_assoc, cut?_append_of_some hq]
      simp
    | none =>
      rw [replaceBoth_of_behind ne apart hp hq, replaceFirst]
      have behind : ∀ c d, a ++ v ++ b = c ++ q ++ d → (a ++ v).length ≤ c.length := by
        intro c d hs
        obtain ⟨c', d', hc, le⟩ := exists_cut?_of_eq hs
        simp only [intrudes, hp, occursIn_eq_false_iff.2 hq, hc, Option.any_some, Bool.not_false,
          Bool.true_and, decide_eq_false_iff_not] at h
        omega
      rw [cut?_append_of_behind behind]
      cases cut? q b <;> simp

/-- A text that intrudes is replaced in part. -/
theorem replaceFirst_replaceFirst_ne {p v q s : List Char} (ne : p ≠ []) (apart : Apart p q)
    (h : intrudes p v q s = true) {w : List Char} (hw : w ≠ []) (head : w.head? ≠ q.head?) :
    replaceFirst q w (replaceFirst p v s) ≠ replaceBoth p v q w s := by
  unfold intrudes at h
  cases hp : cut? p s with
  | none =>
    rw [hp] at h
    cases h
  | some x =>
    obtain ⟨a, b⟩ := x
    simp only [hp, Bool.and_eq_true, Bool.not_eq_true', Option.any_eq_true, decide_eq_true_eq] at h
    obtain ⟨absent, ⟨c, d⟩, hc, lt⟩ := h
    have hq := occursIn_eq_false_iff.1 absent
    have whole := cut?_eq_some hc
    obtain ⟨m, hm⟩ : c <+: a ++ v := List.prefix_of_prefix_length_le
      ⟨q ++ d, by rw [whole, List.append_assoc]⟩ (List.prefix_append (a ++ v) b) lt.le
    have hm' : m ≠ [] := by
      rintro rfl
      rw [← hm, List.append_nil] at lt
      exact lt_irrefl _ lt
    have hq' : q ≠ [] := fun h => cut?_eq_none_iff.1 hq [] a (by simp [h])
    rw [replaceBoth_of_behind ne apart hp hq, replaceFirst, replaceFirst, hp]
    dsimp only
    rw [hc]
    dsimp only
    intro same
    -- Both texts go on behind `c`, one with `w` and the other with what began as `q`.
    rw [← hm, List.append_assoc, List.append_assoc] at whole same
    have began := congrArg List.head? (List.append_cancel_left whole)
    have goes := congrArg List.head? (List.append_cancel_left same)
    rw [List.head?_append_of_ne_nil _ hm', List.head?_append_of_ne_nil _ hq'] at began
    rw [List.head?_append_of_ne_nil _ hw, List.head?_append_of_ne_nil _ hm'] at goes
    exact head (goes.trans began)

/-- The text put in for the first pattern occurs in what comes out. -/
theorem isInfix_replaceBoth {p v q w s : List Char} (ne : p ≠ []) (apart : Apart p q)
    (h : occursIn p s = true) : v <:+: replaceBoth p v q w s := by
  obtain ⟨⟨a, b⟩, hp⟩ := Option.isSome_iff_exists.1 h
  cases hq : cut? q a with
  | some y =>
    obtain ⟨c, d⟩ := y
    exact ⟨c ++ w ++ d, b, (replaceBoth_of_ahead hp hq).symm⟩
  | none => exact ⟨a, replaceFirst q w b, (replaceBoth_of_behind ne apart hp hq).symm⟩

end Text

theorem Placeholder.apart_content_idx : Text.Apart content idx where
  left := by decide
  right := by decide

/-- Whether a content, put into the text of a slot, makes a place for a round number ahead of that
of the text. -/
def Slot.intrudedBy (v : String) : Slot → Bool
  | text s => Text.intrudes Placeholder.content v.toList Placeholder.idx s.toList
  | _ => false

/-! ## Formatters -/

namespace Formatter

/-- Slots with a content and a round number in the first places that their texts have for them. -/
def fillPlaces (v i : String) (slots : List Slot) : List Slot :=
  slots.map (·.mapText (Text.replaceBoth Placeholder.content v.toList Placeholder.idx i.toList))

/-- A content and a round number come where the slots have their places, if the content does not
intrude. -/
theorem apply_content_of_not_intrudes {slots : List Slot} {v : String}
    (h : ∀ slot ∈ slots, slot.intrudedBy v = false) (i : String) :
    (content slots).apply ⟨some v, some i⟩ = fillPlaces v i slots := by
  apply List.map_congr_left
  intro slot hs
  rw [mapText_eq_iff]
  rintro s rfl
  exact Text.replaceFirst_replaceFirst (by decide) Placeholder.apart_content_idx (h _ hs) _

/-- A number that comes where a content intrudes is in the wrong place. -/
theorem not_intrudes_of_apply_content {slots : List Slot} {v i : String} (hi : i ≠ "")
    (head : i.toList.head? ≠ some '\x7b')
    (h : (content slots).apply ⟨some v, some i⟩ = fillPlaces v i slots) :
    ∀ slot ∈ slots, slot.intrudedBy v = false := by
  intro slot hs
  have same := mapText_eq_iff.1 (List.map_inj_left.1 h slot hs)
  cases slot with
  | text s =>
    by_contra intrudes
    rw [Bool.not_eq_false] at intrudes
    exact Text.replaceFirst_replaceFirst_ne (by decide) Placeholder.apart_content_idx intrudes
      (by simpa using hi) head (same s rfl)
  | token name => rfl
  | bos => rfl
  | eos => rfl

theorem apply_content_eq_iff {slots : List Slot} {v i : String} (hi : i ≠ "")
    (head : i.toList.head? ≠ some '\x7b') :
    (content slots).apply ⟨some v, some i⟩ = fillPlaces v i slots ↔
      ∀ slot ∈ slots, slot.intrudedBy v = false :=
  ⟨not_intrudes_of_apply_content hi head, fun h => apply_content_of_not_intrudes h i⟩

end Formatter

/-! ## Turns of users -/

theorem toList_toString (n : Nat) : (toString n).toList = Nat.toDigits 10 n := Nat.toList_repr

/-- A round number begins with a digit. -/
theorem head?_toString_ne (n : Nat) :
    toString n ≠ "" ∧ (toString n).toList.head? ≠ some '\x7b' := by
  have digits : ∀ c ∈ (toString n).toList, c.isDigit = true := by
    rw [toList_toString]
    exact fun c hc => Nat.isDigit_of_mem_toDigits (by decide) (by decide) hc
  refine ⟨fun h => ?_, fun h => ?_⟩
  · apply Nat.toDigits_ne_nil (n := n) (b := 10)
    rw [← toList_toString, h]
    rfl
  · exact absurd (digits _ (List.mem_of_head? h)) (by decide)

namespace Template

variable {τ : Type} [Tokenizer τ]

/-- The template that puts the number of a round in front of what a user says. -/
def numbered : Template :=
  Spec.build {
    name := "numbered"
    user := some (.content [.text "\x7b\x7bidx\x7d\x7d \x7b\x7bcontent\x7d\x7d"]) }

/-- A turn about the place of a round number. -/
def placeTalk : Turn := ⟨.user, "\x7b\x7bidx\x7d\x7d"⟩

/-- The texts of some slots say what is said in a turn as it stands. -/
def SaysVerbatim (slots : List Slot) (turn : Turn) : Prop :=
  ∃ s, Slot.text s ∈ slots ∧ turn.content.toList <:+: s.toList

theorem saysVerbatim_apply {slots : List Slot} {s glued : String} {turn : Turn}
    (hs : Slot.text s ∈ slots) (mentions : Text.occursIn Placeholder.content s.toList = true)
    (h : (Slot.text s).intrudedBy (glued ++ turn.content) = false) (i : String) :
    SaysVerbatim ((Formatter.content slots).apply ⟨some (glued ++ turn.content), some i⟩) turn := by
  refine ⟨_, List.mem_map_of_mem hs, ?_⟩
  have filled : Formatter.fillContent ⟨some (glued ++ turn.content), some i⟩ s.toList = _ :=
    Text.replaceFirst_replaceFirst (by decide) Placeholder.apart_content_idx h i.toList
  have put : (glued ++ turn.content).toList <:+: _ :=
    Text.isInfix_replaceBoth (w := i.toList) (by decide) Placeholder.apart_content_idx mentions
  rw [String.toList_ofList, filled]
  apply List.IsInfix.trans _ put
  rw [String.toList_append]
  exact (List.suffix_append _ _).isInfix

/-- A formatter puts a content and a round number where its slots have places for them, and every
user turn of an encoded dialogue is said as it stands, exactly as long as no content makes a place
for a round number. -/
theorem content_verbatim_iff {slots : List Slot} :
    (∀ v i, (∀ slot ∈ slots, slot.intrudedBy v = false) →
      (Formatter.content slots).apply ⟨some v, some i⟩ = Formatter.fillPlaces v i slots) ∧
    (∀ v i, i ≠ "" → i.toList.head? ≠ some '\x7b' →
      (Formatter.content slots).apply ⟨some v, some i⟩ = Formatter.fillPlaces v i slots →
      ∀ slot ∈ slots, slot.intrudedBy v = false) ∧
    ∀ (t : Template) (tok : τ) (system : String) (tools : Option String) (turns : List Turn)
      (ids : List (List TokenId)),
      t.user = .content slots → t.encodeTurns tok system tools 0 turns = .ok ids →
      ∀ (k : Nat) (turn : Turn), turns[k]? = some turn → turn.role = .user →
        ∃ start said here, t.before system tools k = .ok start ∧
          t.say k start.glued turn = .ok said ∧ ids[k]? = some here ∧
          Slot.encodeAll tok (start.ahead ++ said) = .ok here ∧
          (said = Formatter.fillPlaces (start.glued ++ turn.content) (toString (k / 2)) slots ↔
            ∀ slot ∈ slots, slot.intrudedBy (start.glued ++ turn.content) = false) ∧
          ((∃ slot ∈ slots, slot.mentions Placeholder.content = true ∧
              slot.intrudedBy (start.glued ++ turn.content) = false) →
            SaysVerbatim said turn) := by
  refine ⟨fun v i h => Formatter.apply_content_of_not_intrudes h i,
    fun v i => Formatter.not_intrudes_of_apply_content, ?_⟩
  intro t tok system tools turns ids user h k turn hk role
  obtain ⟨here, hhere, he⟩ := encodeTurn_of_getElem? h hk
  rw [Nat.zero_add] at he
  obtain ⟨start, said, hs, hsaid, hids⟩ := encodeTurn_eq_ok_iff.1 he
  refine ⟨start, said, here, hs, hsaid, hhere, hids, ?_, ?_⟩
  all_goals
    simp only [say, role, user, Except.ok.injEq] at hsaid
    subst hsaid
  · obtain ⟨full, head⟩ := head?_toString_ne (k / 2)
    exact Formatter.apply_content_eq_iff full head
  · rintro ⟨slot, hslot, mentions, free⟩
    cases slot with
    | text s => exact saysVerbatim_apply hslot mentions free _
    | token name => cases mentions
    | bos => cases mentions
    | eos => cases mentions

/-- A round number that stands ahead of the content leaves the content as it is. -/
theorem content_verbatim_iff_numbered :
    ∃ said, numbered.say 0 "" placeTalk = .ok said ∧
      said = [.text "0 \x7b\x7bidx\x7d\x7d"] ∧ SaysVerbatim said placeTalk := by
  obtain ⟨ids, h⟩ : ∃ ids, numbered.encodeTurns CharLevel.empty "" none 0 [placeTalk] = .ok ids :=
    ⟨[[10048, 10032, 10123, 10123, 10105, 10100, 10120, 10125, 10125]], by decide⟩
  obtain ⟨start, said, here, hs, hsaid, -, -, filled, verbatim⟩ :=
    content_verbatim_iff.2.2 numbered CharLevel.empty "" none [placeTalk] ids rfl h 0 placeTalk
      rfl rfl
  have nothing : numbered.before "" none 0 = .ok .none := by decide
  obtain rfl := Except.ok.inj (nothing.symm.trans hs)
  refine ⟨said, hsaid, ?_, verbatim ⟨_, List.mem_singleton_self _, by decide, by decide⟩⟩
  exact filled.2 (by decide)

/-- A user who says the placeholder of the round number alone is heard to say the number. -/
theorem not_saysVerbatim_plain :
    (Formatter.content [.text "\x7b\x7bcontent\x7d\x7d"]).apply ⟨some placeTalk.content, some "0"⟩ ≠
        Formatter.fillPlaces placeTalk.content "0" [.text "\x7b\x7bcontent\x7d\x7d"] ∧
      plain.user = .content [.text "\x7b\x7bcontent\x7d\x7d"] ∧
      plain.encodeTurns CharLevel.empty "" none 0 [placeTalk] = .ok [[10048]] ∧
      plain.say 0 "" placeTalk = .ok [.text "0"] ∧ ¬ SaysVerbatim [.text "0"] placeTalk := by
  refine ⟨by decide, by decide, by decide, by decide, ?_⟩
  rintro ⟨s, hs, said⟩
  obtain rfl : s = "0" := by simpa using hs
  exact absurd said (by decide)

end Template

end Colloquy
