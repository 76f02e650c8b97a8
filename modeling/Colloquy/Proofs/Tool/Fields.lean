import Colloquy.Proofs.Substitution
import Colloquy.Proofs.Tool.Calls

/-!
# Names and arguments put into texts

A formatter puts the name of a call into a text first and then the arguments into what comes out.
Putting both in at once (`replaceEach`) fills the places that the text itself has. What comes out
one after the other is the same text in which only some of the places for arguments are filled
(`Partly`), so both are the same exactly if the name, once it is put in, makes no further place for
arguments (`replaceAll_replaceAll_eq_iff`): the arguments themselves are never looked at again, and
no JSON text is a place for them.
-/

namespace Colloquy

namespace Text

/-! ## Two patterns at once -/

/-- A text with every `p` in it replaced by `v` and every `q` by `w` in one pass, where `skip`
characters still belong to the last pattern. -/
def replaceEachFrom (p v q w : List Char) : Nat → List Char → List Char
  | _, [] => []
  | skip + 1, _ :: cs => replaceEachFrom p v q w skip cs
  | 0, c :: cs =>
    if (afterStart? p (c :: cs)).isSome then v ++ replaceEachFrom p v q w (p.length - 1) cs
    else if (afterStart? q (c :: cs)).isSome then w ++ replaceEachFrom p v q w (q.length - 1) cs
    else c :: replaceEachFrom p v q w 0 cs

/-- A text with every `p` in it replaced by `v` and every `q` by `w`, where what is put in is not
looked at again. -/
def replaceEach (p v q w s : List Char) : List Char :=
  replaceEachFrom p v q w 0 s

section

variable {p v q w : List Char}

theorem replaceEachFrom_skip (u t : List Char) :
    replaceEachFrom p v q w u.length (u ++ t) = replaceEach p v q w t := by
  induction u with
  | nil => rfl
  | cons c u ih => rw [List.length_cons, List.cons_append, replaceEachFrom, ih]

theorem replaceEach_append_left (hp : p ≠ []) (b : List Char) :
    replaceEach p v q w (p ++ b) = v ++ replaceEach p v q w b := by
  obtain ⟨c, p, rfl⟩ := List.exists_cons_of_ne_nil hp
  have start := afterStart?_append (c :: p) b
  rw [List.cons_append] at start ⊢
  rw [replaceEach, replaceEachFrom, start, Option.isSome_some, if_pos rfl]
  exact congrArg _ (replaceEachFrom_skip p b)

theorem replaceEach_append_right (hq : q ≠ []) {b : List Char}
    (h : afterStart? p (q ++ b) = none) :
    replaceEach p v q w (q ++ b) = w ++ replaceEach p v q w b := by
  obtain ⟨c, q, rfl⟩ := List.exists_cons_of_ne_nil hq
  have start := afterStart?_append (c :: q) b
  rw [List.cons_append] at start h ⊢
  rw [replaceEach, replaceEachFrom, h, if_neg (by simp), start, Option.isSome_some, if_pos rfl]
  exact congrArg _ (replaceEachFrom_skip q b)

theorem replaceEach_cons {c : Char} {s : List Char} (hp : afterStart? p (c :: s) = none)
    (hq : afterStart? q (c :: s) = none) :
    replaceEach p v q w (c :: s) = c :: replaceEach p v q w s := by
  rw [replaceEach, replaceEachFrom, hp, hq, if_neg (by simp), if_neg (by simp)]
  rfl

/-- A text one pattern after the other, and one character after the other where there is none. -/
theorem each_induction (hp : p ≠ []) (hq : q ≠ []) {motive : List Char → Prop} (nil : motive [])
    (left : ∀ b, motive b → motive (p ++ b))
    (right : ∀ b, afterStart? p (q ++ b) = none → motive b → motive (q ++ b))
    (other : ∀ c s, afterStart? p (c :: s) = none → afterStart? q (c :: s) = none → motive s →
      motive (c :: s)) (s : List Char) : motive s := by
  induction n : s.length using Nat.strongRecOn generalizing s with
  | _ n ih =>
    have shorter : ∀ {r b : List Char}, r ≠ [] → s = r ++ b → motive b := by
      intro r b hr hs
      refine ih b.length ?_ b rfl
      have pos := List.length_pos_of_ne_nil hr
      rw [← n, hs, List.length_append]
      omega
    cases s with
    | nil => exact nil
    | cons c s =>
      cases startP : afterStart? p (c :: s) with
      | some b =>
        have hs := afterStart?_eq_some.1 startP
        rw [hs]
        exact left b (shorter hp hs)
      | none =>
        cases startQ : afterStart? q (c :: s) with
        | some b =>
          have hs := afterStart?_eq_some.1 startQ
          rw [hs] at startP ⊢
          exact right b startP (shorter hq hs)
        | none => exact other c s startP startQ (shorter (r := [c]) (by simp) rfl)

end

/-! ## Places of a pattern -/

/-- The number of places that a text has for a pattern. -/
def places (p s : List Char) : Nat :=
  (splitOn p s).length - 1

section

variable {p : List Char}

theorem places_of_cut?_none (hp : p ≠ []) {s : List Char} (h : cut? p s = none) :
    places p s = 0 := by
  rw [places, splitOn_of_cut?_none hp h]
  rfl

theorem places_of_cut?_some (hp : p ≠ []) {s a b : List Char} (h : cut? p s = some (a, b)) :
    places p s = places p b + 1 := by
  have pos := one_le_length_splitOn hp b
  rw [places, places, splitOn_of_cut?_some hp h, List.length_cons]
  omega

theorem places_self_append (hp : p ≠ []) (b : List Char) :
    places p (p ++ b) = places p b + 1 :=
  places_of_cut?_some hp (cut?_self_append hp b)

theorem places_append_of_cut? (hp : p ≠ []) {x s : List Char}
    (h : cut? p (x ++ s) = (cut? p s).map fun c => (x ++ c.1, c.2)) :
    places p (x ++ s) = places p s := by
  cases cut : cut? p s with
  | none =>
    rw [cut, Option.map_none] at h
    rw [places_of_cut?_none hp h, places_of_cut?_none hp cut]
  | some c =>
    rw [cut, Option.map_some] at h
    rw [places_of_cut?_some hp h, places_of_cut?_some hp (a := c.1) (b := c.2) cut]

theorem cut?_append_of_endsFree {m : List Char} (h : EndsFree m p) (s : List Char) :
    cut? p (m ++ s) = (cut? p s).map fun c => (m ++ c.1, c.2) := by
  apply cut?_append_of_behind
  intro c d hs
  rw [List.append_assoc] at hs
  obtain ⟨x, rfl, -⟩ := h.eq_append hs
  simp

theorem replaceAll_append_of_endsFree (hp : p ≠ []) {m : List Char} (h : EndsFree m p)
    (v s : List Char) : replaceAll p v (m ++ s) = m ++ replaceAll p v s :=
  replaceAll_append_of_cut? hp (cut?_append_of_endsFree h s) v

theorem places_append_of_endsFree (hp : p ≠ []) {m : List Char} (h : EndsFree m p)
    (s : List Char) : places p (m ++ s) = places p s :=
  places_append_of_cut? hp (cut?_append_of_endsFree h s)

theorem replaceAll_cons_of_not_start (hp : p ≠ []) {c : Char} {s : List Char}
    (h : afterStart? p (c :: s) = none) (v : List Char) :
    replaceAll p v (c :: s) = c :: replaceAll p v s :=
  replaceAll_append_of_cut? (x := [c]) hp (cut?_cons_of_not_start h) v

theorem places_cons_of_not_start (hp : p ≠ []) {c : Char} {s : List Char}
    (h : afterStart? p (c :: s) = none) : places p (c :: s) = places p s :=
  places_append_of_cut? (x := [c]) hp (cut?_cons_of_not_start h)

end

/-! ## Replacing in part -/

/-- The second text is the first one with `k` of its places for `q` replaced by `w`. -/
inductive Partly (q w : List Char) : Nat → List Char → List Char → Prop
  | nil : Partly q w 0 [] []
  | cons (c : Char) {k : Nat} {t r : List Char} (rest : Partly q w k t r) :
    Partly q w k (c :: t) (c :: r)
  | put {k : Nat} {t r : List Char} (rest : Partly q w k t r) :
    Partly q w (k + 1) (q ++ t) (w ++ r)

namespace Partly

variable {q w t r : List Char} {k : Nat}

theorem append_left (h : Partly q w k t r) (x : List Char) : Partly q w k (x ++ t) (x ++ r) := by
  induction x with
  | nil => exact h
  | cons c x ih => exact .cons c ih

theorem refl (t : List Char) : Partly q w 0 t t := by
  have h := (nil (q := q) (w := w)).append_left t
  rwa [List.append_nil] at h

theorem length_add (h : Partly q w k t r) :
    r.length + k * q.length = t.length + k * w.length := by
  induction h with
  | nil => simp
  | cons c rest ih =>
    simp only [List.length_cons]
    omega
  | put rest ih =>
    simp only [List.length_append, Nat.add_mul]
    omega

/-- What begins and ends no place is left as it is. -/
theorem exists_of_endsFree {m : List Char} (free : EndsFree m q) (h : Partly q w k (m ++ t) r) :
    ∃ r', r = m ++ r' ∧ Partly q w k t r' := by
  induction m generalizing r k with
  | nil => exact ⟨r, rfl, h⟩
  | cons c m ih =>
    have freeM : EndsFree m q := fun x hx =>
      free x ((List.mem_tails _ _).2 (((List.mem_tails _ _).1 hx).trans (List.suffix_cons c m)))
    generalize whole : c :: m ++ t = s at h
    cases h with
    | nil => cases whole
    | cons d rest =>
      obtain ⟨rfl, rfl⟩ := List.cons.inj whole
      obtain ⟨r', rfl, hr'⟩ := ih freeM rest
      exact ⟨r', rfl, hr'⟩
    | put rest =>
      obtain ⟨x, nothing, -⟩ := free.eq_append (x := []) whole
      cases nothing

end Partly

/-- Replacing one pattern everywhere replaces all of its places. -/
theorem partly_replaceAll {q : List Char} (hq : q ≠ []) (w t : List Char) :
    Partly q w (places q t) t (replaceAll q w t) := by
  induction t using cut_induction hq with
  | whole t h =>
    rw [places_of_cut?_none hq h, replaceAll_of_cut?_none hq h]
    exact .refl t
  | first t a b h ih =>
    rw [places_of_cut?_some hq h, replaceAll_of_cut?_some hq h, List.append_assoc]
    conv in t => rw [cut?_eq_some h]
    rw [List.append_assoc]
    exact (Partly.put ih).append_left a

/-- A text that keeps the place at its beginning is not the one in which all places are filled. -/
theorem Partly.append_ne {q w t r : List Char} {k : Nat} (hq : q ≠ []) (ne : w ≠ q)
    (h : Partly q w k t r) (le : k ≤ places q t) : w ++ replaceAll q w t ≠ q ++ r := by
  intro same
  have kept := h.length_add
  have filled := (partly_replaceAll hq w t).length_add
  have lengths := congrArg List.length same
  obtain ⟨j, hj⟩ := Nat.exists_eq_add_of_le le
  rw [hj] at filled
  simp only [List.length_append, Nat.add_mul] at filled lengths
  -- The texts differ in `j + 1` places.
  have more : (j + 1) * w.length = (j + 1) * q.length := by
    simp only [Nat.add_mul, Nat.one_mul]
    omega
  have even : w.length = q.length := Nat.eq_of_mul_eq_mul_left (Nat.succ_pos j) more
  exact ne (List.append_inj same even).1

/-- A text in which some places are filled is the one in which all are filled only if there are no
more. -/
theorem Partly.eq_replaceAll_iff {q w t r : List Char} {k : Nat} (hq : q ≠ [])
    (single : EndsFree q.tail q) (ne : w ≠ q) (h : Partly q w k t r) :
    k ≤ places q t ∧ (replaceAll q w t = r ↔ places q t = k) := by
  induction h with
  | nil => exact ⟨Nat.zero_le _, iff_of_true rfl rfl⟩
  | put rest ih =>
    obtain ⟨le, iff⟩ := ih
    rw [places_self_append hq, replaceAll_self_append hq, List.append_cancel_left_eq, iff]
    omega
  | @cons c k t r rest ih =>
    obtain ⟨le, iff⟩ := ih
    cases start : afterStart? q (c :: t) with
    | none =>
      rw [places_cons_of_not_start hq start, replaceAll_cons_of_not_start hq start,
        List.cons_inj_right]
      exact ⟨le, iff⟩
    | some d =>
      have whole := afterStart?_eq_some.1 start
      obtain ⟨e, q, rfl⟩ := List.exists_cons_of_ne_nil hq
      have free : EndsFree q (e :: q) := single
      obtain ⟨rfl, tail⟩ := List.cons.inj whole
      rw [show t = q ++ d from tail] at le rest ⊢
      -- The place that begins here is kept, since its other characters are kept.
      obtain ⟨r, rfl, kept⟩ := rest.exists_of_endsFree free
      rw [places_append_of_endsFree hq free] at le
      rw [← List.cons_append, ← List.cons_append, places_self_append hq, replaceAll_self_append hq]
      exact ⟨by omega, iff_of_false (kept.append_ne hq ne le) (by omega)⟩

/-- Patterns whose places neither overlap each other nor themselves. -/
structure Disjoint (p q : List Char) : Prop where
  left_ne_nil : p ≠ []
  right_ne_nil : q ≠ []
  apart : Apart p q
  single : EndsFree q.tail q

/-- Replacing `q` behind `p` fills those places for `q` that the text has without the `v` put in. -/
theorem partly_replaceEach {p q : List Char} (h : Disjoint p q) (v w s : List Char) :
    Partly q w (places q s) (replaceAll p v s) (replaceEach p v q w s) := by
  have hp := h.left_ne_nil
  have hq := h.right_ne_nil
  induction s using each_induction hp hq with
  | nil => exact .nil
  | left b ih =>
    rw [places_append_of_endsFree hq h.apart.left, replaceAll_self_append hp,
      replaceEach_append_left hp]
    exact ih.append_left v
  | right b start ih =>
    rw [places_self_append hq, replaceAll_append_of_endsFree hp h.apart.right,
      replaceEach_append_right hq start]
    exact .put ih
  | other c s startP startQ ih =>
    rw [places_cons_of_not_start hq startQ, replaceAll_cons_of_not_start hp startP,
      replaceEach_cons startP startQ]
    exact .cons c ih

/-- Replacing one pattern after the other is replacing both at once exactly if the first text put
in makes no further place for the second pattern. -/
theorem replaceAll_replaceAll_eq_iff {p q : List Char} (h : Disjoint p q) {w : List Char}
    (ne : w ≠ q) (v s : List Char) :
    replaceAll q w (replaceAll p v s) = replaceEach p v q w s ↔
      ¬ places q s < places q (replaceAll p v s) := by
  obtain ⟨le, iff⟩ := (partly_replaceEach h v w s).eq_replaceAll_iff h.right_ne_nil h.single ne
  rw [iff]
  omega

end Text

/-! ## Calls -/

theorem Placeholder.disjoint_name_arguments : Text.Disjoint name arguments where
  left_ne_nil := by decide
  right_ne_nil := by decide
  apart := ⟨by decide, by decide⟩
  single := by decide

/-- Whether a name, put into the text of a slot, makes further places for arguments. -/
def Slot.addsPlaces (name : String) : Slot → Bool
  | text s => Text.places Placeholder.arguments s.toList <
      Text.places Placeholder.arguments
        (Text.replaceAll Placeholder.name name.toList s.toList)
  | _ => false

namespace Formatter

/-- Slots with a name and arguments in all places that their texts have for them. -/
def fillCallPlaces (c : Tool.Call) (slots : List Slot) : List Slot :=
  slots.map (·.mapText (Text.replaceEach Placeholder.name c.name.toList
    Placeholder.arguments c.arguments.toList))

/-- A call comes where the slots have their places exactly if its name makes no further places. -/
theorem map_fillCall_eq_iff {c : Tool.Call} (ne : c.arguments.toList ≠ Placeholder.arguments)
    {slots : List Slot} :
    slots.map (·.mapText (fillCall c)) = fillCallPlaces c slots ↔
      ∀ slot ∈ slots, slot.addsPlaces c.name = false := by
  unfold fillCallPlaces
  rw [List.map_inj_left]
  apply forall₂_congr
  intro slot _
  have filled := Text.replaceAll_replaceAll_eq_iff Placeholder.disjoint_name_arguments ne
    c.name.toList
  cases slot with
  | text s =>
    rw [mapText_eq_iff]
    simp only [Slot.addsPlaces, Slot.text.injEq, decide_eq_false_iff_not, ← filled]
    exact ⟨fun h => h s rfl, fun h u hu => hu ▸ h⟩
  | token name => simp [Slot.mapText, Slot.addsPlaces]
  | bos => simp [Slot.mapText, Slot.addsPlaces]
  | eos => simp [Slot.mapText, Slot.addsPlaces]

theorem apply_call {slots : List Slot} {s name : String} {arguments : Json}
    (h : Tool.IsPayload s name arguments) (idx : Option String) :
    (call slots).apply ⟨some s, idx⟩ =
      slots.map (·.mapText (fillCall ⟨name, arguments.write .spaced⟩)) := by
  simp only [apply, h.ofPayload?, Option.getD_some]

theorem mapText_of_text?_eq_none {slot : Slot} (h : slot.text? = none)
    (f : List Char → List Char) : slot.mapText f = slot := by
  cases slot with
  | text s => cases h
  | token name => rfl
  | bos => rfl
  | eos => rfl

/-- A formatter puts the name and the arguments of a call just where its texts have their places
exactly if the name makes no further place for arguments. Slots that are no texts stay where they
are in any case. -/
theorem call_verbatim_iff {slots : List Slot} {s name : String} {arguments : Json}
    (h : Tool.IsPayload s name arguments) (idx : Option String) :
    ((call slots).apply ⟨some s, idx⟩ = fillCallPlaces ⟨name, arguments.write .spaced⟩ slots ↔
      ∀ slot ∈ slots, slot.addsPlaces name = false) ∧
    ((call slots).apply ⟨some s, idx⟩).length = slots.length ∧
    ∀ (k : Nat) (slot : Slot), slots[k]? = some slot → slot.text? = none →
      ((call slots).apply ⟨some s, idx⟩)[k]? = some slot := by
  have ne : (arguments.write .spaced).toList ≠ Placeholder.arguments := by
    rw [Json.write, String.toList_ofList]
    exact Json.writeAt_ne_braces arguments .spaced 0 _
  rw [apply_call h]
  refine ⟨map_fillCall_eq_iff (c := ⟨name, arguments.write .spaced⟩) ne, List.length_map _, ?_⟩
  intro k slot hk other
  rw [List.getElem?_map, hk, Option.map_some, mapText_of_text?_eq_none other]

/-- A call whose name and arguments are texts of placeholders, in a text where the name comes
last. -/
theorem call_verbatim_iff_namesake :
    Tool.IsPayload ((Tool.payload "\x7b\x7bname\x7d\x7d"
        (.str "\x7b\x7barguments\x7d\x7d")).write .compact)
        "\x7b\x7bname\x7d\x7d" (.str "\x7b\x7barguments\x7d\x7d") ∧
      (call [.bos, .text "\x7b\x7barguments\x7d\x7d for \x7b\x7bname\x7d\x7d"]).apply
          (.ofContent ((Tool.payload "\x7b\x7bname\x7d\x7d"
            (.str "\x7b\x7barguments\x7d\x7d")).write .compact)) =
        [.bos, .text "\"\x7b\x7barguments\x7d\x7d\" for \x7b\x7bname\x7d\x7d"] := by
  have payload : Tool.IsPayload _ "\x7b\x7bname\x7d\x7d" _ :=
    Tool.isPayload_write (.str "\x7b\x7barguments\x7d\x7d") (by decide) .compact
  exact ⟨payload, ((call_verbatim_iff payload none).1.2 (by decide)).trans (by decide)⟩

/-- A name that is itself the place for arguments is taken for one in the usual text of a call. -/
theorem not_verbatim_callText :
    call? [.text (String.ofList Template.Spec.callText)] =
        .ok (call [.text (String.ofList Template.Spec.callText)]) ∧
      Tool.IsPayload ((Tool.payload "\x7b\x7barguments\x7d\x7d" (.obj [])).write .compact)
        "\x7b\x7barguments\x7d\x7d" (.obj []) ∧
      (call [.text (String.ofList Template.Spec.callText)]).apply
          (.ofContent ((Tool.payload "\x7b\x7barguments\x7d\x7d" (.obj [])).write .compact)) =
        [.text "Action: \x7b\x7d\nAction Input: \x7b\x7d"] ∧
      ¬ ∀ (slots : List Slot) (s name : String) (arguments : Json), call? slots = .ok (call slots) →
        Tool.IsPayload s name arguments →
        (call slots).apply (.ofContent s) =
          fillCallPlaces ⟨name, arguments.write .spaced⟩ slots := by
  have object : Json.Exact (.obj []) := .obj (by simp) (by simp)
  have payload : Tool.IsPayload _ "\x7b\x7barguments\x7d\x7d" _ :=
    Tool.isPayload_write object (by decide) .compact
  have accepted : call? [.text (String.ofList Template.Spec.callText)] =
      .ok (call [.text (String.ofList Template.Spec.callText)]) := by decide
  have said : (call [.text (String.ofList Template.Spec.callText)]).apply
      (.ofContent ((Tool.payload "\x7b\x7barguments\x7d\x7d" (.obj [])).write .compact)) =
        [.text "Action: \x7b\x7d\nAction Input: \x7b\x7d"] := by
    rw [Args.ofContent, apply_call payload]
    decide
  refine ⟨accepted, payload, said, fun all => ?_⟩
  have same := said.symm.trans (all _ _ _ _ accepted payload)
  exact absurd same (by decide)

end Formatter

end Colloquy
