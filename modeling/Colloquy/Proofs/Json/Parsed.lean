import Colloquy.Proofs.Json.RoundTrip

/-!
# Values that are read

In a value that the reader makes of a text, integers have at most 64 bits, no object repeats a key,
and arrays and objects nest no deeper than there is room for (`Within`). So it is a value that its
own text keeps, as long as it holds no floating-point number (`exact_of_parse?`).
-/

namespace Colloquy.Json

/-- No floating-point number is in a value. -/
inductive Floatless : Json → Prop where
  | null : Floatless null
  | bool (b : Bool) : Floatless (bool b)
  | int (n : Int) : Floatless (int n)
  | str (s : String) : Floatless (str s)
  | arr {items : List Json} (floatless : ∀ v ∈ items, Floatless v) : Floatless (arr items)
  | obj {members : List (String × Json)} (floatless : ∀ m ∈ members, Floatless m.2) :
      Floatless (obj members)

theorem Exact.floatless {v : Json} (h : Exact v) : Floatless v := by
  induction h with
  | null => exact .null
  | bool b => exact .bool b
  | int lower upper => exact .int _
  | str s => exact .str s
  | arr exact ih => exact .arr ih
  | obj distinct exact ih => exact .obj ih

/-- A value with integers of at most 64 bits and distinct keys, in which arrays and objects nest no
deeper than there is room for. -/
inductive Within : Nat → Json → Prop where
  | null {room : Nat} : Within room null
  | bool {room : Nat} (b : Bool) : Within room (bool b)
  | int {room : Nat} {n : Int} (lower : -0x8000000000000000 ≤ n)
      (upper : n < 0x10000000000000000) : Within room (int n)
  | float {room : Nat} (x : Float) : Within room (float x)
  | str {room : Nat} (s : String) : Within room (str s)
  | arr {room : Nat} {items : List Json} (within : ∀ v ∈ items, Within room v) :
      Within (room + 1) (arr items)
  | obj {room : Nat} {members : List (String × Json)} (distinct : (members.map Prod.fst).Nodup)
      (within : ∀ m ∈ members, Within room m.2) : Within (room + 1) (obj members)

namespace Within

theorem depth_le {room : Nat} {v : Json} (h : Within room v) : v.depth ≤ room := by
  induction h with
  | null | bool | int | float | str => exact Nat.zero_le _
  | @arr room items within ih =>
    have all : depthOfItems items ≤ room := by
      clear within
      induction items with
      | nil => exact Nat.zero_le _
      | cons v items inner =>
        exact Nat.max_le.2
          ⟨ih v (by simp), inner fun u hu => ih u (List.mem_cons_of_mem _ hu)⟩
    exact Nat.succ_le_succ all
  | @obj room members distinct within ih =>
    have all : depthOfMembers members ≤ room := by
      clear within distinct
      induction members with
      | nil => exact Nat.zero_le _
      | cons m members inner =>
        exact Nat.max_le.2
          ⟨ih m (by simp), inner fun u hu => ih u (List.mem_cons_of_mem _ hu)⟩
    exact Nat.succ_le_succ all

theorem exact {room : Nat} {v : Json} (h : Within room v) (floatless : Floatless v) : Exact v := by
  induction h with
  | null => exact .null
  | bool b => exact .bool b
  | int lower upper => exact .int lower upper
  | float x => cases floatless
  | str s => exact .str s
  | arr within ih =>
    obtain _ | _ | _ | _ | floatless := floatless
    exact .arr fun v hv => ih v hv (floatless v hv)
  | obj distinct within ih =>
    obtain _ | _ | _ | _ | _ | floatless := floatless
    exact .obj distinct fun m hm => ih m hm (floatless m hm)

theorem get? {room : Nat} {key : String} {v u : Json} (h : Within (room + 1) v)
    (hu : v.get? key = some u) : Within room u := by
  cases h with
  | obj distinct within =>
    obtain ⟨before, after, rfl, -⟩ := List.lookup_eq_some_iff.1 hu
    exact within (key, u) (by simp)
  | null | bool | int | float | str | arr => cases hu

end Within

/-! ## Integers -/

theorem takeSignificand_lt {n : Nat} (h : n < 0x10000000000000000) (digits : List Char) :
    (takeSignificand n digits).1 < 0x10000000000000000 := by
  induction digits generalizing n with
  | nil => exact h
  | cons c cs ih =>
    rw [takeSignificand]
    split
    · exact ih ‹_›
    · exact h

theorem significand_lt (n : Numeral) : n.significand.1 < 0x10000000000000000 :=
  takeSignificand_lt (takeSignificand_lt (by decide) n.whole) n.fraction

theorem within_of_value? {n : Numeral} {v : Json} (h : n.value? = some v) (room : Nat) :
    Within room v := by
  have bound := significand_lt n
  unfold Numeral.value? at h
  dsimp only at h
  split at h
  · rename_i whole
    obtain rfl := Option.some.inj h
    apply Within.int
    · split
      · have := whole.2.2.2 ‹_›
        omega
      · omega
    · split <;> omega
  · obtain ⟨x, -, rfl⟩ := Option.map_eq_some_iff.1 h
    exact .float _

/-! ## Members -/

theorem mem_insertMember {members : List (String × Json)} {key : String} {value : Json}
    {m : String × Json} (h : m ∈ insertMember members key value) :
    m = (key, value) ∨ m ∈ members := by
  unfold insertMember at h
  split at h
  · obtain ⟨u, hu, rfl⟩ := List.mem_map.1 h
    split
    · exact .inl rfl
    · exact .inr hu
  · rcases List.mem_append.1 h with h | h
    · exact .inr h
    · exact .inl (List.mem_singleton.1 h)

/-- A key that is put in is there once. -/
theorem nodup_insertMember {members : List (String × Json)} (key : String) (value : Json)
    (h : (members.map Prod.fst).Nodup) :
    ((insertMember members key value).map Prod.fst).Nodup := by
  by_cases there : key ∈ members.map Prod.fst
  · have keys : (members.map fun m => if m.1 = key then (key, value) else m).map Prod.fst =
        members.map Prod.fst := by
      rw [List.map_map]
      refine List.map_congr_left fun m _ => ?_
      by_cases hm : m.1 = key <;> simp [hm]
    unfold insertMember
    split
    · rwa [keys]
    · rename_i absent
      obtain ⟨m, hm, rfl⟩ := List.mem_map.1 there
      have none : members.lookup m.1 = none := by
        rwa [Bool.not_eq_true, Option.isSome_eq_false_iff, Option.isNone_iff_eq_none] at absent
      exact absurd (List.lookup_eq_none_iff.1 none m hm) (by simp)
  · rw [insertMember_of_not_mem value there, List.map_append, List.nodup_append]
    refine ⟨h, by simp, fun k hk u hu => ?_⟩
    obtain rfl : u = key := by simpa using hu
    rintro rfl
    exact there hk

/-! ## Documents -/

mutual

/-- The value of a document is within the room there is for it. -/
theorem within_of_valueWithin? (d : Document) {room : Nat} {v : Json}
    (h : d.valueWithin? room = some v) : Within room v := by
  match d with
  | .null =>
    obtain rfl : null = v := by simpa [Document.valueWithin?] using h
    exact .null
  | .bool b =>
    obtain rfl : bool b = v := by simpa [Document.valueWithin?] using h
    exact .bool b
  | .num n =>
    rw [Document.valueWithin?] at h
    exact within_of_value? h room
  | .str pieces =>
    rw [Document.valueWithin?] at h
    obtain ⟨s, -, rfl⟩ := Option.map_eq_some_iff.1 h
    exact .str s
  | .arr items =>
    rw [Document.valueWithin?] at h
    split at h
    · cases h
    · obtain ⟨vs, hvs, rfl⟩ := Option.map_eq_some_iff.1 h
      obtain ⟨room, rfl⟩ := Nat.exists_eq_succ_of_ne_zero ‹_›
      exact .arr (within_of_valuesWithin? items (by simp) hvs)
  | .obj members =>
    rw [Document.valueWithin?] at h
    split at h
    · cases h
    · obtain ⟨ms, hms, rfl⟩ := Option.map_eq_some_iff.1 h
      obtain ⟨room, rfl⟩ := Nat.exists_eq_succ_of_ne_zero ‹_›
      obtain ⟨distinct, within⟩ := within_of_membersWithin? members (by simp) (by simp) hms
      exact .obj distinct within

/-- Earlier values and those of further documents are within the room there is for them. -/
theorem within_of_valuesWithin? (ds : List Document) {room : Nat} {done vs : List Json}
    (within : ∀ v ∈ done, Within room v) (h : Document.valuesWithin? room done ds = some vs) :
    ∀ v ∈ vs, Within room v := by
  match ds with
  | [] =>
    obtain rfl : done.reverse = vs := by simpa [Document.valuesWithin?] using h
    exact fun v hv => within v (List.mem_reverse.1 hv)
  | d :: ds =>
    rw [Document.valuesWithin?] at h
    split at h
    · rename_i u hu
      refine within_of_valuesWithin? ds (fun w hw => ?_) h
      rcases List.mem_cons.1 hw with rfl | hw
      · exact within_of_valueWithin? d hu
      · exact within w hw
    · cases h

/-- Members under distinct keys stay so when those of a document are put in. -/
theorem within_of_membersWithin? (ds : List (List Piece × Document)) {room : Nat}
    {done ms : List (String × Json)} (distinct : (done.map Prod.fst).Nodup)
    (within : ∀ m ∈ done, Within room m.2) (h : Document.membersWithin? room done ds = some ms) :
    (ms.map Prod.fst).Nodup ∧ ∀ m ∈ ms, Within room m.2 := by
  match ds with
  | [] =>
    obtain rfl : done = ms := by simpa [Document.membersWithin?] using h
    exact ⟨distinct, within⟩
  | (k, d) :: ds =>
    rw [Document.membersWithin?] at h
    split at h
    · rename_i key u hk hu
      refine within_of_membersWithin? ds (nodup_insertMember key u distinct) (fun m hm => ?_) h
      rcases mem_insertMember hm with rfl | hm
      · exact within_of_valueWithin? d hu
      · exact within m hm
    · cases h

end

theorem within_of_parse? {s : String} {v : Json} (h : parse? s = some v) : Within maxNesting v := by
  obtain ⟨d, -, hd⟩ := Option.bind_eq_some_iff.1 h
  exact within_of_valueWithin? d hd

/-- What is read is an exact value, unless it holds a floating-point number. -/
theorem exact_of_parse? {s : String} {v : Json} (h : parse? s = some v) (floatless : Floatless v) :
    Exact v ∧ v.depth ≤ maxNesting :=
  ⟨(within_of_parse? h).exact floatless, (within_of_parse? h).depth_le⟩

/-- A member of what is read is an exact value, whatever the other members hold. -/
theorem exact_of_get? {s key : String} {v u : Json} (h : parse? s = some v)
    (hu : v.get? key = some u) (floatless : Floatless u) : Exact u ∧ u.depth ≤ maxNesting := by
  have within : Within 126 u := (within_of_parse? h).get? hu
  exact ⟨within.exact floatless, Nat.le_trans within.depth_le (by decide)⟩

end Colloquy.Json
