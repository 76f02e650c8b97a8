import Mathlib.Data.List.Forall2

/-!
# Steps that may fail

What it takes for a chain of steps to succeed, and where it fails if it does not: at the first step
that fails (`mapM_eq_error_iff`).
-/

namespace Colloquy

variable {ε ε' α β : Type}

theorem bind_eq_ok_iff {x : Except ε α} {f : α → Except ε β} {b : β} :
    x >>= f = .ok b ↔ ∃ a, x = .ok a ∧ f a = .ok b := by
  cases x with
  | error e => simp [bind, Except.bind]
  | ok a => simp [bind, Except.bind]

theorem pure_eq_ok (a : α) : (pure a : Except ε α) = .ok a := rfl

theorem map_eq_ok_iff {f : α → β} {x : Except ε α} {b : β} :
    x.map f = .ok b ↔ ∃ a, x = .ok a ∧ b = f a := by
  cases x <;> simp [Except.map, eq_comm]

theorem mapError_eq_ok_iff {f : ε → ε'} {x : Except ε α} {a : α} :
    x.mapError f = .ok a ↔ x = .ok a := by
  cases x <;> simp [Except.mapError]

theorem mapM_eq_ok_iff {f : α → Except ε β} {l : List α} {l' : List β} :
    l.mapM f = .ok l' ↔ List.Forall₂ (fun a b => f a = .ok b) l l' := by
  induction l generalizing l' with
  | nil =>
    rw [List.mapM_nil, pure_eq_ok, Except.ok.injEq, List.forall₂_nil_left_iff, eq_comm]
  | cons a l ih =>
    simp only [List.mapM_cons, bind_eq_ok_iff, pure_eq_ok, Except.ok.injEq, ih,
      List.forall₂_cons_left_iff]
    constructor
    · rintro ⟨b, hb, bs, hbs, rfl⟩
      exact ⟨b, bs, hb, hbs, rfl⟩
    · rintro ⟨b, bs, hb, hbs, rfl⟩
      exact ⟨b, hb, bs, hbs, rfl⟩

/-! ## Failures -/

theorem exists_eq_ok_iff {x : Except ε α} : (∃ a, x = .ok a) ↔ ∀ e, x ≠ .error e := by
  cases x <;> simp

theorem bind_eq_error_iff {x : Except ε α} {f : α → Except ε β} {e : ε} :
    x >>= f = .error e ↔ x = .error e ∨ ∃ a, x = .ok a ∧ f a = .error e := by
  cases x with
  | error e' => simp [bind, Except.bind]
  | ok a => simp [bind, Except.bind]

/-- A last step that cannot fail does not matter to a failure. -/
theorem bind_pure_eq_error_iff {x : Except ε α} {f : α → β} {e : ε} :
    (x >>= fun a => pure (f a)) = .error e ↔ x = .error e := by
  simp [bind_eq_error_iff, pure_eq_ok]

theorem map_eq_error_iff {f : α → β} {x : Except ε α} {e : ε} :
    x.map f = .error e ↔ x = .error e := by
  cases x <;> simp [Except.map]

theorem mapError_eq_error_iff {f : ε → ε'} {x : Except ε α} {e' : ε'} :
    x.mapError f = .error e' ↔ ∃ e, x = .error e ∧ e' = f e := by
  cases x <;> simp [Except.mapError, eq_comm]

/-- The first element of a list with a fault, whose fault is `e`. -/
def FirstFault (fault : α → ε → Prop) (l : List α) (e : ε) : Prop :=
  ∃ ahead a behind, l = ahead ++ a :: behind ∧ fault a e ∧ ∀ x ∈ ahead, ∀ e', ¬ fault x e'

section

variable {fault : α → ε → Prop}

theorem not_firstFault_nil {e : ε} : ¬ FirstFault fault [] e := by
  rintro ⟨ahead, a, behind, h, -⟩
  cases ahead <;> cases h

theorem firstFault_cons_iff {a : α} {l : List α} {e : ε} :
    FirstFault fault (a :: l) e ↔ fault a e ∨ (∀ e', ¬ fault a e') ∧ FirstFault fault l e := by
  constructor
  · rintro ⟨ahead, x, behind, h, hx, none⟩
    rcases List.cons_eq_append_iff.1 h with ⟨rfl, h⟩ | ⟨ahead, rfl, rfl⟩
    · obtain ⟨rfl, -⟩ := List.cons.inj h
      exact .inl hx
    · exact .inr ⟨none a (List.mem_cons_self ..), ahead, x, behind, rfl, hx,
        fun y hy => none y (List.mem_cons_of_mem _ hy)⟩
  · rintro (here | ⟨fine, ahead, x, behind, rfl, hx, none⟩)
    · exact ⟨[], a, l, rfl, here, by simp⟩
    · refine ⟨a :: ahead, x, behind, rfl, hx, fun y hy => ?_⟩
      rcases List.mem_cons.1 hy with rfl | hy
      · exact fine
      · exact none y hy

/-- Some element of a list has a fault if and only if there is a first one that has. -/
theorem exists_firstFault_iff {l : List α} :
    (∃ e, FirstFault fault l e) ↔ ∃ a ∈ l, ∃ e, fault a e := by
  induction l with
  | nil => simp [not_firstFault_nil]
  | cons a l ih =>
    simp only [firstFault_cons_iff, exists_or, exists_and_left, ih, List.exists_mem_cons_iff]
    by_cases here : ∃ e, fault a e
    · simp [here]
    · simp [not_exists.1 here]

/-- Steps fail where the first of them does. -/
theorem mapM_eq_error_iff {f : α → Except ε β} (hf : ∀ a e, f a = .error e ↔ fault a e)
    {l : List α} {e : ε} : l.mapM f = .error e ↔ FirstFault fault l e := by
  induction l with
  | nil =>
    rw [List.mapM_nil, pure_eq_ok]
    exact ⟨fun h => (by cases h), fun h => (not_firstFault_nil h).elim⟩
  | cons a l ih =>
    have fine : (∃ b, f a = .ok b) ↔ ∀ e', ¬ fault a e' := by
      rw [exists_eq_ok_iff]
      exact forall_congr' fun e' => not_congr (hf a e')
    rw [List.mapM_cons, bind_eq_error_iff, firstFault_cons_iff, hf, ← ih, ← fine]
    simp only [bind_pure_eq_error_iff, exists_and_right]

end

end Colloquy
