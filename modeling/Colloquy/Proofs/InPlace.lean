/-!
# Steps in place

A step may change something that its caller holds, and it may fail. What it has changed by then
stays changed, so that a failing step leaves everything as it was has to be shown of each step.
-/

namespace Colloquy

/-- A step that changes something in place and may fail. -/
abbrev InPlace (σ ε α : Type) :=
  ExceptT ε (StateM σ) α

namespace InPlace

variable {σ ε α β : Type}

/-- What comes of a step, and what it has made of the thing in place. -/
def outcome (x : InPlace σ ε α) (s : σ) : Except ε α × σ :=
  x.run.run s

@[simp]
theorem outcome_pure (a : α) (s : σ) : outcome (pure a : InPlace σ ε α) s = (.ok a, s) := rfl

@[simp]
theorem outcome_modify (f : σ → σ) (s : σ) :
    outcome (modify f : InPlace σ ε PUnit) s = (.ok ⟨⟩, f s) := rfl

@[simp]
theorem outcome_ofExcept (x : Except ε α) (s : σ) :
    outcome (ofExcept x : InPlace σ ε α) s = (x, s) := by
  cases x <;> rfl

@[simp]
theorem outcome_bind (x : InPlace σ ε α) (f : α → InPlace σ ε β) (s : σ) :
    outcome (x >>= f) s =
      match outcome x s with
      | (.ok a, s') => outcome (f a) s'
      | (.error e, s') => (.error e, s') := by
  simp only [outcome, ExceptT.run_bind, StateT.run_bind]
  rcases StateT.run (ExceptT.run x) s with ⟨a | e, s'⟩ <;> rfl

end InPlace

end Colloquy
