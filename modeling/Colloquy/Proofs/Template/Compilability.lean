import Colloquy.Proofs.Except
import Colloquy.Proofs.Placeholders
import Colloquy.Template.Compile
import Colloquy.Tokenizer.CharLevel

/-!
# Templates that cannot be compiled

A program cannot say a token by its id, nor any placeholder but that of the content
(`Inexpressible`). A template compiles unless one of its parts holds such a slot, and the first of
them is reported (`compile_eq_error_iff`). The tokenizer has no part in this, nor has the place of
the system prompt, nor do the formatters of roles that a program does not render.
-/

namespace Colloquy

namespace Slot

/-- What a program cannot say of a slot. -/
inductive Inexpressible : Slot → Unsupported → Prop where
  | token (name : String) : Inexpressible (.token name) (.token name)
  /-- The first placeholder other than that of the content. -/
  | placeholder {s : String} {ahead n : List Char} (stands : Placeholder.Stands s.toList ahead n)
      (foreign : n ≠ "content".toList)
      (first : ∀ ahead' n', Placeholder.Stands s.toList ahead' n' → n' ≠ "content".toList →
        ahead.length ≤ ahead'.length) :
    Inexpressible (.text s) (.placeholder (String.ofList n))

end Slot

namespace Template

open Jinja (Expr)

variable {τ : Type} [Tokenizer τ]

/-! ## Slots -/

theorem foreignPlaceholder?_eq_some_iff {s n : List Char} : foreignPlaceholder? s = some n ↔
    ∃ ahead, Placeholder.Stands s ahead n ∧ n ≠ "content".toList ∧
      ∀ ahead' n', Placeholder.Stands s ahead' n' → n' ≠ "content".toList →
        ahead.length ≤ ahead'.length := by
  simp only [foreignPlaceholder?, Placeholder.find?_names_eq_some_iff, decide_eq_true_eq]

theorem slotItems_eq_error_iff (tok : τ) (var : Expr) {slot : Slot} {u : Unsupported} :
    slotItems tok var slot = .error u ↔ slot.Inexpressible u := by
  cases slot with
  | text s =>
    constructor
    · intro h
      rw [slotItems] at h
      split at h
      · rename_i n found
        obtain ⟨ahead, stands, foreign, first⟩ := foreignPlaceholder?_eq_some_iff.1 found
        obtain rfl := Except.error.inj h
        exact .placeholder stands foreign first
      · cases h
    · rintro (_ | ⟨stands, foreign, first⟩)
      rw [slotItems, foreignPlaceholder?_eq_some_iff.2 ⟨_, stands, foreign, first⟩]
  | token name =>
    constructor
    · intro h
      obtain rfl := Except.error.inj h
      exact .token name
    · rintro ⟨⟩
      rfl
  | bos => exact ⟨fun h => (by cases h), fun h => (by cases h)⟩
  | eos => exact ⟨fun h => (by cases h), fun h => (by cases h)⟩

/-- Whether something of a slot cannot be said, whatever else stands in it. -/
theorem exists_inexpressible_iff {slot : Slot} : (∃ u, slot.Inexpressible u) ↔
    (∃ name, slot = .token name) ∨ ∃ s ahead n, slot = .text s ∧
      Placeholder.Stands s.toList ahead n ∧ n ≠ "content".toList := by
  constructor
  · rintro ⟨_, name | ⟨stands, foreign, -⟩⟩
    · exact .inl ⟨name, rfl⟩
    · exact .inr ⟨_, _, _, rfl, stands, foreign⟩
  · rintro (⟨name, rfl⟩ | ⟨s, ahead, n, rfl, stands, foreign⟩)
    · exact ⟨_, .token name⟩
    · -- Where a placeholder of another kind stands there is a first one.
      have found : (foreignPlaceholder? s.toList).isSome := by
        rw [foreignPlaceholder?, List.find?_isSome]
        exact ⟨n, Placeholder.mem_names_iff.2 ⟨ahead, stands⟩, decide_eq_true foreign⟩
      obtain ⟨m, hm⟩ := Option.isSome_iff_exists.1 found
      obtain ⟨_, stands, foreign, first⟩ := foreignPlaceholder?_eq_some_iff.1 hm
      exact ⟨_, .placeholder stands foreign first⟩

/-! ## Parts of a template -/

/-- What a program renders, with the roles that errors are reported for: the system prompt, what a
user says, and what an assistant says with what separates rounds behind it. -/
def renderedParts (t : Template) : List (Role × List Slot) :=
  [(.system, t.system.skeleton), (.user, t.user.skeleton),
    (.assistant, t.assistant.skeleton ++ t.separator.skeleton)]

/-- The first slot of a part of which something cannot be said. -/
def PartFault (part : Role × List Slot) (e : CompileError) : Prop :=
  part.1 = e.role ∧ FirstFault Slot.Inexpressible part.2 e.unsupported

theorem slotsExpr_eq_error_iff {tok : τ} {role : Role} {var : Expr} {slots : List Slot}
    {e : CompileError} : slotsExpr tok role var slots = .error e ↔ PartFault (role, slots) e := by
  obtain ⟨role', u'⟩ := e
  rw [PartFault, ← mapM_eq_error_iff fun _ _ => slotItems_eq_error_iff tok var]
  unfold slotsExpr
  cases slots.mapM (slotItems tok var) <;> simp

theorem exists_slotsExpr_eq_ok_iff {tok : τ} {role : Role} {var : Expr} {slots : List Slot} :
    (∃ expr, slotsExpr tok role var slots = .ok expr) ↔ ∀ e, ¬ PartFault (role, slots) e := by
  rw [exists_eq_ok_iff]
  exact forall_congr' fun e => not_congr slotsExpr_eq_error_iff

/-- A program is made of all three parts, in this order, wherever the system prompt goes. -/
theorem program_eq_error_iff {t : Template} {tok : τ} {e : CompileError} :
    t.program tok = .error e ↔ FirstFault PartFault t.renderedParts e := by
  simp only [renderedParts, firstFault_cons_iff, not_firstFault_nil, program, bind_eq_error_iff,
    pure_eq_ok, reduceCtorEq, slotsExpr_eq_error_iff, and_false, exists_false, or_false,
    exists_and_right, exists_slotsExpr_eq_ok_iff]

theorem exists_partFault_iff {part : Role × List Slot} :
    (∃ e, PartFault part e) ↔ ∃ slot ∈ part.2, ∃ u, slot.Inexpressible u := by
  rw [← exists_firstFault_iff]
  constructor
  · rintro ⟨e, -, h⟩
    exact ⟨_, h⟩
  · rintro ⟨u, h⟩
    exact ⟨⟨part.1, u⟩, rfl, h⟩

/-- The slots of which something cannot be said are those of the parts with a fault. -/
theorem exists_firstFault_renderedParts_iff {t : Template} :
    (∃ e, FirstFault PartFault t.renderedParts e) ↔
      ∃ slot ∈ t.system.skeleton ++ t.user.skeleton ++
          (t.assistant.skeleton ++ t.separator.skeleton), ∃ u, slot.Inexpressible u := by
  have mem_iff : ∀ slot, slot ∈ t.system.skeleton ++ t.user.skeleton ++
      (t.assistant.skeleton ++ t.separator.skeleton) ↔ ∃ part ∈ t.renderedParts, slot ∈ part.2 := by
    intro slot
    simp [renderedParts]
  rw [exists_firstFault_iff]
  constructor
  · rintro ⟨part, rendered, fault⟩
    obtain ⟨slot, hslot, h⟩ := exists_partFault_iff.1 fault
    exact ⟨slot, (mem_iff slot).2 ⟨part, rendered, hslot⟩, h⟩
  · rintro ⟨slot, hslot, h⟩
    obtain ⟨part, rendered, hslot⟩ := (mem_iff slot).1 hslot
    exact ⟨part, rendered, exists_partFault_iff.2 ⟨slot, hslot, h⟩⟩

/-- A template cannot be compiled if and only if a token or a placeholder other than that of the
content stands in what a program renders. The error is that of the first such slot, by the order of
the parts. It is the same for all tokenizers and wherever the system prompt goes, and whatever is
said in other roles. -/
theorem compile_eq_error_iff (t : Template) (tok : τ) :
    ((∃ e, t.compile tok = .error e) ↔
      ∃ slot ∈ t.system.skeleton ++ t.user.skeleton ++
          (t.assistant.skeleton ++ t.separator.skeleton),
        (∃ name, slot = .token name) ∨ ∃ s ahead n, slot = .text s ∧
          Placeholder.Stands s.toList ahead n ∧ n ≠ "content".toList) ∧
    (∀ e, t.compile tok = .error e ↔ FirstFault PartFault t.renderedParts e) ∧
    ∀ {σ : Type} [Tokenizer σ] (other : σ) (injection : SystemInjection)
      (function observation tools : Formatter) (e : CompileError),
      { t with injection, function, observation, tools }.compile other = .error e ↔
        t.compile tok = .error e := by
  have compiles : ∀ {σ : Type} [Tokenizer σ] (t : Template) (tok : σ) (e : CompileError),
      t.compile tok = .error e ↔ FirstFault PartFault t.renderedParts e := by
    intro σ _ t tok e
    rw [compile, bind_pure_eq_error_iff, program_eq_error_iff]
  refine ⟨?_, compiles t tok, fun other injection function observation tools e => ?_⟩
  · simp only [compiles, exists_firstFault_renderedParts_iff, exists_inexpressible_iff]
  · rw [compiles, compiles]
    rfl

/-- A template that numbers what a user says and begins and ends rounds with tokens. -/
def numberedRounds : Template :=
  Spec.build
    { name := "numberedRounds"
      user := some (.content [.text "\x7b\x7bcontent\x7d\x7d\n[\x7b\x7bidx\x7d\x7d] \x7b\x7bname\x7d\x7d",
        .token "<end>"])
      separator := some (.fixed [.token "<next>"]) }

/-- Of two placeholders and two tokens the round number is reported, with the role of its part. -/
theorem compile_eq_error_iff_numberedRounds :
    numberedRounds.compile CharLevel.empty = .error ⟨.user, .placeholder "idx"⟩ ∧
      FirstFault PartFault numberedRounds.renderedParts ⟨.user, .placeholder "idx"⟩ := by
  have h : numberedRounds.compile CharLevel.empty = .error ⟨.user, .placeholder "idx"⟩ := by decide
  obtain ⟨-, reported, -⟩ := compile_eq_error_iff numberedRounds CharLevel.empty
  exact ⟨h, (reported _).1 h⟩

end Template

end Colloquy
