import Colloquy.Proofs.Registry
import Colloquy.Proofs.Template.Resolution

/-!
# Templates that cannot be resolved

Resolving a template in place makes its changes to the tokenizer one after the other, and the first
of them comes while the stop words are taken (`endInPlace`). It fails for two reasons, which are
both met ahead of that change: the template is not registered, or it is to end sequences with its
first stop word and has none (`resolve_eq_error_iff`). So a failure leaves the tokenizer as it was.
A template that does not compile, or that the tokenizer does not take, is no failure: it is not
installed, and what came before it stays (`failing_resolve_changes_nothing`).
-/

namespace Colloquy

open InPlace Tokenizer

variable {τ : Type} [Tokenizer τ]

/-! ## Resolving in place -/

/-- Puts the first stop word in place of the token that ends a sequence, where a template asks for
that, and tells which stop words are left. -/
def Template.endInPlace (t : Template) : InPlace τ TemplateError (List String) :=
  if t.replaceEos then
    match t.stopWords with
    | eos :: rest => do
      modify fun tok => (setEos tok eos).1
      return rest
    | [] => throw (.missingStopWords t.name)
  else return t.stopWords

/-- Looks up a template and prepares the tokenizer at hand for it, one change after the other. -/
def Registry.resolveInPlace (r : Registry) (name : Option String) :
    InPlace τ TemplateError Template := do
  let t ← ofExcept (r.get (name.getD emptyTemplateName))
  let stopWords ← t.endInPlace
  modify ensureEos
  modify ensurePad
  modify (ensureSpecials · stopWords)
  modify (installTemplate · t)
  return t

theorem Template.outcome_endInPlace (t : Template) (tok : τ) :
    outcome t.endInPlace tok =
      match t.stops with
      | .ok (eos, stopWords) => (.ok stopWords, endWith tok eos)
      | .error e => (.error e, tok) := by
  unfold endInPlace stops
  cases t.replaceEos with
  | false => rfl
  | true => cases t.stopWords <;> rfl

/-- In place or not, resolving gives the same template or error, and the same tokenizer. -/
theorem Registry.outcome_resolveInPlace (r : Registry) (name : Option String) (tok : τ) :
    outcome (r.resolveInPlace name) tok =
      match r.resolve tok name with
      | .ok (t, tok') => (.ok t, tok')
      | .error e => (.error e, tok) := by
  unfold resolveInPlace resolve
  simp only [outcome_bind, outcome_ofExcept]
  cases r.get (name.getD emptyTemplateName) with
  | error e => rfl
  | ok t =>
    simp only [Template.outcome_endInPlace]
    cases stops : t.stops with
    | error e => simp [stops, bind, Except.bind]
    | ok stopWords =>
      simp only [bind, Except.bind, stops]
      rfl

/-! ## Failures -/

theorem Template.stops_eq_error_iff {t : Template} {e : TemplateError} :
    t.stops = .error e ↔
      t.replaceEos = true ∧ t.stopWords = [] ∧ e = .missingStopWords t.name := by
  unfold stops
  cases t.replaceEos with
  | false => simp
  | true => cases t.stopWords <;> simp [eq_comm]

theorem Registry.get_eq_ok_iff {r : Registry} {name : String} {t : Template} :
    r.get name = .ok t ↔ r.find? name = some t := by
  unfold get
  cases r.find? name <;> simp

theorem Registry.get_eq_error_iff {r : Registry} {name : String} {e : TemplateError} :
    r.get name = .error e ↔ name ∉ r.names ∧ e = .notFound name := by
  rw [← find?_eq_none_iff]
  unfold get
  cases r.find? name <;> simp [eq_comm]

theorem Registry.resolve_eq_error_iff {r : Registry} {tok : τ} {name : Option String}
    {e : TemplateError} :
    r.resolve tok name = .error e ↔
      (name.getD emptyTemplateName ∉ r.names ∧ e = .notFound (name.getD emptyTemplateName)) ∨
      ∃ t, r.find? (name.getD emptyTemplateName) = some t ∧
        t.replaceEos = true ∧ t.stopWords = [] ∧ e = .missingStopWords t.name := by
  simp only [resolve, bind_eq_error_iff, pure_eq_ok, get_eq_error_iff, get_eq_ok_iff,
    Template.stops_eq_error_iff, reduceCtorEq, and_false, exists_false, or_false]

/-- A tokenizer prepared for a template but for its chat template. -/
def Template.ready (t : Template) (tok : τ) : τ :=
  ensureSpecials (ensurePad (t.ended tok)) t.otherStops

/-- The template does not compile for a tokenizer, or the tokenizer does not take it. -/
def Template.NotInstalled (t : Template) (tok : τ) : Prop :=
  (∃ e, t.compile tok = .error e) ∨
    ∃ text e, t.compile tok = .ok text ∧ setChatTemplate tok text = .error e

theorem Template.NotInstalled.installTemplate_eq {t : Template} {tok : τ}
    (h : t.NotInstalled tok) : installTemplate tok t = tok := by
  unfold installTemplate
  rcases h with ⟨e, fails⟩ | ⟨text, e, compiles, refused⟩
  · rw [fails]
  · simp only [compiles, refused]

/-- Resolving fails just if the template is unknown or lacks the stop word that is to end sequences,
and then the tokenizer is as it was. Where the chat template cannot be had, all else is done. -/
theorem failing_resolve_changes_nothing (r : Registry) (name : Option String) (tok : τ) :
    (∀ e, (outcome (r.resolveInPlace name) tok).1 = .error e ↔
      (name.getD emptyTemplateName ∉ r.names ∧ e = .notFound (name.getD emptyTemplateName)) ∨
      ∃ t, r.find? (name.getD emptyTemplateName) = some t ∧
        t.replaceEos = true ∧ t.stopWords = [] ∧ e = .missingStopWords t.name) ∧
    (∀ e, (outcome (r.resolveInPlace name) tok).1 = .error e →
      (outcome (r.resolveInPlace name) tok).2 = tok) ∧
    ∀ t, r.find? (name.getD emptyTemplateName) = some t →
      (t.replaceEos = true → t.stopWords ≠ []) → t.NotInstalled (t.ready tok) →
        outcome (r.resolveInPlace name) tok = (.ok t, t.ready tok) := by
  have fails (e : TemplateError) : (outcome (r.resolveInPlace name) tok).1 = .error e ↔
      r.resolve tok name = .error e := by
    rw [Registry.outcome_resolveInPlace]
    cases r.resolve tok name <;> simp
  refine ⟨fun e => ?_, fun e h => ?_, fun t found stops missed => ?_⟩
  · rw [fails, Registry.resolve_eq_error_iff]
  · rw [Registry.outcome_resolveInPlace, (fails e).1 h]
  · have resolved : r.resolve tok name = .ok (t, t.ready tok) := by
      rw [Registry.resolve_eq_ok_iff, Registry.get_eq_ok_iff]
      exact ⟨found, stops, missed.installTemplate_eq.symm⟩
    rw [Registry.outcome_resolveInPlace, resolved]

/-- A template that is to end sequences with a stop word and has none. -/
def speechless : Template :=
  Template.Spec.build { name := "speechless", replaceEos := true }

/-- A template that says who speaks by a token, which no compiled template can say. -/
def tokenLed : Template :=
  Template.Spec.build {
    name := "token-led"
    user := some (.content [.token "<user>", .text (String.ofList Placeholder.content)])
    stopWords := ["<stop>"] }

/-- The template without stop words fails and leaves the tokenizer alone; the one that does not
compile adds its stop word. -/
theorem failing_resolve_changes_nothing_speechless :
    outcome ((Registry.ofList [speechless, tokenLed]).resolveInPlace "speechless") oneWord =
      (.error (.missingStopWords "speechless"), oneWord) ∧
    outcome ((Registry.ofList [speechless, tokenLed]).resolveInPlace "token-led") oneWord =
      (.ok tokenLed, tokenLed.ready oneWord) := by
  have silent := failing_resolve_changes_nothing (Registry.ofList [speechless, tokenLed])
    "speechless" oneWord
  have refused := (silent.1 (.missingStopWords "speechless")).2
    (.inr ⟨speechless, by decide, rfl, rfl, rfl⟩)
  refine ⟨Prod.ext refused (silent.2.1 _ refused), ?_⟩
  have led := failing_resolve_changes_nothing (Registry.ofList [speechless, tokenLed])
    "token-led" oneWord
  exact led.2.2 tokenLed (by decide) (by decide) (.inl ⟨_, rfl⟩)

end Colloquy
