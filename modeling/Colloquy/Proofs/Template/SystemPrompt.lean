import Colloquy.Proofs.Template.Agreement

/-!
# System prompts of compiled templates

An encoder takes an empty system prompt for none and falls back on the default of the template. A
compiled template takes what a leading system message says, empty or not, and otherwise the default,
which it leaves undefined if it is empty. Both say the same ahead of the messages where this makes
no difference (`SamePrompt`), and only there (`agreesAhead_iff_samePrompt`). A template that forces
its system prompt may have to join an undefined variable to a text, which is an error.
-/

namespace Colloquy

open Jinja (Expr Stmt Env Message)

/-! ## Ahead of the messages -/

namespace Jinja

/-- Whether a statement is a loop. -/
def Stmt.isLoop : Stmt → Bool
  | .each .. => true
  | _ => false

/-- The statements of a program ahead of its first loop. -/
def preamble (program : List Stmt) : List Stmt :=
  program.takeWhile (!·.isLoop)

/-- What a template says ahead of its first loop. -/
def ahead? (template : String) (ms : List Message) : Option (List Char) := do
  let program ← read? template.toList
  let (_, said) ← runAll? (start ms) (preamble program)
  return said

theorem preamble_append {p : List Stmt} (h : ∀ s ∈ p, s.isLoop = false) (name : String)
    (sequence : Expr) (body : List Stmt) : preamble (p ++ [.each name sequence body]) = p := by
  have none : ∀ s ∈ p, (!s.isLoop) = true := fun s hs => by rw [h s hs, Bool.not_false]
  rw [preamble, List.takeWhile_append_of_pos none,
    List.takeWhile_cons_of_neg (by simp [Stmt.isLoop]), List.append_nil]

end Jinja

/-- The slots of a formatter do not mention the content. -/
def Formatter.IgnoresContent (f : Formatter) : Prop :=
  ∀ slot ∈ f.skeleton, slot.mentions Placeholder.content = false

instance (f : Formatter) : Decidable f.IgnoresContent :=
  inferInstanceAs (Decidable (∀ slot ∈ f.skeleton, _))

theorem Formatter.not_ignoresContent_iff {f : Formatter} :
    ¬ f.IgnoresContent ↔ ∃ slot ∈ f.skeleton, slot.mentions Placeholder.content = true := by
  simp [IgnoresContent]

variable {τ : Type} [Tokenizer τ]

namespace Template

/-! ## The content in expressions -/

theorem not_mem_textItem {var : Expr} (hvar : ∀ s, var ≠ .text s) (s : List Char) :
    var ∉ textItem s := by
  unfold textItem
  split
  · exact List.not_mem_nil
  · simp [hvar]

theorem mem_fillIn_iff {var : Expr} (hvar : ∀ s, var ≠ .text s) (pieces : List (List Char)) :
    var ∈ fillIn var pieces ↔ 2 ≤ pieces.length := by
  cases pieces with
  | nil => simp [fillIn]
  | cons piece rest =>
    rw [fillIn, List.mem_append, List.length_cons]
    cases rest with
    | nil => simp [not_mem_textItem hvar]
    | cons p rest => simp

/-- The expressions of a slot hold the variable exactly if the slot mentions the content. -/
theorem mem_slotItems_iff {tok : τ} {var : Expr} {slot : Slot} {items : List Expr}
    (h : slotItems tok var slot = .ok items) (hvar : ∀ s, var ≠ .text s) :
    var ∈ items ↔ slot.mentions Placeholder.content = true := by
  have special : ∀ (id : Option TokenId) (name : Option String), var ∉ specialItem id name := by
    intro id name
    unfold specialItem
    cases name <;> split <;> simp [hvar]
  cases slot with
  | text s =>
    rw [slotItems] at h
    split at h
    · cases h
    · obtain rfl := Except.ok.inj h
      rw [mem_fillIn_iff hvar, Text.two_le_length_splitOn_iff (by decide)]
      rfl
  | token name => cases h
  | bos =>
    obtain rfl := Except.ok.inj h
    simp [special, Slot.mentions]
  | eos =>
    obtain rfl := Except.ok.inj h
    simp [special, Slot.mentions]

theorem mem_slots_iff {tok : τ} {var : Expr} {slots : List Slot} {items : List (List Expr)}
    (h : List.Forall₂ (fun slot items => slotItems tok var slot = .ok items) slots items)
    (hvar : ∀ s, var ≠ .text s) :
    var ∈ items.flatten ↔ ∃ slot ∈ slots, slot.mentions Placeholder.content = true := by
  induction h with
  | nil => simp
  | cons first _ ih =>
    rw [List.flatten_cons, List.mem_append, mem_slotItems_iff first hvar, ih]
    simp

/-- Slots that do not mention the content are said whatever the variables are. -/
theorem eval?_slotsExpr_of_silent {tok : τ} {role : Role} {name : String} {e : Expr}
    {slots : List Slot} (h : slotsExpr tok role (.var name) slots = .ok e)
    (silent : ∀ slot ∈ slots, slot.mentions Placeholder.content = false) (env : Env) :
    e.eval? env = some (.text (slotsText tok slots)) := by
  obtain ⟨items, hi, rfl⟩ := slotsExpr_eq_ok_iff.1 h
  have texts : ∀ e ∈ items.flatten, ∃ s, e = .text s := by
    intro e he
    refine (mem_slots hi e he).resolve_left ?_
    rintro rfl
    obtain ⟨slot, hs, mentions⟩ := (mem_slots_iff hi (by simp)).1 he
    rw [silent slot hs] at mentions
    cases mentions
  have said : Jinja.says? (env.set name (.text [])) items.flatten = some (fillText tok slots []) :=
    says?_slots hi (by simp [Expr.eval?])
  rw [fillText_of_not_mentions tok silent] at said
  exact Jinja.eval?_joinAll ((Jinja.says?_congr texts).trans said)

/-- Slots that mention the content among other things cannot be said without one. -/
theorem eval?_slotsExpr_of_undefined {tok : τ} {role : Role} {name : String} {e : Expr}
    {slots : List Slot} (h : slotsExpr tok role (.var name) slots = .ok e)
    (mention : ∃ slot ∈ slots, slot.mentions Placeholder.content = true) (more : e ≠ .var name)
    {env : Env} (undef : env name = .undefined) : e.eval? env = none := by
  obtain ⟨items, hi, rfl⟩ := slotsExpr_eq_ok_iff.1 h
  have var : (Expr.var name).eval? env = some .undefined := congrArg some undef
  refine Jinja.eval?_joinAll_of_undefined var (mem_slots hi)
    ((mem_slots_iff hi (by simp)).2 mention) ?_
  intro alone
  rw [alone] at more
  exact more rfl

/-! ## What a compiled template says ahead of the messages -/

section

variable {t : Template} {tok : τ} {text : String} {ms : List Message} {turn : Turn}
  {turns : List Turn} {system : Option String}

/-- The statements for the system prompt set no variable. -/
theorem eq_of_runAll?_systemPart {e : Expr} {env env' : Env} {said : List Char}
    (h : Jinja.runAll? env (t.systemPart e) = some (env', said)) : env' = env := by
  unfold systemPart at h
  split at h
  · simp only [Jinja.runAll?, Option.some.injEq, Prod.mk.injEq] at h
    exact h.1.symm
  · split at h <;> rw [Jinja.runAll?_singleton] at h
    · exact Jinja.run?_output_eq_some h
    · rw [Jinja.run?_cond (v := .bool (env "system_message" ≠ .undefined)) rfl] at h
      split at h
      · rw [Jinja.runAll?_singleton] at h
        exact Jinja.run?_output_eq_some h
      · simp only [Jinja.runOthers?, Option.some.injEq, Prod.mk.injEq] at h
        exact h.1.symm

theorem isLoop_systemPart (t : Template) (e : Expr) : ∀ s ∈ t.systemPart e, s.isLoop = false := by
  unfold systemPart
  cases t.injection with
  | prependToFirstUser => simp
  | leading =>
    dsimp only
    split <;> simp [Stmt.isLoop]

theorem isLoop_defaultPart (t : Template) : ∀ s ∈ t.defaultPart, s.isLoop = false := by
  unfold defaultPart
  split <;> simp [Stmt.isLoop]

/-- Ahead of the messages a compiled template says the system prompt, and it goes through if it
gets that far. -/
theorem ahead?_compile (h : t.compile tok = .ok text) (hms : ms ≠ []) :
    ∃ e, slotsExpr tok .system systemVar t.system.skeleton = .ok e ∧
      Jinja.ahead? text ms = (Jinja.runAll? (t.prepared ms) (t.systemPart e)).map Prod.snd ∧
      (Jinja.render? text ms).isSome = (Jinja.ahead? text ms).isSome := by
  obtain ⟨p, hp, rfl⟩ := compile_eq_ok_iff.1 h
  have read := read?_program hp
  obtain ⟨e, user, assistant, hs, hu, ha, rfl⟩ := program_eq_ok_iff.1 hp
  have loop := run?_messageLoop hms hs hu ha
  obtain ⟨first, rest, rfl⟩ := List.exists_cons_of_ne_nil hms
  have prepare := runAll?_prepare t first rest
  have regroup : t.defaultPart ++ messagePart :: t.systemPart e =
      (t.defaultPart ++ [messagePart]) ++ t.systemPart e := by simp
  have straight : ∀ s ∈ (t.defaultPart ++ [messagePart]) ++ t.systemPart e,
      s.isLoop = false := by
    simp only [List.mem_append, List.mem_singleton]
    rintro s ((hs | rfl) | hs)
    · exact isLoop_defaultPart t s hs
    · rfl
    · exact isLoop_systemPart t e s hs
  rw [regroup] at read ⊢
  refine ⟨e, hs, ?_⟩
  simp only [Jinja.ahead?, Jinja.render?, read, Option.bind_eq_bind, Option.bind_some]
  rw [messageLoop, Jinja.preamble_append straight, ← messageLoop, Jinja.runAll?_append prepare,
    List.append_assoc, Jinja.runAll?_append prepare]
  cases run : Jinja.runAll? (t.prepared (first :: rest)) (t.systemPart e) with
  | none => simp [Jinja.runAll?_append_of_none run]
  | some r =>
    obtain ⟨env, said⟩ := r
    obtain rfl := eq_of_runAll?_systemPart run
    simp [Jinja.runAll?_append run, Jinja.runAll?_single loop]

/-- A system prompt that is known, or not forced, is said in the system slots. -/
theorem ahead?_of_known (h : t.compile tok = .ok text) (hms : ms ≠ [])
    (known : (t.promptOf? ms).isSome ∨ t.forceSystem = false) :
    Jinja.ahead? text ms = some (t.headText tok ms) := by
  obtain ⟨e, he, said, -⟩ := ahead?_compile h hms
  rw [said, runAll?_systemPart he known]
  rfl

/-- A forced system prompt that is not known is an error, unless the system slots do without it or
say nothing else. -/
theorem ahead?_of_forced (h : t.compile tok = .ok text) (hms : ms ≠ [])
    (leading : t.injection = .leading) (force : t.forceSystem = true)
    (unknown : t.promptOf? ms = none) :
    Jinja.ahead? text ms =
      if t.system.IgnoresContent ∨
          slotsExpr tok .system systemVar t.system.skeleton = .ok systemVar then
        some (fillText tok t.system.skeleton [])
      else none := by
  obtain ⟨e, he, said, -⟩ := ahead?_compile h hms
  have undef : t.prepared ms "system_message" = .undefined := by
    rw [prepared, Env.set_same, unknown]
    rfl
  have run : Jinja.runAll? (t.prepared ms) (t.systemPart e) =
      ((e.eval? (t.prepared ms)).bind Jinja.Value.shown?).map fun s => (t.prepared ms, s) := by
    rw [systemPart, leading]
    dsimp only
    rw [if_pos force, Jinja.runAll?_singleton, Stmt.run?]
  rw [said, run, he, Option.map_map]
  by_cases silent : t.system.IgnoresContent
  · rw [if_pos (.inl silent), eval?_slotsExpr_of_silent he silent,
      fillText_of_not_mentions tok silent]
    rfl
  · by_cases alone : e = systemVar
    · -- The variable alone says nothing where it is undefined, and so it does where it is empty.
      subst alone
      have empty : systemVar.eval? (fun _ => .text []) =
        some (.text (fillText tok t.system.skeleton [])) := eval?_slotsExpr he rfl
      have said : systemVar.eval? (t.prepared ms) = some .undefined := congrArg some undef
      have nothing : [] = fillText tok t.system.skeleton [] := by
        simpa [systemVar, Expr.eval?] using empty
      rw [if_pos (.inr rfl), said, ← nothing]
      rfl
    · rw [if_neg (by simp [silent, alone]), eval?_slotsExpr_of_undefined he
        (Formatter.not_ignoresContent_iff.1 silent) alone undef]
      rfl

/-! ## What an encoder says ahead of the messages -/

/-- An encoder says a system prompt in the system slots unless it is empty and not forced. -/
theorem slotsText_before_zero (tok : τ) (leading : t.injection = .leading)
    (once : t.system.SaysOnce) (s : String) :
    ∃ start, t.before s none 0 = .ok start ∧ slotsText tok start.ahead =
      if s = "" ∧ t.forceSystem = false then [] else fillText tok t.system.skeleton s.toList := by
  rw [before, if_pos rfl, opening, leading]
  by_cases silent : s = "" ∧ t.forceSystem = false
  · refine ⟨.none, ?_, ?_⟩
    · simp [opensWithSystem, silent]
    · rw [if_pos silent]
      rfl
  · have opens : t.opensWithSystem s none = true := by
      simpa [opensWithSystem, or_iff_not_imp_left] using silent
    refine ⟨⟨t.renderSystem s none, ""⟩, ?_, ?_⟩
    · rw [if_pos opens]
    · rw [if_neg silent, slotsText_renderSystem tok once]

/-! ## Both -/

/-- A compiled template goes through and says ahead of the messages what the slots ahead of the
first turn hold. -/
def AgreesAhead (t : Template) (tok : τ) (text : String) (system : Option String)
    (turns : List Turn) : Prop :=
  ∃ start, t.before (t.systemText system) none 0 = .ok start ∧
    (Jinja.render? text (messagesOf system turns)).isSome ∧
    Jinja.ahead? text (messagesOf system turns) = some (slotsText tok start.ahead)

/-- Whether an encoder and a compiled template take a system prompt for the same. -/
def SamePrompt (t : Template) (tok : τ) : Option String → Prop
  | some s =>
    s ≠ "" ∨
      if t.defaultSystem = "" then
        t.forceSystem = true ∨ fillText tok t.system.skeleton [] = []
      else t.system.IgnoresContent
  | none =>
    t.defaultSystem ≠ "" ∨ t.forceSystem = false ∨ t.system.IgnoresContent ∨
      slotsExpr tok .system systemVar t.system.skeleton = .ok systemVar

theorem agreesAhead_iff (h : t.compile tok = .ok text) (leading : t.injection = .leading)
    (once : t.system.SaysOnce) (hms : messagesOf system turns ≠ []) :
    t.AgreesAhead tok text system turns ↔
      Jinja.ahead? text (messagesOf system turns) =
        some (if t.systemText system = "" ∧ t.forceSystem = false then []
          else fillText tok t.system.skeleton (t.systemText system).toList) := by
  obtain ⟨start, hs, held⟩ := slotsText_before_zero tok leading once (t.systemText system)
  obtain ⟨-, -, -, goes⟩ := ahead?_compile h hms
  rw [← held]
  constructor
  · rintro ⟨start', hs', -, said⟩
    obtain rfl := Except.ok.inj (hs.symm.trans hs')
    exact said
  · intro said
    exact ⟨start, hs, by rw [goes, said]; rfl, said⟩

/-- Slots say the same with some content as with none only if they do not mention it. -/
theorem fillText_nil_eq_iff (once : t.system.SaysOnce) {v : String} (hv : v ≠ "") :
    fillText tok t.system.skeleton [] = fillText tok t.system.skeleton v.toList ↔
      t.system.IgnoresContent := by
  constructor
  · intro same
    by_contra mention
    have full : ([] : List Char).length < v.toList.length := by
      rw [List.length_nil, List.length_pos_iff]
      simpa using hv
    have shorter := length_fillText_lt_fillText tok once
      (Formatter.not_ignoresContent_iff.1 mention) full
    rw [same] at shorter
    exact Nat.lt_irrefl _ shorter
  · intro silent
    rw [fillText_of_not_mentions tok silent, fillText_of_not_mentions tok silent]

theorem agreesAhead_iff_of_given (h : t.compile tok = .ok text)
    (leading : t.injection = .leading) (once : t.system.SaysOnce) (s : String) :
    t.AgreesAhead tok text (some s) turns ↔ t.SamePrompt tok (some s) := by
  have messages : messagesOf (some s) turns ≠ [] := List.cons_ne_nil _ _
  have given : t.promptOf? (messagesOf (some s) turns) = some s.toList := rfl
  rw [agreesAhead_iff h leading once messages,
    ahead?_of_known h messages (.inl (by rw [given]; rfl)), headText, leading, given,
    Option.some.injEq, SamePrompt]
  by_cases empty : s = ""
  · subst empty
    have fallback : t.systemText (some "") = t.defaultSystem := rfl
    rw [fallback]
    by_cases default : t.defaultSystem = ""
    · by_cases force : t.forceSystem = true <;> simp [default, force]
    · simpa [default] using fillText_nil_eq_iff once default
  · simp [systemText_of_given empty, empty]

theorem agreesAhead_iff_of_missing (h : t.compile tok = .ok text)
    (leading : t.injection = .leading) (once : t.system.SaysOnce) (user : turn.role = .user) :
    t.AgreesAhead tok text none (turn :: turns) ↔ t.SamePrompt tok none := by
  have messages : messagesOf none (turn :: turns) ≠ [] := List.cons_ne_nil _ _
  have prompt : t.promptOf? (messagesOf none (turn :: turns)) = _ :=
    promptOf?_messagesOf (by simp) user
  have fallback : t.systemText none = t.defaultSystem := rfl
  rw [fallback] at prompt
  rw [agreesAhead_iff h leading once messages, fallback, SamePrompt]
  by_cases default : t.defaultSystem = ""
  · rw [if_pos default] at prompt
    cases force : t.forceSystem with
    | false =>
      rw [ahead?_of_known h messages (.inr force), headText, leading, prompt]
      simp [default]
    | true =>
      rw [ahead?_of_forced h messages leading force prompt]
      by_cases sayable : t.system.IgnoresContent ∨
          slotsExpr tok .system systemVar t.system.skeleton = .ok systemVar
      · rw [if_pos sayable]
        simp [default, sayable]
      · rw [if_neg sayable]
        simp [default, sayable]
  · rw [if_neg default] at prompt
    rw [ahead?_of_known h messages (.inl (by rw [prompt]; rfl)), headText, leading, prompt]
    simp [default]

end

/-- A compiled template says what an encoder says ahead of the messages exactly if both take the
system prompt for the same: if it is not empty, or if it makes no difference that an empty one is
given, or that none is where one is forced. -/
theorem agreesAhead_iff_samePrompt {t : Template} {tok : τ} {text : String} {turn : Turn}
    (h : t.compile tok = .ok text) (leading : t.injection = .leading) (once : t.system.SaysOnce)
    (user : turn.role = .user) (turns : List Turn) (system : Option String) :
    t.AgreesAhead tok text system (turn :: turns) ↔ t.SamePrompt tok system := by
  cases system with
  | none => exact agreesAhead_iff_of_missing h leading once user
  | some s => exact agreesAhead_iff_of_given h leading once s

/-- A template with its system prompt in brackets. -/
def bracketed : Template :=
  Spec.build {
    name := "bracketed"
    system := some (.content [.text "[\x7b\x7bcontent\x7d\x7d]"])
    defaultSystem := "D" }

/-- The same without a default, but with a system prompt in every dialogue. -/
def forced : Template :=
  { bracketed with defaultSystem := "", forceSystem := true }

/-- A default prompt goes ahead if none is given. -/
theorem agreesAhead_iff_samePrompt_bracketed :
    ∃ text, bracketed.compile CharLevel.empty = .ok text ∧
      bracketed.AgreesAhead CharLevel.empty text none smallTalk := by
  obtain ⟨text, h⟩ : ∃ text, bracketed.compile CharLevel.empty = .ok text := ⟨_, rfl⟩
  refine ⟨text, h, ?_⟩
  exact (agreesAhead_iff_samePrompt h rfl (by decide) rfl smallTalk.tail none).2 (.inl (by decide))

/-- An empty system prompt is said instead of the default one, and a forced prompt that there is
none of is an error. -/
theorem not_agreesAhead_bracketed :
    ∃ text text', bracketed.compile CharLevel.empty = .ok text ∧
      forced.compile CharLevel.empty = .ok text' ∧
      bracketed.injection = .leading ∧ forced.injection = .leading ∧
      bracketed.system.SaysOnce ∧ forced.system.SaysOnce ∧
      ¬ bracketed.AgreesAhead CharLevel.empty text (some "") smallTalk ∧
      Jinja.render? text' (messagesOf none smallTalk) = none := by
  obtain ⟨text, h⟩ : ∃ text, bracketed.compile CharLevel.empty = .ok text := ⟨_, rfl⟩
  obtain ⟨text', h'⟩ : ∃ text, forced.compile CharLevel.empty = .ok text := ⟨_, rfl⟩
  refine ⟨text, text', h, h', rfl, rfl, by decide, by decide, ?_, ?_⟩
  · rw [agreesAhead_iff_of_given h rfl (by decide)]
    rintro (full | same)
    · exact full rfl
    · rw [if_neg (by decide)] at same
      exact absurd same (by decide)
  · have messages : messagesOf none smallTalk ≠ [] := by decide
    obtain ⟨-, -, -, goes⟩ := ahead?_compile h' messages
    rw [ahead?_of_forced h' messages rfl rfl (by decide), if_neg (by decide)] at goes
    rwa [Option.isSome_none, Option.isSome_eq_false_iff, Option.isNone_iff_eq_none] at goes

end Template

end Colloquy
