import Colloquy.Template.Compile
import Colloquy.Proofs.Except
import Colloquy.Proofs.Text
import Colloquy.Proofs.Jinja.Evaluation

/-!
# What a compiled template says

The text of slots (`slotsText`), and of slots with a content put in everywhere (`fillText`). The
expression that stands for slots says the latter (`eval?_slotsExpr`), so a compiled template says
the system prompt and then each message in the slots of its role (`render?_compile`). The prompt is
the content of a leading system message, otherwise the default of the template (`promptOf?`).
-/

namespace Colloquy

open Jinja (Expr Stmt Env Value Message)

variable {τ : Type} [Tokenizer τ]

/-! ## Texts of slots -/

/-- The text of a special token that has an id. -/
def specialText (id : Option TokenId) (name : Option String) : List Char :=
  if id.isSome then (name.map String.toList).getD [] else []

/-- The text that a slot stands for. -/
def Slot.plainText (tok : τ) : Slot → List Char
  | text s => s.toList
  | token name => name.toList
  | bos => specialText (Tokenizer.bosId tok) (Tokenizer.bos tok)
  | eos => specialText (Tokenizer.eosId tok) (Tokenizer.eos tok)

/-- The text that slots stand for. -/
def slotsText (tok : τ) (slots : List Slot) : List Char :=
  slots.flatMap (Slot.plainText tok)

/-- The text of slots with a content put in everywhere. -/
def fillText (tok : τ) (slots : List Slot) (v : List Char) : List Char :=
  slotsText tok (slots.map (·.mapText (Text.replaceAll Placeholder.content v)))

theorem slotsText_append (tok : τ) (slots slots' : List Slot) :
    slotsText tok (slots ++ slots') = slotsText tok slots ++ slotsText tok slots' :=
  List.flatMap_append

theorem fillText_eq_flatMap (tok : τ) (slots : List Slot) (v : List Char) :
    fillText tok slots v = slots.flatMap fun slot =>
      (slot.mapText (Text.replaceAll Placeholder.content v)).plainText tok := by
  rw [fillText, slotsText, List.flatMap_map]

theorem fillText_append (tok : τ) (slots slots' : List Slot) (v : List Char) :
    fillText tok (slots ++ slots') v = fillText tok slots v ++ fillText tok slots' v := by
  rw [fillText, List.map_append, slotsText_append, fillText, fillText]

namespace Template

/-! ## Slots as expressions -/

theorem says?_textItem (env : Env) (s : List Char) : Jinja.says? env (textItem s) = some s := by
  rw [textItem]
  split
  · rename_i h
    rw [List.isEmpty_iff.1 h]
    rfl
  · simp [Jinja.says?, Expr.eval?]

theorem intercalate_cons (v a : List Char) (rest : List (List Char)) :
    v.intercalate (a :: rest) = a ++ rest.flatMap (v ++ ·) := by
  induction rest generalizing a with
  | nil => simp [List.intercalate]
  | cons b rest ih =>
    have h := ih b
    rw [List.flatMap_cons, List.append_assoc, ← h]
    simp [List.intercalate]

theorem says?_fillIn {env : Env} {var : Expr} {v : List Char}
    (hv : var.eval? env = some (.text v)) (pieces : List (List Char)) :
    Jinja.says? env (fillIn var pieces) = some (v.intercalate pieces) := by
  cases pieces with
  | nil => rfl
  | cons piece rest =>
    have more : Jinja.says? env (rest.flatMap fun p => var :: textItem p) =
        some (rest.flatMap (v ++ ·)) := by
      induction rest with
      | nil => rfl
      | cons p rest ih =>
        rw [List.flatMap_cons, List.flatMap_cons]
        exact Jinja.says?_append (Jinja.says?_cons hv (says?_textItem env p)) ih
    rw [fillIn, intercalate_cons]
    exact Jinja.says?_append (says?_textItem env piece) more

theorem says?_specialItem (env : Env) (id : Option TokenId) (name : Option String) :
    Jinja.says? env (specialItem id name) = some (specialText id name) := by
  unfold specialItem specialText
  cases id <;> cases name <;> simp [Jinja.says?, Expr.eval?]

/-- The expressions of a slot say its text with the value of the variable put in. -/
theorem says?_slotItems {tok : τ} {var : Expr} {slot : Slot} {items : List Expr} {env : Env}
    {v : List Char} (h : slotItems tok var slot = .ok items)
    (hv : var.eval? env = some (.text v)) :
    Jinja.says? env items =
      some ((slot.mapText (Text.replaceAll Placeholder.content v)).plainText tok) := by
  cases slot with
  | text s =>
    rw [slotItems] at h
    split at h
    · cases h
    · obtain rfl := Except.ok.inj h
      rw [says?_fillIn hv]
      simp [Slot.mapText, Slot.plainText, Text.replaceAll]
  | token name => cases h
  | bos =>
    obtain rfl := Except.ok.inj h
    exact says?_specialItem env _ _
  | eos =>
    obtain rfl := Except.ok.inj h
    exact says?_specialItem env _ _

theorem says?_slots {tok : τ} {var : Expr} {slots : List Slot} {items : List (List Expr)}
    {env : Env} {v : List Char}
    (h : List.Forall₂ (fun slot items => slotItems tok var slot = .ok items) slots items)
    (hv : var.eval? env = some (.text v)) :
    Jinja.says? env items.flatten = some (fillText tok slots v) := by
  induction h with
  | nil => rfl
  | cons first _ ih => exact Jinja.says?_append (says?_slotItems first hv) ih

theorem slotsExpr_eq_ok_iff {tok : τ} {role : Role} {var e : Expr} {slots : List Slot} :
    slotsExpr tok role var slots = .ok e ↔
      ∃ items, List.Forall₂ (fun slot items => slotItems tok var slot = .ok items) slots items ∧
        e = .joinAll items.flatten := by
  simp only [← mapM_eq_ok_iff]
  unfold slotsExpr
  cases slots.mapM (slotItems tok var) with
  | ok items => simp [eq_comm]
  | error u => simp

/-- The expression for slots says their text with the value of the variable put in. -/
theorem eval?_slotsExpr {tok : τ} {role : Role} {var e : Expr} {slots : List Slot} {env : Env}
    {v : List Char} (h : slotsExpr tok role var slots = .ok e)
    (hv : var.eval? env = some (.text v)) :
    e.eval? env = some (.text (fillText tok slots v)) := by
  obtain ⟨items, hi, rfl⟩ := slotsExpr_eq_ok_iff.1 h
  exact Jinja.eval?_joinAll (says?_slots hi hv)

/-! ## Programs that can be read -/

/-- The expressions of a slot are texts and the variable. -/
theorem mem_slotItems {tok : τ} {var : Expr} {slot : Slot} {items : List Expr}
    (h : slotItems tok var slot = .ok items) : ∀ e ∈ items, e = var ∨ ∃ s, e = .text s := by
  have text : ∀ s, ∀ e ∈ textItem s, e = var ∨ ∃ s, e = .text s := by
    intro s e he
    unfold textItem at he
    split at he
    · cases he
    · exact .inr ⟨_, List.mem_singleton.1 he⟩
  have special : ∀ (id : Option TokenId) (name : Option String), ∀ e ∈ specialItem id name,
      e = var ∨ ∃ s, e = .text s := by
    intro id name e he
    unfold specialItem at he
    split at he
    · cases name with
      | none => cases he
      | some s => exact .inr ⟨s, List.mem_singleton.1 he⟩
    · cases he
  cases slot with
  | text s =>
    rw [slotItems] at h
    split at h
    · cases h
    · obtain rfl := Except.ok.inj h
      intro e he
      cases hp : Text.splitOn Placeholder.content s.toList with
      | nil =>
        rw [hp] at he
        cases he
      | cons piece rest =>
        rw [hp, fillIn, List.mem_append, List.mem_flatMap] at he
        rcases he with he | ⟨p, -, he⟩
        · exact text piece e he
        · rcases List.mem_cons.1 he with rfl | he
          · exact .inl rfl
          · exact text p e he
  | token name => cases h
  | bos =>
    obtain rfl := Except.ok.inj h
    exact special _ _
  | eos =>
    obtain rfl := Except.ok.inj h
    exact special _ _

theorem mem_slots {tok : τ} {var : Expr} {slots : List Slot} {items : List (List Expr)}
    (h : List.Forall₂ (fun slot items => slotItems tok var slot = .ok items) slots items) :
    ∀ e ∈ items.flatten, e = var ∨ ∃ s, e = .text s := by
  induction h with
  | nil =>
    intro e he
    cases he
  | cons first _ ih =>
    intro e he
    rw [List.flatten_cons, List.mem_append] at he
    rcases he with he | he
    · exact mem_slotItems first e he
    · exact ih e he

/-- An expression that may stand on the left of a join. -/
def Joinable (e : Expr) : Prop := e.rank ≤ 2 ∧ e.Readable

theorem joinable_foldl {rest : List Expr} (h : ∀ e ∈ rest, e.rank ≤ 1 ∧ e.Readable) {e : Expr}
    (he : Joinable e) : Joinable (rest.foldl .join e) := by
  induction rest generalizing e with
  | nil => exact he
  | cons f rest ih =>
    exact ih (fun g hg => h g (List.mem_cons_of_mem _ hg))
      ⟨Nat.le_refl 2, he, h f (List.mem_cons_self ..)⟩

theorem joinable_joinAll {items : List Expr} (h : ∀ e ∈ items, e.rank ≤ 1 ∧ e.Readable) :
    Joinable (.joinAll items) := by
  cases items with
  | nil => exact ⟨by decide, trivial⟩
  | cons e rest =>
    have first := h e (List.mem_cons_self ..)
    exact joinable_foldl (fun f hf => h f (List.mem_cons_of_mem _ hf))
      ⟨Nat.le_succ_of_le first.1, first.2⟩

theorem joinable_slotsExpr {tok : τ} {role : Role} {name : String} {e : Expr} {slots : List Slot}
    (h : slotsExpr tok role (.var name) slots = .ok e) (hname : Jinja.IsVariable name) :
    Joinable e := by
  obtain ⟨items, hi, rfl⟩ := slotsExpr_eq_ok_iff.1 h
  refine joinable_joinAll fun e he => ?_
  rcases mem_slots hi e he with rfl | ⟨s, rfl⟩
  · exact ⟨Nat.zero_le 1, hname⟩
  · exact ⟨Nat.zero_le 1, trivial⟩

/-- The parts of a program. -/
theorem program_eq_ok_iff {t : Template} {tok : τ} {p : List Stmt} :
    t.program tok = .ok p ↔ ∃ system user assistant,
      slotsExpr tok .system systemVar t.system.skeleton = .ok system ∧
      slotsExpr tok .user contentVar t.user.skeleton = .ok user ∧
      slotsExpr tok .assistant contentVar (t.assistant.skeleton ++ t.separator.skeleton) =
        .ok assistant ∧
      p = t.defaultPart ++ messagePart :: t.systemPart system ++
        [t.messageLoop system user assistant] := by
  simp only [program, bind_eq_ok_iff, pure_eq_ok, Except.ok.injEq]
  constructor
  · rintro ⟨system, hs, user, hu, assistant, ha, rfl⟩
    exact ⟨system, user, assistant, hs, hu, ha, rfl⟩
  · rintro ⟨system, user, assistant, hs, hu, ha, rfl⟩
    exact ⟨system, hs, user, hu, assistant, ha, rfl⟩

theorem isVariable_of_check {name : String}
    (h : (name.toList ≠ [] ∧ name.toList.all Jinja.isWordChar = true) ∧
      Jinja.atom? name.toList = some (.var name)) : Jinja.IsVariable name :=
  ⟨.of_all h.1, h.2⟩

theorem isVariable_systemMessage : Jinja.IsVariable "system_message" :=
  isVariable_of_check (by decide)

theorem isVariable_content : Jinja.IsVariable "content" := isVariable_of_check (by decide)

theorem isVariable_message : Jinja.IsVariable "message" := isVariable_of_check (by decide)

theorem isVariable_messages : Jinja.IsVariable "messages" := isVariable_of_check (by decide)

theorem isVariable_loop : Jinja.IsVariable "loop" := isVariable_of_check (by decide)

theorem isWord_index : Jinja.IsWord "index0" := .of_all (by decide)

/-- The program of a template can be read. -/
theorem readable_program {t : Template} {tok : τ} {p : List Stmt} (h : t.program tok = .ok p) :
    Jinja.AllReadable p := by
  obtain ⟨system, user, assistant, hs, hu, ha, rfl⟩ := program_eq_ok_iff.1 h
  -- The system prompt stands on the left of a join where it is put in front of a content.
  have hs := joinable_slotsExpr hs isVariable_systemMessage
  have hu := joinable_slotsExpr hu isVariable_content
  have ha := joinable_slotsExpr ha isVariable_content
  have first : Joinable firstMessage := ⟨by decide, rfl, isVariable_messages, trivial⟩
  have roles : ∀ (m : Expr) (role : Role), m.rank = 0 → m.Readable →
      (hasRole m role).Readable := fun m role rank hm =>
    ⟨⟨Nat.zero_le 2, rank, hm, trivial⟩, Nat.zero_le 2, trivial⟩
  have default : Jinja.AllReadable t.defaultPart := by
    unfold defaultPart
    split
    · trivial
    · exact ⟨⟨isVariable_systemMessage, trivial⟩, trivial⟩
  have message : Jinja.Stmt.Readable messagePart :=
    ⟨roles _ _ rfl first.2, ⟨⟨isVariable_systemMessage, rfl, first.2, trivial⟩, trivial⟩, trivial⟩
  have ahead : Jinja.AllReadable (t.systemPart system) := by
    unfold systemPart
    split
    · trivial
    · split
      · exact ⟨hs.2, trivial⟩
      · exact ⟨⟨⟨rfl, isVariable_systemMessage⟩, ⟨hs.2, trivial⟩, trivial⟩, trivial⟩
  have content : (contentOf thisMessage).Readable := ⟨rfl, isVariable_message, trivial⟩
  have glue : Jinja.AllReadable (t.gluePart system) := by
    unfold gluePart
    split
    · trivial
    · have place : (Expr.equal (.field (.var "loop") "index0")
          (.choose (.number 1) (hasRole firstMessage .system) (.number 0))).Readable :=
        ⟨⟨Nat.zero_le 2, rfl, isVariable_loop, isWord_index⟩, Nat.zero_le 2, trivial,
          roles _ _ rfl first.2, trivial⟩
      exact ⟨⟨⟨⟨roles _ _ rfl isVariable_message, Nat.le_refl 3, place⟩, Nat.le_succ_of_le
        (Nat.le_succ 1), rfl, isVariable_systemMessage⟩,
        ⟨⟨isVariable_content, hs, Nat.zero_le 1, content⟩, trivial⟩, trivial⟩, trivial⟩
  have loop : Jinja.Stmt.Readable (t.messageLoop system user assistant) := by
    refine ⟨isVariable_message, isVariable_messages, ⟨isVariable_content, content⟩, ?_⟩
    exact glue.append ⟨⟨roles _ _ rfl isVariable_message, ⟨hu.2, trivial⟩,
      roles _ _ rfl isVariable_message, ⟨ha.2, trivial⟩, trivial⟩, trivial⟩
  have head : Jinja.AllReadable (messagePart :: t.systemPart system) := ⟨message, ahead⟩
  exact (default.append head).append ⟨loop, trivial⟩

/-! ## Running the program -/

/-- The system prompt of a program for messages: the content of a leading system message, or the
default of the template. -/
def promptOf? (t : Template) : List Message → Option (List Char)
  | m :: _ =>
    if m.role = Role.system.name.toList then some m.content
    else if t.defaultSystem.isEmpty then none
    else some t.defaultSystem.toList
  | [] => none

/-- The number of the first message behind a leading system message. -/
def firstIndex : List Message → Nat
  | m :: _ => if m.role = Role.system.name.toList then 1 else 0
  | [] => 0

/-- What a program puts in front of the content of message `i`. -/
def gluedText (t : Template) (tok : τ) (ms : List Message) (i : Nat) (m : Message) : List Char :=
  if t.injection = .prependToFirstUser ∧ m.role = Role.user.name.toList ∧ i = firstIndex ms then
    ((t.promptOf? ms).map (fillText tok t.system.skeleton)).getD []
  else []

/-- What a program says for message `i`. -/
def messageText (t : Template) (tok : τ) (ms : List Message) (i : Nat) (m : Message) : List Char :=
  if m.role = Role.user.name.toList then
    fillText tok t.user.skeleton (t.gluedText tok ms i m ++ m.content)
  else if m.role = Role.assistant.name.toList then
    fillText tok (t.assistant.skeleton ++ t.separator.skeleton) m.content
  else []

/-- What a program says ahead of all messages. -/
def headText (t : Template) (tok : τ) (ms : List Message) : List Char :=
  match t.injection with
  | .prependToFirstUser => []
  | .leading => ((t.promptOf? ms).map (fillText tok t.system.skeleton)).getD []

/-- The variables of a program behind the statements about the system prompt. -/
def prepared (t : Template) (ms : List Message) : Env :=
  (Jinja.start ms).set "system_message" ((t.promptOf? ms).elim .undefined .text)

theorem eval?_hasRole {env : Env} {e : Expr} {m : Message} (h : e.eval? env = some (.message m))
    (role : Role) :
    (hasRole e role).eval? env = some (.bool (m.role = role.name.toList)) := by
  simp [hasRole, roleOf, Expr.eval?, h, Value.pick?]

theorem eval?_contentOf {env : Env} {e : Expr} {m : Message}
    (h : e.eval? env = some (.message m)) :
    (contentOf e).eval? env = some (.text m.content) := by
  simp [contentOf, Expr.eval?, h, Value.pick?]

theorem eval?_firstMessage {env : Env} {m : Message} {rest : List Message}
    (h : env "messages" = .messages (m :: rest)) :
    firstMessage.eval? env = some (.message m) := by
  simp [firstMessage, Expr.eval?, h, Value.pick?]

theorem run?_messagePart {env : Env} {m : Message} (rest : List Message)
    (h : env "messages" = .messages (m :: rest)) :
    Stmt.run? env messagePart = some
      (if m.role = Role.system.name.toList then env.set "system_message" (.text m.content) else env,
        []) := by
  have test := eval?_hasRole (eval?_firstMessage h) .system
  rw [messagePart, Stmt.run?, test]
  by_cases role : m.role = Role.system.name.toList
  · simp [role, Value.truthy, Jinja.runAll?, Stmt.run?, eval?_contentOf (eval?_firstMessage h)]
  · simp [role, Value.truthy, Jinja.runOthers?]

/-- The first statements leave the system prompt in its variable. -/
theorem runAll?_prepare (t : Template) (m : Message) (rest : List Message) :
    Jinja.runAll? (Jinja.start (m :: rest)) (t.defaultPart ++ [messagePart]) =
      some (t.prepared (m :: rest), []) := by
  have fresh : (Jinja.start (m :: rest)).set "system_message" .undefined =
      Jinja.start (m :: rest) := Env.set_eq_self _ "system_message"
  by_cases empty : t.defaultSystem.isEmpty
  · rw [defaultPart, if_pos empty, List.nil_append, Jinja.runAll?,
      run?_messagePart rest rfl]
    by_cases role : m.role = Role.system.name.toList
    · simp [role, Jinja.runAll?, prepared, promptOf?]
    · simp [role, empty, Jinja.runAll?, prepared, promptOf?, fresh]
  · have default : Stmt.run? (Jinja.start (m :: rest))
        (.set "system_message" (.text t.defaultSystem)) =
          some ((Jinja.start (m :: rest)).set "system_message" (.text t.defaultSystem.toList),
            []) :=
      rfl
    rw [defaultPart, if_neg empty, List.singleton_append, Jinja.runAll?_cons default, Jinja.runAll?,
      run?_messagePart rest rfl]
    by_cases role : m.role = Role.system.name.toList
    · simp [role, Jinja.runAll?, prepared, promptOf?, Env.set_set]
    · simp [role, empty, Jinja.runAll?, prepared, promptOf?]

/-- The system prompt is said ahead of all messages where it belongs there. -/
theorem runAll?_systemPart {t : Template} {tok : τ} {system : Expr} {ms : List Message}
    (hs : slotsExpr tok .system systemVar t.system.skeleton = .ok system)
    (known : (t.promptOf? ms).isSome ∨ t.forceSystem = false) :
    Jinja.runAll? (t.prepared ms) (t.systemPart system) =
      some (t.prepared ms, t.headText tok ms) := by
  have var : systemVar.eval? (t.prepared ms) = some ((t.promptOf? ms).elim .undefined .text) := by
    simp [systemVar, Expr.eval?, prepared]
  have defined : (Expr.isDefined systemVar).eval? (t.prepared ms) =
      some (.bool ((t.promptOf? ms).isSome)) := by
    rw [Expr.eval?, var]
    cases t.promptOf? ms <;> rfl
  have said : ∀ v, t.promptOf? ms = some v →
      Jinja.runAll? (t.prepared ms) [.output system] =
        some (t.prepared ms, fillText tok t.system.skeleton v) := by
    intro v hv
    rw [hv] at var
    refine Jinja.runAll?_single ?_
    rw [Stmt.run?, eval?_slotsExpr hs var]
    rfl
  unfold systemPart headText
  cases t.injection with
  | prependToFirstUser => rfl
  | leading =>
    dsimp only
    split
    · rename_i force
      obtain ⟨v, hv⟩ : ∃ v, t.promptOf? ms = some v :=
        Option.isSome_iff_exists.1 (known.resolve_right (by simp [force]))
      rw [said v hv, hv]
      rfl
    · refine Jinja.runAll?_single ?_
      rw [Jinja.run?_cond defined]
      cases hv : t.promptOf? ms with
      | some v => exact said v hv
      | none => rfl

/-- The variables of a program at message `i`. -/
def atMessage (t : Template) (ms : List Message) (i : Nat) (m : Message) : Env :=
  ((t.prepared ms).set "loop" (.loop i)).set "message" (.message m)

/-- The variables of a program at message `i` with a content. -/
def saying (t : Template) (ms : List Message) (i : Nat) (m : Message) (v : List Char) : Env :=
  (t.atMessage ms i m).set "content" (.text v)

section

variable {t : Template} {ms : List Message} {i : Nat} {m : Message} {v : List Char}

theorem eval?_thisMessage : thisMessage.eval? (t.saying ms i m v) = some (.message m) := by
  simp [thisMessage, Expr.eval?, saying, atMessage, Env.set]

theorem eval?_contentVar : contentVar.eval? (t.saying ms i m v) = some (.text v) := by
  simp [contentVar, Expr.eval?, saying]

theorem eval?_systemVar : systemVar.eval? (t.saying ms i m v) =
    some ((t.promptOf? ms).elim .undefined .text) := by
  simp [systemVar, Expr.eval?, saying, atMessage, prepared, Env.set]

theorem eval?_systemVar_isDefined : (Expr.isDefined systemVar).eval? (t.saying ms i m v) =
    some (.bool (t.promptOf? ms).isSome) := by
  rw [Expr.eval?, eval?_systemVar]
  cases t.promptOf? ms <;> rfl

/-- The test for the first message behind a leading system message. -/
theorem eval?_place (h : ms ≠ []) :
    (Expr.equal (.field (.var "loop") "index0")
      (.choose (.number 1) (hasRole firstMessage .system) (.number 0))).eval?
        (t.saying ms i m v) = some (.bool (i = firstIndex ms)) := by
  obtain ⟨first, rest, rfl⟩ := List.exists_cons_of_ne_nil h
  have messages : (t.saying (first :: rest) i m v) "messages" = .messages (first :: rest) := by
    simp [saying, atMessage, prepared, Jinja.start, Env.set]
  have loop : (t.saying (first :: rest) i m v) "loop" = .loop i := by
    simp [saying, atMessage, Env.set]
  have role := eval?_hasRole (eval?_firstMessage messages) .system
  by_cases leading : first.role = Role.system.name.toList <;>
    simp [Expr.eval?, role, loop, leading, Value.field?, Value.truthy, firstIndex]

/-- What is put in front of the content of a message is put there. -/
theorem runAll?_gluePart {tok : τ} {system : Expr} (h : ms ≠ [])
    (hs : slotsExpr tok .system systemVar t.system.skeleton = .ok system) :
    Jinja.runAll? (t.saying ms i m m.content) (t.gluePart system) =
      some (t.saying ms i m (t.gluedText tok ms i m ++ m.content), []) := by
  unfold gluePart gluedText
  cases t.injection with
  | leading => simp [Jinja.runAll?]
  | prependToFirstUser =>
    refine Jinja.runAll?_single ?_
    have role : (hasRole thisMessage .user).eval? (t.saying ms i m m.content) =
        some (.bool (m.role = Role.user.name.toList)) := eval?_hasRole eval?_thisMessage .user
    have test := Jinja.eval?_both (Jinja.eval?_both role (eval?_place h)) eval?_systemVar_isDefined
    rw [Jinja.run?_cond test]
    by_cases here : m.role = Role.user.name.toList ∧ i = firstIndex ms
    · obtain ⟨user, rfl⟩ := here
      cases hv : t.promptOf? ms with
      | some v =>
        have var : systemVar.eval? (t.saying ms (firstIndex ms) m m.content) =
            some (.text v) := by
          rw [eval?_systemVar, hv]
          rfl
        have glued : Stmt.run? (t.saying ms (firstIndex ms) m m.content)
            (.set "content" (.join system (contentOf thisMessage))) =
              some (t.saying ms (firstIndex ms) m (fillText tok t.system.skeleton v ++ m.content),
                []) := by
          rw [Stmt.run?, Expr.eval?, eval?_slotsExpr hs var, eval?_contentOf eval?_thisMessage]
          simp [Value.join?, saying, Env.set_set]
        simp [user, Value.truthy, Jinja.runAll?_single glued]
      | none => simp [user, Value.truthy, Jinja.runOthers?]
    · simp only [not_and] at here
      by_cases user : m.role = Role.user.name.toList
      · simp [user, here user, Value.truthy, Jinja.runOthers?]
      · simp [user, Value.truthy, Jinja.runOthers?]

theorem runAll?_output {tok : τ} {e : Expr} {slots : List Slot} {role : Role}
    (he : slotsExpr tok role contentVar slots = .ok e) :
    Jinja.runAll? (t.saying ms i m v) [.output e] =
      some (t.saying ms i m v, fillText tok slots v) := by
  refine Jinja.runAll?_single ?_
  rw [Stmt.run?, eval?_slotsExpr he eval?_contentVar]
  rfl

/-- A message is said in the slots of its role. -/
theorem run?_byRole {tok : τ} {user assistant : Expr}
    (hu : slotsExpr tok .user contentVar t.user.skeleton = .ok user)
    (ha : slotsExpr tok .assistant contentVar (t.assistant.skeleton ++ t.separator.skeleton) =
      .ok assistant) :
    Stmt.run? (t.saying ms i m (t.gluedText tok ms i m ++ m.content))
        (.cond (hasRole thisMessage .user) [.output user]
          [(hasRole thisMessage .assistant, [.output assistant])]) =
      some (t.saying ms i m (t.gluedText tok ms i m ++ m.content), t.messageText tok ms i m) := by
  rw [Jinja.run?_cond (eval?_hasRole eval?_thisMessage .user)]
  unfold messageText
  by_cases isUser : m.role = Role.user.name.toList
  · rw [if_pos isUser, if_pos (by simp [isUser, Value.truthy])]
    exact runAll?_output hu
  · have unglued : t.gluedText tok ms i m = [] := if_neg fun h => isUser h.2.1
    rw [if_neg isUser, if_neg (by simp [isUser, Value.truthy]), unglued, Jinja.runOthers?,
      eval?_hasRole eval?_thisMessage .assistant, List.nil_append]
    dsimp only
    by_cases isAssistant : m.role = Role.assistant.name.toList
    · rw [if_pos isAssistant, if_pos (by simp [isAssistant, Value.truthy])]
      exact runAll?_output ha
    · rw [if_neg isAssistant, if_neg (by simp [isAssistant, Value.truthy]), Jinja.runOthers?]

/-- What is done for a message says it. -/
theorem runAll?_message {tok : τ} {system user assistant : Expr} (h : ms ≠ [])
    (hs : slotsExpr tok .system systemVar t.system.skeleton = .ok system)
    (hu : slotsExpr tok .user contentVar t.user.skeleton = .ok user)
    (ha : slotsExpr tok .assistant contentVar (t.assistant.skeleton ++ t.separator.skeleton) =
      .ok assistant) :
    (Jinja.runAll? (t.atMessage ms i m)
      (.set "content" (contentOf thisMessage) :: t.gluePart system ++
        [.cond (hasRole thisMessage .user) [.output user]
          [(hasRole thisMessage .assistant, [.output assistant])]])).map Prod.snd =
      some (t.messageText tok ms i m) := by
  have content : Stmt.run? (t.atMessage ms i m) (.set "content" (contentOf thisMessage)) =
      some (t.saying ms i m m.content, []) := by
    have this : thisMessage.eval? (t.atMessage ms i m) = some (.message m) := by
      simp [thisMessage, Expr.eval?, atMessage]
    rw [Stmt.run?, eval?_contentOf this]
    rfl
  rw [List.cons_append, Jinja.runAll?_cons content, Jinja.runAll?_append (runAll?_gluePart h hs),
    Jinja.runAll?_single (run?_byRole hu ha)]
  rfl

end

theorem compile_eq_ok_iff {t : Template} {tok : τ} {text : String} :
    t.compile tok = .ok text ↔ ∃ p, t.program tok = .ok p ∧ text = Jinja.write p := by
  simp only [compile, bind_eq_ok_iff, pure_eq_ok, Except.ok.injEq]
  constructor
  · rintro ⟨p, hp, rfl⟩
    exact ⟨p, hp, rfl⟩
  · rintro ⟨p, hp, rfl⟩
    exact ⟨p, hp, rfl⟩

/-- The text of a program is read as the program. -/
theorem read?_program {t : Template} {tok : τ} {p : List Stmt} (h : t.program tok = .ok p) :
    Jinja.read? (Jinja.write p).toList = some p := by
  rw [Jinja.write, String.toList_ofList, Jinja.read?_writeAll (readable_program h)]

/-- The messages are said one after the other. -/
theorem run?_messageLoop {t : Template} {tok : τ} {system user assistant : Expr}
    {ms : List Message} (h : ms ≠ [])
    (hs : slotsExpr tok .system systemVar t.system.skeleton = .ok system)
    (hu : slotsExpr tok .user contentVar t.user.skeleton = .ok user)
    (ha : slotsExpr tok .assistant contentVar (t.assistant.skeleton ++ t.separator.skeleton) =
      .ok assistant) :
    Stmt.run? (t.prepared ms) (t.messageLoop system user assistant) =
      some (t.prepared ms, ms.zipIdx.flatMap fun p => t.messageText tok ms p.2 p.1) := by
  have sequence : (Expr.var "messages").eval? (t.prepared ms) = some (.messages ms) := by
    simp [Expr.eval?, prepared, Jinja.start, Env.set]
  have items := Jinja.overItems?_of_forall ms
    (fun i m _ => runAll?_message (i := i) (m := m) h hs hu ha) 0
  unfold atMessage at items
  rw [messageLoop, Stmt.run?, sequence]
  dsimp only
  rw [items]
  rfl

/-- A compiled template says the system prompt where it stands ahead of all messages, and then the
messages. -/
theorem render?_compile {t : Template} {tok : τ} {text : String} {ms : List Message}
    (h : t.compile tok = .ok text) (hms : ms ≠ [])
    (known : (t.promptOf? ms).isSome ∨ t.forceSystem = false) :
    Jinja.render? text ms =
      some (t.headText tok ms ++ ms.zipIdx.flatMap fun p => t.messageText tok ms p.2 p.1) := by
  obtain ⟨p, hp, rfl⟩ := compile_eq_ok_iff.1 h
  have read := read?_program hp
  obtain ⟨system, user, assistant, hs, hu, ha, rfl⟩ := program_eq_ok_iff.1 hp
  have loop := run?_messageLoop hms hs hu ha
  obtain ⟨first, rest, rfl⟩ := List.exists_cons_of_ne_nil hms
  have regroup : t.defaultPart ++ messagePart :: t.systemPart system ++
      [t.messageLoop system user assistant] = (t.defaultPart ++ [messagePart]) ++
        (t.systemPart system ++ [t.messageLoop system user assistant]) := by simp
  rw [regroup] at read ⊢
  rw [Jinja.render?, read]
  simp only [Option.bind_eq_bind, Option.bind_some]
  rw [Jinja.runAll?_append (runAll?_prepare t first rest),
    Jinja.runAll?_append (runAll?_systemPart hs known), Jinja.runAll?_single loop]
  simp

end Template

end Colloquy
