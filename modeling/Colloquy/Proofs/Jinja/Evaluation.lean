import Colloquy.Proofs.Jinja.Reader

/-!
# What a program says

The meaning of programs. A variable that was not set is undefined: it can be tested and output, but
nothing can be joined to it or picked from it. What is set in a condition stays set behind it; what
is set in the body of a loop is gone with the item. `render?` is what a template says for the
messages of a dialogue, and `outputs?` what a single expression says as it is written. They are
`none` where an engine would report an error.

`says?` is the text of several expressions one after the other, which is the text of them joined
(`eval?_joinAll`). An undefined variable cannot be joined to others (`eval?_joinAll_of_undefined`).
-/

namespace Colloquy.Jinja

/-- A message of a dialogue. -/
structure Message where
  role : List Char
  content : List Char
deriving DecidableEq, Repr

/-- A value of a variable or an expression. -/
inductive Value where
  | undefined
  | text (s : List Char)
  | number (n : Nat)
  | bool (b : Bool)
  | message (m : Message)
  | messages (ms : List Message)
  /-- The state of a loop: the number of the item at hand, from zero. -/
  | loop (index : Nat)
deriving DecidableEq, Repr

namespace Value

/-- Whether a value counts as true. -/
def truthy : Value → Bool
  | undefined => false
  | text s => !s.isEmpty
  | number n => n != 0
  | bool b => b
  | message _ => true
  | messages ms => !ms.isEmpty
  | loop _ => true

/-- An item of a sequence, or what stands under a key. -/
def pick? : Value → Value → Option Value
  | messages ms, number n => some ((ms[n]?).elim undefined message)
  | message m, text key =>
    if key = "role".toList then some (text m.role)
    else if key = "content".toList then some (text m.content)
    else some undefined
  | _, _ => none

/-- A field with a fixed name. -/
def field? : Value → String → Option Value
  | loop index, name => if name = "index0" then some (number index) else none
  | _, _ => none

/-- Two texts joined, or two numbers added. -/
def join? : Value → Value → Option Value
  | text a, text b => some (text (a ++ b))
  | number a, number b => some (number (a + b))
  | _, _ => none

/-- What is output for a value. -/
def shown? : Value → Option (List Char)
  | undefined => some []
  | text s => some s
  | number n => some (Nat.toDigits 10 n)
  | _ => none

end Value

/-- The values of the variables. -/
abbrev Env := String → Value

/-- The values of the variables with one set. -/
def Env.set (env : Env) (name : String) (v : Value) : Env :=
  fun other => if other = name then v else env other

@[simp] theorem Env.set_same (env : Env) (name : String) (v : Value) : env.set name v name = v :=
  if_pos rfl

theorem Env.set_set (env : Env) (name : String) (v w : Value) :
    (env.set name v).set name w = env.set name w := by
  funext other
  by_cases h : other = name <;> simp [Env.set, h]

theorem Env.set_eq_self (env : Env) (name : String) : env.set name (env name) = env := by
  funext other
  by_cases h : other = name <;> simp [Env.set, h]

/-- The value of an expression. -/
def Expr.eval? (env : Env) : Expr → Option Value
  | text s => some (.text s.toList)
  | number n => some (.number n)
  | var name => some (env name)
  | item e key =>
    match e.eval? env, key.eval? env with
    | some v, some k => v.pick? k
    | _, _ => none
  | field e name => (e.eval? env).bind fun v => v.field? name
  | join a b =>
    match a.eval? env, b.eval? env with
    | some v, some w => v.join? w
    | _, _ => none
  | equal a b =>
    match a.eval? env, b.eval? env with
    | some v, some w => some (.bool (v = w))
    | _, _ => none
  | both a b =>
    match a.eval? env with
    | some v => if v.truthy then b.eval? env else some v
    | none => none
  | isDefined a => (a.eval? env).map fun v => .bool (v ≠ .undefined)
  | choose yes test no =>
    match test.eval? env with
    | some v => if v.truthy then yes.eval? env else no.eval? env
    | none => none

theorem eval?_both {env : Env} {a b : Expr} {p q : Bool} (ha : a.eval? env = some (.bool p))
    (hb : b.eval? env = some (.bool q)) : (Expr.both a b).eval? env = some (.bool (p && q)) := by
  rw [Expr.eval?, ha]
  cases p with
  | true => exact hb
  | false => rfl

/-- What is output for the items of a sequence, from number `i` on. -/
def overItems? (say? : Nat → Message → Option (List Char)) (i : Nat) :
    List Message → Option (List Char)
  | [] => some []
  | m :: rest =>
    match say? i m, overItems? say? (i + 1) rest with
    | some s, some t => some (s ++ t)
    | _, _ => none

mutual

/-- The variables after a statement, and what it outputs. -/
def Stmt.run? (env : Env) : Stmt → Option (Env × List Char)
  | .set name value => (value.eval? env).map fun v => (env.set name v, [])
  | .output value => ((value.eval? env).bind Value.shown?).map fun s => (env, s)
  | .cond test body others =>
    match test.eval? env with
    | some v => if v.truthy then runAll? env body else runOthers? env others
    | none => none
  | .each name sequence body =>
    match sequence.eval? env with
    | some (.messages ms) =>
      (overItems? (fun i m =>
        (runAll? ((env.set "loop" (.loop i)).set name (.message m)) body).map Prod.snd) 0 ms).map
          fun s => (env, s)
    | _ => none

def runAll? (env : Env) : List Stmt → Option (Env × List Char)
  | [] => some (env, [])
  | s :: rest =>
    match s.run? env with
    | some (env, said) => (runAll? env rest).map fun r => (r.1, said ++ r.2)
    | none => none

/-- The variables after the first body whose test holds, and what it outputs. -/
def runOthers? (env : Env) : List (Expr × List Stmt) → Option (Env × List Char)
  | [] => some (env, [])
  | (test, body) :: rest =>
    match test.eval? env with
    | some v => if v.truthy then runAll? env body else runOthers? env rest
    | none => none

end

/-- The variables at the start: the messages alone. -/
def start (ms : List Message) : Env :=
  fun name => if name = "messages" then .messages ms else .undefined

/-- What a template says for the messages of a dialogue. -/
def render? (template : String) (ms : List Message) : Option (List Char) := do
  let program ← read? template.toList
  let (_, said) ← runAll? (start ms) program
  return said

/-- What the tag says that outputs an expression, given what is written for the expression. -/
def outputs? (env : Env) (expression : List Char) : Option (List Char) := do
  let program ← read? ("\x7b\x7b ".toList ++ expression ++ " \x7d\x7d".toList)
  let (_, said) ← runAll? env program
  return said

/-! ## Texts one after the other -/

/-- The text of expressions one after the other. -/
def says? (env : Env) : List Expr → Option (List Char)
  | [] => some []
  | e :: rest =>
    match e.eval? env, says? env rest with
    | some (.text s), some t => some (s ++ t)
    | _, _ => none

theorem says?_cons {env : Env} {e : Expr} {rest : List Expr} {s t : List Char}
    (he : e.eval? env = some (.text s)) (hr : says? env rest = some t) :
    says? env (e :: rest) = some (s ++ t) := by
  rw [says?, he, hr]

theorem says?_append {env : Env} {items items' : List Expr} {s s' : List Char}
    (h : says? env items = some s) (h' : says? env items' = some s') :
    says? env (items ++ items') = some (s ++ s') := by
  induction items generalizing s with
  | nil =>
    obtain rfl : [] = s := by simpa [says?] using h
    exact h'
  | cons e items ih =>
    rw [says?] at h
    split at h
    · rename_i a t he ht
      obtain rfl : a ++ t = s := by simpa using h
      rw [List.cons_append, List.append_assoc]
      exact says?_cons he (ih ht)
    · cases h

theorem eval?_foldl_join {env : Env} {rest : List Expr} {t : List Char}
    (hr : says? env rest = some t) {e : Expr} {s : List Char}
    (he : e.eval? env = some (.text s)) :
    (rest.foldl .join e).eval? env = some (.text (s ++ t)) := by
  induction rest generalizing e s t with
  | nil =>
    obtain rfl : [] = t := by simpa [says?] using hr
    rw [List.append_nil]
    exact he
  | cons f rest ih =>
    rw [says?] at hr
    split at hr
    · rename_i a u hf hu
      obtain rfl : a ++ u = t := by simpa using hr
      have joined : (Expr.join e f).eval? env = some (.text (s ++ a)) := by
        rw [Expr.eval?, he, hf]
        rfl
      rw [List.foldl_cons, ih hu joined, List.append_assoc]
    · cases hr

/-- Expressions joined say what they say one after the other. -/
theorem eval?_joinAll {env : Env} {items : List Expr} {s : List Char}
    (h : says? env items = some s) : (Expr.joinAll items).eval? env = some (.text s) := by
  cases items with
  | nil =>
    obtain rfl : [] = s := by simpa [says?] using h
    rfl
  | cons e rest =>
    rw [says?] at h
    split at h
    · rename_i a t he ht
      obtain rfl : a ++ t = s := by simpa using h
      exact eval?_foldl_join ht he
    · cases h

/-- Texts say the same whatever the variables are. -/
theorem says?_congr {env env' : Env} {items : List Expr} (h : ∀ e ∈ items, ∃ s, e = .text s) :
    says? env items = says? env' items := by
  induction items with
  | nil => rfl
  | cons e items ih =>
    obtain ⟨s, rfl⟩ := h e (List.mem_cons_self ..)
    rw [says?, says?, ih fun f hf => h f (List.mem_cons_of_mem _ hf)]
    rfl

/-! ## Undefined variables -/

theorem eval?_foldl_join_of_none {env : Env} {rest : List Expr} {e : Expr}
    (he : e.eval? env = none) : (rest.foldl .join e).eval? env = none := by
  induction rest generalizing e with
  | nil => exact he
  | cons f rest ih => exact ih (by rw [Expr.eval?, he])

theorem eval?_join_of_undefined {env : Env} {a b : Expr} (ha : a.eval? env = some .undefined) :
    (Expr.join a b).eval? env = none := by
  rw [Expr.eval?, ha]
  cases b.eval? env <;> rfl

theorem eval?_foldl_join_of_undefined {env : Env} {var : Expr} {rest : List Expr}
    (hv : var.eval? env = some .undefined) (hr : ∀ e ∈ rest, e = var ∨ ∃ s, e = .text s)
    (mem : var ∈ rest) {e : Expr} {s : List Char} (he : e.eval? env = some (.text s)) :
    (rest.foldl .join e).eval? env = none := by
  induction rest generalizing e s with
  | nil => cases mem
  | cons f rest ih =>
    rw [List.foldl_cons]
    rcases hr f (List.mem_cons_self ..) with rfl | ⟨u, rfl⟩
    · apply eval?_foldl_join_of_none
      rw [Expr.eval?, he, hv]
      rfl
    · have more : var ∈ rest := by
        rcases List.mem_cons.1 mem with rfl | more
        · cases hv
        · exact more
      have joined : (Expr.join e (.text u)).eval? env = some (.text (s ++ u.toList)) := by
        rw [Expr.eval?, he]
        rfl
      exact ih (fun g hg => hr g (List.mem_cons_of_mem _ hg)) more joined

/-- An undefined variable can only be said alone. -/
theorem eval?_joinAll_of_undefined {env : Env} {var : Expr} {items : List Expr}
    (hv : var.eval? env = some .undefined) (hi : ∀ e ∈ items, e = var ∨ ∃ s, e = .text s)
    (mem : var ∈ items) (joined : items ≠ [var]) : (Expr.joinAll items).eval? env = none := by
  cases items with
  | nil => cases mem
  | cons e rest =>
    rw [Expr.joinAll]
    rcases hi e (List.mem_cons_self ..) with rfl | ⟨s, rfl⟩
    · cases rest with
      | nil => exact absurd rfl joined
      | cons f rest =>
        rw [List.foldl_cons]
        exact eval?_foldl_join_of_none (eval?_join_of_undefined hv)
    · have later : var ∈ rest := by
        rcases List.mem_cons.1 mem with rfl | later
        · cases hv
        · exact later
      exact eval?_foldl_join_of_undefined hv (fun g hg => hi g (List.mem_cons_of_mem _ hg)) later
        rfl

/-! ## Statements one after the other -/

theorem runAll?_cons {env env' : Env} {s : Stmt} {said : List Char}
    (h : s.run? env = some (env', said)) (rest : List Stmt) :
    runAll? env (s :: rest) = (runAll? env' rest).map fun r => (r.1, said ++ r.2) := by
  rw [runAll?, h]

theorem runAll?_single {env : Env} {s : Stmt} {r : Env × List Char} (h : s.run? env = some r) :
    runAll? env [s] = some r := by
  rw [runAll?_cons h, runAll?, Option.map_some, List.append_nil]

theorem runAll?_singleton (env : Env) (s : Stmt) : runAll? env [s] = s.run? env := by
  cases h : s.run? env with
  | none => rw [runAll?, h]
  | some r => exact runAll?_single h

/-- A readable expression is output as its value. -/
theorem outputs?_write {e : Expr} (h : e.Readable) (env : Env) :
    outputs? env e.write = (e.eval? env).bind Value.shown? := by
  have read : read? (writeAll [.output e]) = some [.output e] := read?_writeAll ⟨h, trivial⟩
  rw [writeAll, writeAll, List.append_nil, Stmt.write] at read
  simp only [outputs?, read, Option.bind_eq_bind, Option.bind_some, runAll?_singleton, Stmt.run?]
  cases (e.eval? env).bind Value.shown? <;> rfl

theorem run?_output_eq_some {env env' : Env} {e : Expr} {said : List Char}
    (h : Stmt.run? env (.output e) = some (env', said)) : env' = env := by
  rw [Stmt.run?, Option.map_eq_some_iff] at h
  obtain ⟨s, -, eq⟩ := h
  exact (Prod.mk.inj eq).1.symm

theorem run?_cond {env : Env} {test : Expr} {v : Value} (h : test.eval? env = some v)
    (body : List Stmt) (others : List (Expr × List Stmt)) :
    Stmt.run? env (.cond test body others) =
      if v.truthy then runAll? env body else runOthers? env others := by
  rw [Stmt.run?, h]

theorem runAll?_append {env env' : Env} {p : List Stmt} {said : List Char}
    (h : runAll? env p = some (env', said)) (rest : List Stmt) :
    runAll? env (p ++ rest) = (runAll? env' rest).map fun r => (r.1, said ++ r.2) := by
  induction p generalizing env said with
  | nil =>
    rw [runAll?, Option.some.injEq, Prod.mk.injEq] at h
    obtain ⟨rfl, rfl⟩ := h
    rw [List.nil_append]
    cases runAll? env rest <;> rfl
  | cons s p ih =>
    rw [runAll?] at h
    split at h
    · rename_i env₁ first hs
      rw [Option.map_eq_some_iff] at h
      obtain ⟨⟨env₂, more⟩, hp, eq⟩ := h
      rw [Prod.mk.injEq] at eq
      obtain ⟨rfl, rfl⟩ := eq
      rw [List.cons_append, runAll?_cons hs, ih hp, Option.map_map]
      congr 1
      funext r
      simp
    · cases h

theorem runAll?_append_of_none {env : Env} {p : List Stmt} (h : runAll? env p = none)
    (rest : List Stmt) : runAll? env (p ++ rest) = none := by
  induction p generalizing env with
  | nil => cases h
  | cons s p ih =>
    rw [List.cons_append, runAll?]
    rw [runAll?] at h
    split at h
    · rw [Option.map_eq_none_iff] at h ⊢
      exact ih h
    · rfl

/-- The items of a sequence, each of which says a text. -/
theorem overItems?_of_forall {say? : Nat → Message → Option (List Char)}
    {say : Nat → Message → List Char} (ms : List Message)
    (h : ∀ i, ∀ m ∈ ms, say? i m = some (say i m)) (i : Nat) :
    overItems? say? i ms = some ((ms.zipIdx i).flatMap fun p => say p.2 p.1) := by
  induction ms generalizing i with
  | nil => rfl
  | cons m ms ih =>
    rw [overItems?, h i m (by simp), ih fun j u hu => h j u (List.mem_cons_of_mem _ hu)]
    rfl

end Colloquy.Jinja
