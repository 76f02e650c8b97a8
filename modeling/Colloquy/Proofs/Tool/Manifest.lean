import Colloquy.Proofs.Json.Messages
import Colloquy.Tool.Format

/-!
# Tools told of in running text

What a model is told of the tools in a manifest, said without the functions that tell it. There is a
block for each tool (`TellsOfTool`), with a line for each of its parameters (`TellsOfParameter`), in
which some parts stand only if the schema gives them: that a call has to name the parameter
(`TellsRequired`), its choices (`TellsChoices`) and its items (`TellsItems`).

Each of these conditions is met by one text, whatever values stand in the schema where others are
expected, and this text is what is told (`render_general_tells`).
-/

namespace Colloquy.Tool

/-- A tool requires a parameter if its name is among the strings listed under `required`. -/
def Definition.Requires (t : Definition) (name : String) : Prop :=
  ∃ names, t.parameters.get? "required" = some (.arr names) ∧ Json.str name ∈ names

theorem Definition.mem_required_iff {t : Definition} {name : String} :
    name ∈ t.required ↔ t.Requires name := by
  unfold required Requires
  cases found : t.parameters.get? "required" with
  | none => simp
  | some v =>
    cases v with
    | arr names =>
      simp only [Option.bind_some, Json.asArr?, List.mem_filterMap, Option.some.injEq,
        Json.arr.injEq, exists_eq_left']
      constructor
      · rintro ⟨v, hv, text⟩
        cases v <;> cases text
        exact hv
      · exact fun listed => ⟨_, listed, rfl⟩
    | null | bool | int | float | str | obj => simp [Json.asArr?]

namespace Format

/-! ## What is told of a parameter -/

/-- The string under a key; the empty text where there is none. -/
inductive TextUnder (key : String) (v : Json) : String → Prop
  | string {s : String} (h : v.get? key = some (.str s)) : TextUnder key v s
  | other (h : ∀ s, v.get? key ≠ some (.str s)) : TextUnder key v ""

/-- Whether a call has to give a parameter. -/
inductive TellsRequired (t : Definition) (name : String) : String → Prop
  | required (h : t.Requires name) : TellsRequired t name ", required"
  | free (h : ¬ t.Requires name) : TellsRequired t name ""

/-- The choices for a parameter, where there are some. -/
inductive TellsChoices (schema : Json) : String → Prop
  | listed {v : Json} {rest : List Json} (h : schema.get? "enum" = some (.arr (v :: rest))) :
    TellsChoices schema
      (", should be one of [" ++ ", ".intercalate ((v :: rest).map plain) ++ "]")
  | none (h : ∀ v rest, schema.get? "enum" ≠ some (.arr (v :: rest))) : TellsChoices schema ""

/-- The values that say nothing. -/
inductive Vacuous : Json → Prop
  | null : Vacuous .null
  | false : Vacuous (.bool false)
  | str : Vacuous (.str "")
  | arr : Vacuous (.arr [])
  | obj : Vacuous (.obj [])

/-- The kind of the items of a parameter, where something stands there. -/
inductive TellsItems (schema : Json) : String → Prop
  | given {items : Json} {kind : String} (h : schema.get? "items" = some items)
      (full : ¬ Vacuous items) (text : TextUnder "type" items kind) :
    TellsItems schema (", where each item should be " ++ kind)
  | none (h : ∀ items, schema.get? "items" = some items → Vacuous items) : TellsItems schema ""

/-- The line for one parameter. -/
inductive TellsOfParameter (t : Definition) (name : String) (schema : Json) : String → Prop
  | line {kind marker text choices items : String} (kind_text : TextUnder "type" schema kind)
      (required : TellsRequired t name marker) (description : TextUnder "description" schema text)
      (choice : TellsChoices schema choices) (item : TellsItems schema items) :
    TellsOfParameter t name schema
      ("  - " ++ name ++ " (" ++ kind ++ marker ++ "): " ++ text ++ choices ++ items ++ "\n")

section

variable {key name a b : String} {v schema : Json} {t : Definition}

theorem TextUnder.unique (ha : TextUnder key v a) (hb : TextUnder key v b) : a = b := by
  rcases ha with here | other <;> rcases hb with here' | other'
  · exact Json.str.inj (Option.some.inj (here.symm.trans here'))
  · exact absurd here (other' _)
  · exact absurd here' (other _)
  · rfl

theorem textUnder_textMember (key : String) (v : Json) : TextUnder key v (textMember key v) := by
  unfold textMember
  cases found : v.get? key with
  | none => exact .other (by simp [found])
  | some u =>
    cases u with
    | str s => exact .string found
    | null | bool | int | float | arr | obj => exact .other (by simp [found])

theorem TellsRequired.unique (ha : TellsRequired t name a) (hb : TellsRequired t name b) :
    a = b := by
  rcases ha with required | free <;> rcases hb with required' | free'
  · rfl
  · exact absurd required free'
  · exact absurd required' free
  · rfl

theorem tellsRequired_marker (t : Definition) (name : String) :
    TellsRequired t name (if name ∈ t.required then ", required" else "") := by
  split
  · exact .required (Definition.mem_required_iff.1 ‹_›)
  · exact .free fun required => ‹name ∉ _› (Definition.mem_required_iff.2 required)

theorem TellsChoices.unique (ha : TellsChoices schema a) (hb : TellsChoices schema b) : a = b := by
  rcases ha with listed | none <;> rcases hb with listed' | none'
  · obtain ⟨rfl, rfl⟩ := List.cons.inj (Json.arr.inj (Option.some.inj (listed.symm.trans listed')))
    rfl
  · exact absurd listed (none' _ _)
  · exact absurd listed' (none _ _)
  · rfl

theorem tellsChoices_choices (schema : Json) : TellsChoices schema (choices schema) := by
  unfold choices
  cases found : schema.get? "enum" with
  | none => exact .none (by simp [found])
  | some u =>
    cases u with
    | arr values =>
      cases values with
      | nil => exact .none (by simp [found])
      | cons v rest => exact .listed found
    | null | bool | int | float | str | obj => exact .none (by simp [found])

theorem vacuous_iff : Vacuous v ↔ saysNothing v = true := by
  constructor
  · rintro (_ | _ | _ | _ | _) <;> rfl
  · intro nothing
    cases v with
    | null => exact .null
    | bool b =>
      cases b with
      | false => exact .false
      | true => cases nothing
    | str s =>
      rw [saysNothing, String.isEmpty_iff] at nothing
      exact nothing ▸ .str
    | arr items =>
      cases items with
      | nil => exact .arr
      | cons => cases nothing
    | obj members =>
      cases members with
      | nil => exact .obj
      | cons => cases nothing
    | int | float => cases nothing

theorem TellsItems.unique (ha : TellsItems schema a) (hb : TellsItems schema b) : a = b := by
  rcases ha with ⟨found, full, kind⟩ | none <;> rcases hb with ⟨found', full', kind'⟩ | none'
  · obtain rfl := Option.some.inj (found.symm.trans found')
    rw [kind.unique kind']
  · exact absurd (none' _ found) full
  · exact absurd (none _ found') full'
  · rfl

theorem tellsItems_itemKind (schema : Json) : TellsItems schema (itemKind schema) := by
  unfold itemKind
  cases found : schema.get? "items" with
  | none => exact .none (by simp [found])
  | some items =>
    dsimp only
    split
    · refine .none fun u hu => ?_
      rw [found] at hu
      exact vacuous_iff.2 (Option.some.inj hu ▸ ‹_›)
    · exact .given found (fun vacuous => ‹¬ _› (vacuous_iff.1 vacuous)) (textUnder_textMember _ _)

theorem TellsOfParameter.unique (ha : TellsOfParameter t name schema a)
    (hb : TellsOfParameter t name schema b) : a = b := by
  obtain ⟨kind, required, text, choices, items⟩ := ha
  obtain ⟨kind', required', text', choices', items'⟩ := hb
  rw [kind.unique kind', required.unique required', text.unique text', choices.unique choices',
    items.unique items']

theorem tellsOfParameter_parameterLine (t : Definition) (name : String) (schema : Json) :
    TellsOfParameter t name schema (parameterLine t.required name schema) :=
  .line (textUnder_textMember _ _) (tellsRequired_marker t name) (textUnder_textMember _ _)
    (tellsChoices_choices schema) (tellsItems_itemKind schema)

end

/-! ## What is told of a tool -/

/-- The lines for the parameters of a tool, in the order of its schema; none where it has no object
of them. -/
inductive TellsOfParameters (t : Definition) : List String → Prop
  | lines {properties : List (String × Json)} {lines : List String}
      (h : t.parameters.get? "properties" = some (.obj properties))
      (each : List.Forall₂ (fun p => TellsOfParameter t p.1 p.2) properties lines) :
    TellsOfParameters t lines
  | none (h : ∀ properties, t.parameters.get? "properties" ≠ some (.obj properties)) :
    TellsOfParameters t []

/-- The block for one tool. -/
inductive TellsOfTool (t : Definition) : String → Prop
  | block {lines : List String} (parameters : TellsOfParameters t lines) :
    TellsOfTool t ("> Tool Name: " ++ t.name ++ "\nTool Description: " ++ t.description ++
      "\nTool Args:\n" ++ String.join lines ++ "\n")

theorem TellsOfParameters.unique {t : Definition} {l l' : List String}
    (h : TellsOfParameters t l) (h' : TellsOfParameters t l') : l = l' := by
  rcases h with ⟨found, each⟩ | none <;> rcases h' with ⟨found', each'⟩ | none'
  · obtain rfl := Json.obj.inj (Option.some.inj (found.symm.trans found'))
    have one : Relator.RightUnique fun (p : String × Json) => TellsOfParameter t p.1 p.2 :=
      fun _ _ _ ha hb => ha.unique hb
    exact List.right_unique_forall₂' one each each'
  · exact absurd found (none' _)
  · exact absurd found' (none _)
  · rfl

theorem exists_tellsOfParameters (t : Definition) :
    ∃ lines, TellsOfParameters t lines ∧ parameterLines t = String.join lines := by
  unfold parameterLines
  cases found : t.parameters.get? "properties" with
  | none => exact ⟨[], .none (by simp [found]), rfl⟩
  | some u =>
    cases u with
    | obj properties =>
      refine ⟨_, .lines found ?_, rfl⟩
      rw [List.forall₂_map_right_iff, List.forall₂_same]
      exact fun p _ => tellsOfParameter_parameterLine t p.1 p.2
    | null | bool | int | float | str | arr => exact ⟨[], .none (by simp [found]), rfl⟩

theorem TellsOfTool.unique {t : Definition} {a b : String} (ha : TellsOfTool t a)
    (hb : TellsOfTool t b) : a = b := by
  obtain ⟨told⟩ := ha
  obtain ⟨told'⟩ := hb
  rw [told.unique told']

theorem tellsOfTool_toolBlock (t : Definition) : TellsOfTool t (toolBlock t) := by
  obtain ⟨lines, told, joined⟩ := exists_tellsOfParameters t
  unfold toolBlock
  rw [joined]
  exact .block told

theorem tellsOfTool_iff {t : Definition} {block : String} :
    TellsOfTool t block ↔ block = toolBlock t :=
  ⟨fun told => told.unique (tellsOfTool_toolBlock t), fun h => h ▸ tellsOfTool_toolBlock t⟩

/-! ## Manifests -/

theorem render_general_of_nil {manifest : String}
    (h : Definition.parseList? manifest = none ∨ Definition.parseList? manifest = some []) :
    general.render manifest = "" := by
  rcases h with h | h <;> rw [render, h] <;> rfl

theorem render_general_of_tools {manifest : String} {tools : List Definition}
    (read : Definition.parseList? manifest = some tools) (ne : tools ≠ []) :
    general.render manifest =
      generalHead ++ String.join (tools.map toolBlock) ++ generalTail (tools.map (·.name)) := by
  obtain ⟨t, rest, rfl⟩ := List.exists_cons_of_ne_nil ne
  rw [render, read]
  rfl

theorem generalHead_append_ne (s : String) : generalHead ++ s ≠ "" := by
  intro empty
  have none := congrArg String.toList empty
  rw [String.toList_append] at none
  exact absurd (List.append_eq_nil_iff.1 none).1 (by decide)

theorem exists_generalTail : ∃ before after : String, ∀ names,
    generalTail names = before ++ ", ".intercalate names ++ after :=
  ⟨_, _, fun _ => String.append_assoc⟩

/-- Nothing is told of a text that lists no tools. Otherwise the fixed head comes first, then a
block for each tool, which is the one text that tells of it, whatever other tools there are, and
last the names in the fixed tail. The parameters that have lines in a block have different names. -/
theorem render_general_tells :
    ∃ (block : Definition → String) (before after : String),
      (∀ t text, TellsOfTool t text ↔ text = block t) ∧
      ∀ manifest, (general.render manifest = "" ↔
          Definition.parseList? manifest = none ∨ Definition.parseList? manifest = some []) ∧
        ∀ tools, Definition.parseList? manifest = some tools → tools ≠ [] →
          general.render manifest = generalHead ++ String.join (tools.map block) ++
            (before ++ ", ".intercalate (tools.map (·.name)) ++ after) ∧
          ∀ t ∈ tools, ∀ properties, t.parameters.get? "properties" = some (.obj properties) →
            (properties.map Prod.fst).Nodup := by
  obtain ⟨before, after, tail⟩ := exists_generalTail
  refine ⟨toolBlock, before, after, fun _ _ => tellsOfTool_iff, fun manifest => ⟨⟨fun empty => ?_,
    render_general_of_nil⟩, fun tools read ne => ⟨?_, fun t ht properties found => ?_⟩⟩⟩
  · cases read : Definition.parseList? manifest with
    | none => exact .inl rfl
    | some tools =>
      by_cases ne : tools = []
      · exact .inr (congrArg some ne)
      · rw [render_general_of_tools read ne, String.append_assoc] at empty
        exact absurd empty (generalHead_append_ne _)
  · rw [render_general_of_tools read ne, tail]
  · cases (Definition.within_of_parseList? read ht).get? found with
    | obj distinct => exact distinct

/-- A tool whose schema has a number among the required names, and a number for a parameter. -/
def searchTool : Definition where
  name := "search"
  description := "Search"
  parameters := .obj
    [("required", .arr [.str "query", .int 7]),
      ("properties", .obj
        [("query", .obj [("type", .str "string"), ("enum", .arr [.str "a", .bool true])]),
          ("limit", .int 3),
          ("tags", .obj [("type", .str "array"), ("items", .obj [("type", .str "string")])])])]

theorem exact_searchTool : searchTool.parameters.Exact := by
  have string : Json.Exact (.obj [("type", .str "string")]) :=
    .obj (by decide) (List.forall_mem_singleton.2 (.str _))
  have choices : Json.Exact (.arr [.str "a", .bool true]) :=
    .arr (List.forall_mem_cons.2 ⟨.str _, List.forall_mem_singleton.2 (.bool _)⟩)
  have query : Json.Exact (.obj [("type", .str "string"), ("enum", .arr [.str "a", .bool true])]) :=
    .obj (by decide) (List.forall_mem_cons.2 ⟨.str _, List.forall_mem_singleton.2 choices⟩)
  have limit : Json.Exact (.int 3) := .int (by decide) (by decide)
  have tags : Json.Exact
      (.obj [("type", .str "array"), ("items", .obj [("type", .str "string")])]) :=
    .obj (by decide) (List.forall_mem_cons.2 ⟨.str _, List.forall_mem_singleton.2 string⟩)
  have names : Json.Exact (.arr [.str "query", .int 7]) :=
    .arr (List.forall_mem_cons.2
      ⟨.str _, List.forall_mem_singleton.2 (.int (by decide) (by decide))⟩)
  refine .obj (by decide) (List.forall_mem_cons.2 ⟨names, List.forall_mem_singleton.2 ?_⟩)
  exact .obj (by decide) (List.forall_mem_cons.2
    ⟨query, List.forall_mem_cons.2 ⟨limit, List.forall_mem_singleton.2 tags⟩⟩)

/-- What is told of the tool, also of the parameter that is a number. -/
def searchBlock : String :=
  "> Tool Name: search\nTool Description: Search\nTool Args:\n" ++
    "  - query (string, required): , should be one of [a, true]\n  - limit (): \n" ++
    "  - tags (array): , where each item should be string\n\n"

/-- The manifest that lists this tool is rendered with just this block. -/
theorem render_general_tells_search :
    Definition.parseList? ((Definition.listToJson [searchTool]).write .compact) =
        some [searchTool] ∧
      [searchTool] ≠ [] ∧ TellsOfTool searchTool searchBlock ∧
      ∃ before after, general.render ((Definition.listToJson [searchTool]).write .compact) =
        generalHead ++ searchBlock ++ (before ++ "search" ++ after) := by
  have read := (Definition.parseList?_write_iff
    (List.forall_mem_singleton.2 exact_searchTool) .compact).2 (by decide)
  have told : TellsOfTool searchTool searchBlock := tellsOfTool_iff.2 (by decide +kernel)
  obtain ⟨block, before, after, one, all⟩ := render_general_tells
  have rendered := ((all _).2 _ read (List.cons_ne_nil _ _)).1
  refine ⟨read, List.cons_ne_nil _ _, told, before, after, ?_⟩
  rw [rendered, (one _ _).1 told]
  rfl

end Format

end Colloquy.Tool
