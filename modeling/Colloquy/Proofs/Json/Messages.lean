import Colloquy.Dialogue
import Colloquy.Tool.Definition
import Colloquy.Proofs.Json.Records

/-!
# Dialogues, tools and calls as JSON

What is written of a dialogue, of tools and of a call is read back, in whatever layout it is written
(`written_data_read_back`). The parameters of a tool stand in an object in a list, so they may nest
two levels less deep than a text may. A turn may name the role of its speaker by any name the role
has, and a role is read from a JSON string under just these names.
-/

namespace Colloquy

open Json (Document Means SpellsMembers IsRecord Within Exact)

/-! ## Roles -/

namespace Role

/-- The role that a JSON text names. -/
def parse? (s : String) : Option Role :=
  (Document.parse? s).bind (ofDocument? Json.maxNesting)

/-- A role goes by its own name, and that of tool results by another one. -/
def Named (role : Role) (name : String) : Prop :=
  name = role.name ∨ name = "tool" ∧ role = .observation

theorem ofName?_eq_some_iff {name : String} {role : Role} :
    ofName? name = some role ↔ role.Named name := by
  constructor
  · intro found
    unfold ofName? at found
    split_ifs at found with user assistant system function observation
    all_goals cases found
    · exact .inl user
    · exact .inl assistant
    · exact .inl system
    · exact .inl function
    · exact observation.imp_right fun tool => ⟨tool, rfl⟩
  · rintro (rfl | ⟨rfl, rfl⟩)
    · exact ofName?_name role
    · rfl

theorem ofDocument?_of_means {d : Document} {name : String} (h : Means d (.str name))
    (room : Nat) : ofDocument? room d = ofName? name := by
  rw [ofDocument?, Json.name?_of_means h, Option.bind_some]

theorem parse?_write_str (name : String) (layout : Json.Layout) :
    parse? ((Json.str name).write layout) = ofName? name := by
  obtain ⟨d, parsed, means⟩ := Document.parse?_write (.str name)
    (Json.readsBack (.str name) layout)
  rw [parse?, parsed, Option.bind_some, ofDocument?_of_means means]

end Role

/-! ## Turns -/

namespace Turn

/-- A turn as a JSON object, its role under some name. -/
def toJsonAs (name : String) (t : Turn) : Json :=
  .obj [("role", .str name), ("content", .str t.content)]

theorem toJson_eq (t : Turn) : t.toJson = t.toJsonAs t.role.name := rfl

theorem isRecord_toJsonAs (name : String) (t : Turn) : IsRecord fieldNames (t.toJsonAs name) := by
  refine ⟨by decide, _, rfl, rfl, ?_⟩
  exact List.forall_mem_cons.2 ⟨.str name, List.forall_mem_singleton.2 (.str t.content)⟩

theorem ofDocument?_of_spells {d : Document} {name : String} {t : Turn}
    (h : SpellsMembers d (t.toJsonAs name)) {room : Nat} (pos : 0 < room) :
    ofDocument? room d = (Role.ofName? name).map fun role => ⟨role, t.content⟩ := by
  obtain ⟨fields, read, found⟩ := Json.fields?_of_spells fieldNames h rfl (by decide) pos
  obtain ⟨role, hrole, role_means⟩ := found "role" (.str name) rfl
  obtain ⟨content, hcontent, content_means⟩ := found "content" (.str t.content) rfl
  simp only [ofDocument?, read, hrole, Document.textField?, hcontent, Option.bind_eq_bind,
    Option.bind_some, Role.ofDocument?_of_means role_means, Json.text?_of_means content_means]
  cases Role.ofName? name <;> rfl

/-- Turns are read back if and only if each gives its role a name that the role has. -/
theorem parseList?_write_iff (said : List (String × Turn)) (layout : Json.Layout) :
    parseList? ((Json.arr (said.map fun p => p.2.toJsonAs p.1)).write layout) =
      some (said.map Prod.snd) ↔ ∀ p ∈ said, p.2.role.Named p.1 := by
  have room : 0 < Json.maxNesting - 1 := by decide
  have read := Json.items?_write (l := said) ofDocument? _ (fun p _ => isRecord_toJsonAs p.1 p.2)
    (fun d p _ spells => ofDocument?_of_spells spells room) layout
  rw [parseList?, show listOfDocument? = (·.items? Json.maxNesting ofDocument?) from rfl, read,
    Json.mapM_eq_some_map_iff]
  refine forall₂_congr fun p _ => ?_
  rw [← Role.ofName?_eq_some_iff, Option.map_eq_some_iff]
  constructor
  · rintro ⟨role, found, same⟩
    rw [found, ← same]
  · exact fun found => ⟨_, found, rfl⟩

/-- A document that is read as a turn names the role so. -/
def NamesRole (room : Nat) (d : Document) (name : String) : Prop :=
  ∃ fields role, d.fields? fieldNames room = some fields ∧ fields.lookup "role" = some role ∧
    role.name? (room - 1) = some name

theorem named_of_namesRole {room : Nat} {d : Document} {t : Turn} {name : String}
    (read : ofDocument? room d = some t) (names : NamesRole room d name) :
    t.role.Named name := by
  obtain ⟨fields, role, hfields, hrole, named⟩ := names
  simp only [ofDocument?, hfields, hrole, Role.ofDocument?, named, Option.bind_eq_bind,
    Option.bind_some, Option.bind_eq_some_iff, Option.pure_def, Option.some.injEq] at read
  obtain ⟨r, found, content, -, rfl⟩ := read
  exact Role.ofName?_eq_some_iff.1 found

end Turn

/-! ## Tools and calls -/

namespace Tool

namespace Definition

/-- Tools as a JSON array. -/
def listToJson (tools : List Definition) : Json :=
  .arr (tools.map toJson)

theorem isRecord_toJson {t : Definition} (exact : t.parameters.Exact) :
    IsRecord fieldNames t.toJson := by
  refine ⟨by decide, _, rfl, rfl, ?_⟩
  exact List.forall_mem_cons.2 ⟨.str t.name,
    List.forall_mem_cons.2 ⟨.str t.description, List.forall_mem_singleton.2 exact⟩⟩

theorem ofDocument?_of_spells {d : Document} {t : Definition} (h : SpellsMembers d t.toJson)
    {room : Nat} (fits : t.parameters.depth < room) : ofDocument? room d = some t := by
  obtain ⟨fields, read, found⟩ :=
    Json.fields?_of_spells fieldNames h rfl (by decide) (Nat.zero_lt_of_lt fits)
  obtain ⟨name, hname, name_means⟩ := found "name" (.str t.name) rfl
  obtain ⟨text, htext, text_means⟩ := found "description" (.str t.description) rfl
  obtain ⟨schema, hschema, schema_means⟩ := found "parameters" t.parameters rfl
  simp only [ofDocument?, read, Document.textField?, Document.textFieldOrEmpty?,
    Document.valueFieldOrNull?, hname, htext, hschema, Option.bind_eq_bind, Option.bind_some,
    Json.text?_of_means name_means, Json.text?_of_means text_means,
    schema_means (room - 1) (Nat.le_sub_one_of_lt fits)]
  rfl

theorem within_of_ofDocument? {d : Document} {t : Definition} {room : Nat}
    (read : ofDocument? room d = some t) : Within (room - 1) t.parameters := by
  simp only [ofDocument?, Option.bind_eq_bind, Option.bind_eq_some_iff, Option.pure_def,
    Option.some.injEq] at read
  obtain ⟨fields, -, name, -, text, -, schema, found, rfl⟩ := read
  unfold Document.valueFieldOrNull? at found
  split at found
  · exact Json.within_of_valueWithin? _ found
  · cases found
    exact .null

/-- Parameters that are read have distinct keys and nest no deeper than there is room for. -/
theorem within_of_parseList? {manifest : String} {tools : List Definition}
    (read : parseList? manifest = some tools) {t : Definition} (ht : t ∈ tools) :
    Within 125 t.parameters := by
  obtain ⟨d, -, items⟩ := Option.bind_eq_some_iff.1 read
  unfold Document.items? at items
  split at items
  · split at items
    · cases items
    · obtain ⟨item, -, item_read⟩ := Json.exists_of_mem_mapM items ht
      exact within_of_ofDocument? item_read
  · cases items

/-- Tools are read back if and only if their parameters do not nest too deep. -/
theorem parseList?_write_iff {tools : List Definition} (exact : ∀ t ∈ tools, t.parameters.Exact)
    (layout : Json.Layout) : parseList? ((listToJson tools).write layout) = some tools ↔
      ∀ t ∈ tools, t.parameters.depth ≤ 125 := by
  constructor
  · exact fun read t ht => (within_of_parseList? read ht).depth_le
  · intro fits
    have read := Json.items?_write ofDocument? some (fun t ht => isRecord_toJson (exact t ht))
      (fun d t ht spells => ofDocument?_of_spells spells (Nat.lt_succ_of_le (fits t ht))) layout
    have all : tools.mapM some = some (tools.map id) := Json.mapM_eq_some_map_iff.2 fun _ _ => rfl
    rw [parseList?, listToJson, read, all, List.map_id]

end Definition

namespace Call

theorem parse?_write_toJson (c : Call) (layout : Json.Layout) :
    parse? (c.toJson.write layout) = some c := by
  have record : IsRecord fieldNames c.toJson := by
    refine ⟨by decide, _, rfl, rfl, ?_⟩
    exact List.forall_mem_cons.2 ⟨.str c.name, List.forall_mem_singleton.2 (.str c.arguments)⟩
  obtain ⟨d, parsed, spells⟩ := Document.parse?_write record.exact (record.readsAs layout)
  obtain ⟨fields, read, found⟩ :=
    Json.fields?_of_spells fieldNames spells rfl (by decide)
      (show 0 < Json.maxNesting by decide)
  obtain ⟨name, hname, name_means⟩ := found "name" (.str c.name) rfl
  obtain ⟨args, hargs, args_mean⟩ := found "arguments" (.str c.arguments) rfl
  simp only [parse?, parsed, Option.bind_some, ofDocument?, read, Document.textField?, hname, hargs,
    Option.bind_eq_bind, Json.text?_of_means name_means, Json.text?_of_means args_mean]
  rfl

end Call

end Tool

/-! ## All of them -/

/-- What is written of a dialogue, of tools and of a call is read back as it was, tools as long as
their parameters do not nest too deep. A role is found under its names and no others, be the name
given as it is or as a JSON string, and so it is in a turn. A turn that was read under the other
name of its role is written under the first. -/
theorem written_data_read_back (layout : Json.Layout) :
    (∀ turns : List Turn, Turn.parseList? ((Turn.listToJson turns).write layout) = some turns) ∧
    (∀ tools : List Tool.Definition, (∀ t ∈ tools, t.parameters.Exact) →
      (Tool.Definition.parseList? ((Tool.Definition.listToJson tools).write layout) = some tools ↔
        ∀ t ∈ tools, t.parameters.depth ≤ 125)) ∧
    (∀ call : Tool.Call, Tool.Call.parse? (call.toJson.write layout) = some call) ∧
    (∀ (name : String) (role : Role), (Role.ofName? name = some role ↔ role.Named name) ∧
      (Role.parse? ((Json.str name).write layout) = some role ↔ role.Named name)) ∧
    (∀ said : List (String × Turn),
      Turn.parseList? ((Json.arr (said.map fun p => p.2.toJsonAs p.1)).write layout) =
        some (said.map Prod.snd) ↔ ∀ p ∈ said, p.2.role.Named p.1) ∧
    ∀ (room : Nat) (d : Document) (t : Turn), Turn.ofDocument? room d = some t →
      Turn.NamesRole room d "tool" → t.toJson = t.toJsonAs "observation" := by
  refine ⟨fun turns => ?_, fun tools exact => Tool.Definition.parseList?_write_iff exact layout,
    fun call => call.parse?_write_toJson layout, fun name role => ⟨Role.ofName?_eq_some_iff, ?_⟩,
    fun said => Turn.parseList?_write_iff said layout, fun room d t read names => ?_⟩
  · have named := (Turn.parseList?_write_iff (turns.map fun t => (t.role.name, t)) layout).2
    simp only [List.forall_mem_map, List.map_map] at named
    have back := named fun t _ => .inl rfl
    rwa [show Prod.snd ∘ (fun t : Turn => (t.role.name, t)) = id from rfl, List.map_id] at back
  · rw [Role.parse?_write_str, Role.ofName?_eq_some_iff]
  · have observation : t.role = .observation := by
      rcases Turn.named_of_namesRole read names with own | ⟨-, other⟩
      · cases role : t.role <;> rw [role] at own <;> exact absurd own (by decide)
      · exact other
    rw [Turn.toJson_eq, observation]
    rfl

/-- A tool with quotation marks in what is said of it and the largest number in its schema. -/
def quotingTool : Tool.Definition where
  name := "quote"
  description := "Say \"hi\"\n"
  parameters := .obj [("type", .str "object"), ("limits", .arr [.int 0xffffffffffffffff])]

/-- The tool is read back, and the answer of a tool is written under the first name of its role,
though it was read from an array under the other. -/
theorem written_data_read_back_quoting :
    Tool.Definition.parseList? ((Tool.Definition.listToJson [quotingTool]).write .compact) =
        some [quotingTool] ∧
      Turn.ofDocument? 1 (.arr [.str ("tool".toList.map .char), .str []]) =
        some ⟨.observation, ""⟩ ∧
      Turn.toJson ⟨.observation, ""⟩ = Turn.toJsonAs "observation" ⟨.observation, ""⟩ := by
  obtain ⟨-, tools, -, -, -, aliased⟩ := written_data_read_back .compact
  have exact : ∀ t ∈ [quotingTool], t.parameters.Exact := by
    have limits : Json.Exact (.arr [.int 0xffffffffffffffff]) :=
      .arr (List.forall_mem_singleton.2 (.int (by decide) (by decide)))
    exact List.forall_mem_singleton.2
      (.obj (by decide) (List.forall_mem_cons.2 ⟨.str _, List.forall_mem_singleton.2 limits⟩))
  have read : Turn.ofDocument? 1 (.arr [.str ("tool".toList.map .char), .str []]) =
      some ⟨.observation, ""⟩ := by decide
  exact ⟨(tools _ exact).2 (by decide), read, aliased _ _ _ read ⟨_, _, rfl, rfl, by decide⟩⟩

end Colloquy
