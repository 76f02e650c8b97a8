import Colloquy.Template.Basic
import Colloquy.Error

/-!
# Registries

A registry holds templates by their names, in the order of the names. Registering a template under
a name that is taken replaces the earlier one.
-/

namespace Colloquy

/-- Templates in ascending order of their names. -/
structure Registry where
  templates : List Template
deriving DecidableEq, Repr

namespace Registry

/-- A registry without templates. -/
def empty : Registry := ⟨[]⟩

/-- Templates in order of their names with one more in its place. -/
def insertSorted (t : Template) : List Template → List Template
  | [] => [t]
  | u :: rest =>
    if t.name < u.name then t :: u :: rest
    else if t.name = u.name then t :: rest
    else u :: insertSorted t rest

/-- A registry with one more template, which replaces one of the same name. -/
def insert (r : Registry) (t : Template) : Registry :=
  ⟨insertSorted t r.templates⟩

/-- The registry of some templates, of which later ones replace earlier ones. -/
def ofList (ts : List Template) : Registry :=
  ts.foldl insert empty

/-- The template of a given name. -/
def find? (r : Registry) (name : String) : Option Template :=
  r.templates.find? (·.name = name)

/-- The template of a given name. -/
def get (r : Registry) (name : String) : Except TemplateError Template :=
  match r.find? name with
  | some t => .ok t
  | none => .error (.notFound name)

/-- The names of all templates. -/
def names (r : Registry) : List String :=
  r.templates.map (·.name)

/-- The number of templates. -/
def size (r : Registry) : Nat :=
  r.templates.length

end Registry

end Colloquy
