import Colloquy.Template.Compile
import Colloquy.Template.Registry

/-!
# Resolving templates

Before a template is used, the tokenizer is prepared for it: a template may put its first stop word
in place of the token that ends a sequence; a tokenizer without such a token, or without one that
pads, gets one; the other stop words become special tokens; and the compiled template becomes the
chat template of the tokenizer, if it compiles and the tokenizer takes it.

Only looking up the template and its stop words can fail, and does so before any change.
-/

namespace Colloquy

/-- The name of the template that is used when none is asked for. -/
def emptyTemplateName : String := "empty"

/-- The token that ends a sequence where the tokenizer has none. -/
def standardEos : String := "<|endoftext|>"

variable {τ : Type} [Tokenizer τ]

namespace Tokenizer

/-- A tokenizer with another token that ends a sequence, if one is given. -/
def endWith (tok : τ) : Option String → τ
  | some token => (setEos tok token).1
  | none => tok

/-- A tokenizer with a token of an id that ends a sequence. -/
def ensureEos (tok : τ) : τ :=
  if (eosId tok).isNone then (setEos tok standardEos).1 else tok

/-- A tokenizer with a token of an id that pads: that which ends a sequence. -/
def ensurePad (tok : τ) : τ :=
  if (padId tok).isNone then
    match eos tok with
    | some token => setPad tok token
    | none => tok
  else tok

/-- A tokenizer with further special tokens. -/
def ensureSpecials (tok : τ) (tokens : List String) : τ :=
  if tokens.isEmpty then tok else (addSpecials tok tokens false).1

/-- A tokenizer with the chat template of a template, where that can be had. -/
def installTemplate (tok : τ) (t : Template) : τ :=
  match t.compile tok with
  | .ok text =>
    match setChatTemplate tok text with
    | .ok tok => tok
    | .error _ => tok
  | .error _ => tok

end Tokenizer

namespace Template

/-- The stop word that ends a sequence and the other stop words. -/
def stops (t : Template) : Except TemplateError (Option String × List String) :=
  if t.replaceEos then
    match t.stopWords with
    | eos :: rest => .ok (some eos, rest)
    | [] => .error (.missingStopWords t.name)
  else .ok (none, t.stopWords)

/-- The tokenizer prepared for a template, given its stop words. -/
def prepare (t : Template) (tok : τ) (eos : Option String) (stopWords : List String) : τ :=
  let ended := Tokenizer.ensureEos (Tokenizer.endWith tok eos)
  Tokenizer.installTemplate (Tokenizer.ensureSpecials (Tokenizer.ensurePad ended) stopWords) t

end Template

/-- The template of a given name, and the tokenizer prepared for it. -/
def Registry.resolve (r : Registry) (tok : τ) (name : Option String) :
    Except TemplateError (Template × τ) := do
  let t ← r.get (name.getD emptyTemplateName)
  let (eos, stopWords) ← t.stops
  return (t, t.prepare tok eos stopWords)

end Colloquy
