import Colloquy.Files
import Colloquy.Json.Record
import Colloquy.Tokenizer.WordLevel

/-!
# Loading tokenizers

A word tokenizer is described by a JSON object with the version of its format, the splitting, the
vocabulary and the added tokens. A second JSON text may name the tokens with a special role and
hold a chat template.
-/

namespace Colloquy.WordLevel

open Json (Document)

/-- The id that a value holds. -/
def idIn? : Json → Option TokenId
  | .int n => if 0 ≤ n ∧ n < Words.idLimit then some n.toNat else none
  | _ => none

/-- What a description says of a tokenizer. -/
structure Description where
  splitting : Splitting
  tokens : List String
  model : Option (List (String × TokenId) × String)

/-- The way to split that a value names: a string, or an object with the name as its one key and
`null` as its value. -/
def splittingNamed? : Json → Option Splitting
  | .str "Whitespace" => some .words
  | .str "WhitespaceSplit" => some .blanks
  | .obj [("Whitespace", .null)] => some .words
  | .obj [("WhitespaceSplit", .null)] => some .blanks
  | _ => none

/-- The way to split that a description names as a record of one field; nothing named means not to
split. -/
def splitting? : Json → Option Splitting
  | .null => some .whole
  | .arr [kind] => splittingNamed? kind
  | .obj members => (members.lookup "type").bind splittingNamed?
  | _ => none

/-- Whether the members of a model say that it is one of words. A model may leave out its type, but
may not give it twice. -/
def isWordModel (members : List (List Json.Piece × Document)) : Bool :=
  match Document.pickFields? ["type"] [] members with
  | some [] => true
  | some ((_, type) :: _) => type.name? Json.maxNesting = some "WordLevel"
  | none => false

/-- The vocabulary and the word for unknown ones of a model. If one of these is given twice, the
last one counts. -/
def model? (room : Nat) : Document → Option (List (String × TokenId) × String)
  | .obj members => do
    if !isWordModel members then none
    let v ← (Document.obj members).valueWithin? room
    let words ← (v.get? "vocab").bind Json.asObj?
    let vocab ← words.mapM fun w => (idIn? w.2).map fun id => (w.1, id)
    let unknown ← (v.get? "unk_token").bind Json.asStr?
    return (vocab, unknown)
  | _ => none

/-- The fields of an added token that are true or false. -/
def tokenFlags : List String := ["single_word", "lstrip", "rstrip", "normalized", "special"]

/-- The text of an added token, none of whose fields is given twice. -/
def addedToken? (room : Nat) : Document → Option String
  | .obj members => do
    let _ ← Document.pickFields? (["id", "content"] ++ tokenFlags) [] members
    let v ← (Document.obj members).valueWithin? room
    let _ ← (v.get? "id").bind idIn?
    let _ ← tokenFlags.mapM fun flag =>
      match v.get? flag with
      | some (.bool b) => some b
      | _ => none
    (v.get? "content").bind Json.asStr?
  | _ => none

/-- A description with one more member taken in, in which arrays and objects have `room` to nest.
There are no other members than these. -/
def Description.take? (room : Nat) (d : Description) (key : String) (member : Document) :
    Option Description :=
  match key with
  | "version" => if member.text? = some "1.0" then some d else none
  | "added_tokens" => (member.items? room addedToken?).map fun tokens => { d with tokens := tokens }
  | "pre_tokenizer" =>
    ((member.valueWithin? room).bind splitting?).map fun s => { d with splitting := s }
  | "model" => (model? room member).map fun m => { d with model := some m }
  | _ =>
    if key ∈ ["truncation", "padding", "normalizer", "post_processor", "decoder"] then
      match member with
      | .null => some d
      | _ => none
    else none

/-- The description in a document. -/
def Description.ofDocument? : Document → Option Description
  | .obj members =>
    members.foldlM
      (fun d m => do
        let key ← Json.textOf? m.1
        d.take? (Json.maxNesting - 1) key m.2)
      ⟨.whole, [], none⟩
  | _ => none

/-- The tokenizer that a text describes, without special tokens. -/
def parse? (s : String) : Option WordLevel := do
  let d ← (Document.parse? s).bind Description.ofDocument?
  let (vocab, unknown) ← d.model
  let bare : Words := ⟨vocab, unknown, d.splitting, []⟩
  return ⟨bare.addAll d.tokens, SpecialTokens.none, none⟩

/-- A tokenizer with the special tokens and the chat template of a configuration. -/
def configure (tok : WordLevel) (config : Json) : WordLevel :=
  { tok with
    special := SpecialTokens.ofJson config
    chatTemplate := (config.get? "chat_template").bind Json.asStr? }

/-- The name of the file with the configuration, beside that with the description. -/
def configName : String := "tokenizer_config.json"

/-- The tokenizer that a file describes, configured by the file beside it, if there is one. -/
def load (files : Files) (path : String) : Except TokenizerError WordLevel := do
  let text ← (files.read path).mapError (.load path)
  let some tok := parse? text | .error (.load path .malformed)
  let configPath := Path.sibling path configName
  match files configPath with
  | .missing => return tok.configure .null
  | .unreadable => .error (.load configPath .unreadable)
  | .text s =>
    let some config := Json.parse? s | .error (.load configPath .malformed)
    return tok.configure config

end Colloquy.WordLevel
