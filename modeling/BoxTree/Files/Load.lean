import BoxTree.Files.Disk
import BoxTree.Graph.Document
import BoxTree.Markup.Json.Reader
import BoxTree.Markup.Toml.Reader
import BoxTree.Markup.Yaml.Reader
import BoxTree.Tree.Codec

/-! Graphs and trees from files. A file whose name ends in `.json` is read as JSON and any other one as
YAML. -/

namespace BoxTree

namespace Yaml.ReadError

def message : ReadError → String
  | malformed => "malformed document"
  | badScalar reason => reason
  | unknownTruth word => word.displayed
  | emptyNumber => "string index out of range"
  | noDate => "'NoneType' object has no attribute 'groupdict'"
  | oversizedCode => "Python int too large to convert to C int"
  | outOfCalendar => "date value out of range"
  | changingKey kind => s!"unhashable type: '{kind}'"
  | repeatedKey => ""
  | endless => "maximum recursion depth exceeded"

end Yaml.ReadError

inductive DocumentError where
  | missing (message : String)
  | place (error : PlaceError)
  | json (error : Json.Error)
  | yaml (error : Yaml.ReadError)
  | toml (error : Toml.Error)

def DocumentError.message : DocumentError → String
  | missing message => message
  | place error => error.message
  | json error => error.message
  | yaml error => error.message
  | toml error => error.message

inductive GraphLoadError where
  | document (error : DocumentError)
  | schema (issues : List Schema.Issue)

inductive TreeLoadError where
  | document (error : DocumentError)
  | noTree (file : String)
  | decoding (error : TreeDecodeError)

def TreeLoadError.noTreeMessage (file : String) : String :=
  s!"{file} is not a binding-box tree (missing 'nodes')"

namespace Disk

def missingMessage (path : String) : String := s!"File not found: {path}"

def document (disk : Disk) (path : Path) : Except DocumentError Value := do
  match ← (disk.read? path).mapError .place with
  | none => throw (.missing (missingMessage path.text))
  | some text =>
    if path.isJson then (Json.read text).mapError .json else (Yaml.read .strict text).mapError .yaml

/-- The graph in a file; an empty document is an empty graph. -/
def graph (disk : Disk) (path : Path) : Except GraphLoadError DocumentGraph := do
  let document ← (disk.document path).mapError .document
  let fields := if document.isVoid then .map [] else document
  (GraphDocument.read fields).toExcept.mapError .schema

def tree (disk : Disk) (path : Path) : Except TreeLoadError DocumentTree := do
  let document ← (disk.document path).mapError .document
  match document with
  | .map fields =>
    if (Entries.getText? fields "nodes").isSome then (LinearTree.decode document).mapError .decoding
    else .error (.noTree path.name)
  | _ => .error (.noTree path.name)

end Disk
end BoxTree
