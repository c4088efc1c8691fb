import BoxTree.Command.Documents
import BoxTree.Compile.Document
import BoxTree.Log.Notice
import BoxTree.Tree.Compose

/-! The commands. -/

namespace BoxTree.Command

def shortDigest (digest : String) : String := (digest.take 12).toString

def graphHint : String :=
  "Check for cycles, gates with the wrong number of children, and nodes no root reaches."

namespace Run

def compilation (surroundings : Surroundings) (general : General) (path : Path) (settings : Option Path) :
    Run (DocumentGraph × Compilation Wording Fields) := do
  let settings ← Run.settings surroundings general settings
  let graph ← Run.graph surroundings path
  let result ← ofExcept .lookup (graph.compile settings.compiler)
  putAll ((result.logLines (← get).log path.text).map .log)
  return (graph, result)

def compile (surroundings : Surroundings) (general : General) (path : Path) (settings output : Option Path)
    (allowPartial : Bool) : Run Unit := do
  let (_, result) ← compilation surroundings general path settings
  putAll (result.warnings.map fun warning => .notice s!"Warning: {warning.message.displayed}")
  unless result.isOk do
    put (.panel
      { title := "Graph Compilation Failed"
        message := s!"{result.errors.length} error(s) kept part of the graph from compiling"
        details := some (result.errors.map (·.message.displayed))
        hint := some graphHint })
    unless allowPartial do throw .refused
  deliver surroundings (← ofExcept .canonical result.encode.canonical) output

def validate (surroundings : Surroundings) (general : General) (path : Path) (settings : Option Path) :
    Run Unit := do
  let (graph, result) ← compilation surroundings general path settings
  match result.failure? with
  | some message => refuse { title := "Graph Compilation Failed", message := message.displayed, hint := some graphHint }
  | none =>
    put (.line "✅ Graph valid!")
    put (.line s!"  Nodes: {graph.nodes.length} ({result.disconnected.length} disconnected)")
    put (.line s!"  Edges: {graph.edges.length} ({result.warnings.length} skipped)")
    result.trees.forM fun compiled => do
      let digest ← ofExcept .canonical compiled.tree.encode.fingerprint
      put (.line
        s!"  Tree rooted at {compiled.root.displayed}: {compiled.tree.length} nodes, hash {shortDigest digest}")

def classify (source target : Bool) : Run Unit :=
  put (.line (DependencyType.ofMultiple source target).name)

def nodeLabel : TreeNode Fields → String
  | .box content _ => s!"Box ({content.length} field(s))"
  | .and _ _ => "AND"
  | .or _ _ => "OR"
  | .not _ => "NOT"

/-- The row of a node: its children by position and edge name. -/
def nodeRow (tree : DocumentTree) (unnamed : String) (position : Nat) (node : TreeNode Fields) :
    String × String × String :=
  let children := node.children.map fun child => s!"{child} [{(tree.edgeName unnamed position child).displayed}]"
  (toString position, nodeLabel node, if children.isEmpty then "-" else ", ".intercalate children)

def table (tree : DocumentTree) (title unnamed : String) : Table where
  title := title
  rows := tree.nodes.zipIdx.map fun (node, position) => nodeRow tree unnamed position node

def inspect (surroundings : Surroundings) (general : General) (path : Path) (settings : Option Path)
    (asJson : Bool) : Run Unit := do
  let settings ← Run.settings surroundings general settings
  let tree ← Run.tree surroundings path
  let document := tree.encode
  if asJson then put (.line (← ofExcept .canonical document.canonical))
  else
    let digest ← ofExcept .canonical document.fingerprint
    let title := s!"{path.name} ({tree.length} nodes, hash {shortDigest digest})"
    let table := table tree title settings.compiler.unnamedEdgePrefix
    put (.table table)
    table.rows.forM fun (_, _, children) => ofExcept .tag (Tag.check children)

def combine (surroundings : Surroundings) (left right : Path) (leftName rightName : String)
    (output : Option Path) : Run Unit := do
  let left ← tree surroundings left
  let right ← tree surroundings right
  match LinearTree.combineOr leftName left rightName right with
  | none => refuse { title := "Cannot Combine Trees", message := LinearTree.emptyUnderGate }
  | some combined => deliver surroundings (← ofExcept .canonical combined.encode.canonical) output

def usageLine (command : String) : String :=
  s!"Usage: bindingtree {command} [OPTIONS] [ARGS]..."

def task (surroundings : Surroundings) (general : General) (command : String) : Task → Run Unit
  | .compile path settings output allowPartial =>
    compile surroundings general path settings output allowPartial
  | .validate path settings => validate surroundings general path settings
  | .classify source target => classify source target
  | .inspect path settings asJson => inspect surroundings general path settings asJson
  | .combine left right leftName rightName output =>
    combine surroundings left right leftName rightName output
  | .usage => put (.line (usageLine command))

def unreadableVariable (line : Nat) : Log.Event :=
  ⟨"dotenv.main", .warning, s!"python-dotenv could not parse statement starting at line {line}", []⟩

/-- The surroundings with the variables of the file that the command line names. -/
def withVariables (surroundings : Surroundings) (general : General) : Run Surroundings :=
  match general.skipsVariables, general.variableFile with
  | _, none => pure surroundings
  | true, some _ => do
    put (.notice "Warning: --env-file ignored because --no-dotenv is set.")
    return surroundings
  | false, some path => do
    unless ← ofExcept .place (surroundings.disk.holds path) do
      put (.notice s!"Error: .env file not found: {path.text}")
      throw .refused
    match (surroundings.disk.read? path).toOption.join with
    | none => return surroundings
    | some text =>
      let log := (← get).log
      let warnings := (VariableFile.unreadableLines text).map unreadableVariable
      putAll ((warnings.filterMap (log.line? [])).map .log)
      let environment ← ofExcept .setting (VariableFile.extend surroundings.environment text)
      return { surroundings with environment }

def version : String := "bindingtree version 0.3.0"

def request (surroundings : Surroundings) : Request → Run Unit
  | .version => put (.line version)
  | .usage => put (.line (usageLine "COMMAND"))
  | .run general command words => do
    configure { level := if general.verbose then .debug else .info, jsonOutput := general.jsonLogs }
    let surroundings ← withVariables surroundings general
    match Task.read command words with
    | .error misuse => throw (.ofMisuse misuse)
    | .ok wanted => task surroundings general command wanted

end Run

def run (surroundings : Surroundings) (words : List String) : Outcome :=
  match Request.read words with
  | .error misuse => ⟨.ofMisuse misuse, []⟩
  | .ok request => (Run.request surroundings request).outcome

end BoxTree.Command
