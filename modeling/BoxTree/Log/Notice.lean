import BoxTree.Compile.Basic
import BoxTree.Log.Event

/-! The log events of a compilation. -/

namespace BoxTree

namespace Notice

def logger : String := "bindingtree.core.dag.compiler"

def texts (names : List Wording) : Value := .list (names.map .text)

def event (notice : Notice Wording) : Log.Event :=
  match notice with
  | .danglingEdge dangling =>
    ⟨logger, .warning, "dangling_edge_skipped",
      [(.text "source", .text dangling.edge.source), (.text "target", .text dangling.edge.target),
        (.text "reason", .text dangling.reason.text)]⟩
  | .componentRejected error =>
    ⟨logger, .warning, "component_rejected",
      [(.text "code", .text error.code), (.text "nodes", texts error.nodes)]⟩
  | .treeRejected root gates =>
    ⟨logger, .warning, "tree_rejected",
      [(.text "root", .text root), (.text "code", .text CompileError.arityCode), (.text "nodes", texts gates)]⟩
  | .finished nodes edges trees errors disconnected =>
    ⟨logger, .debug, "graph_compiled",
      [(.text "nodes", .int nodes), (.text "edges", .int edges), (.text "trees", .int trees),
        (.text "errors", .int errors), (.text "disconnected", .int disconnected)]⟩

end Notice

def Compilation.logLines (log : Log.Setup) (graph : String) (compilation : Compilation Wording Fields) :
    List Log.Line :=
  compilation.notices.filterMap fun notice => log.line? (Log.Setup.graphContext graph) notice.event

end BoxTree
