import BoxTree.Compile.Basic
import BoxTree.Tree.Codec

/-! Compilations as documents: trees, roots and variables in parallel lists, then what went wrong. -/

namespace BoxTree

namespace EdgeVariable

def encode (assigned : EdgeVariable Wording) : Value :=
  .map [(.text "source", .text assigned.edge.source), (.text "target", .text assigned.edge.target),
    (.text "name", .text assigned.name), (.text "objectType", .text assigned.objectType),
    (.text "dependencyType", .text assigned.dependency.name)]

end EdgeVariable

namespace HeldVariable

def encode (held : HeldVariable) : Value :=
  let qualifier := match held.qualifier with | some name => .text name | none => .null
  .map [(.text "name", .text held.name), (.text "objectType", .text held.objectType),
    (.text "qualifier", qualifier), (.text "bound", .bool held.bound)]

end HeldVariable

namespace Bindings

/-- The variables of a tree: by edge, and by node. -/
def encode (bindings : Bindings Wording) : Value :=
  .map [(.text "edges", .list (bindings.edges.map EdgeVariable.encode)),
    (.text "nodes",
      .map (bindings.nodes.map fun (id, held) => (.text id, .list (held.map HeldVariable.encode))))]

end Bindings

namespace Compilation

def encodeReport (code : String) (message : Wording) (nodes : List Wording) : Value :=
  .map [(.text "code", .text code), (.text "message", .text message),
    (.text "nodeIds", .list (nodes.map .text))]

def encode (compilation : Compilation Wording Fields) : Value :=
  .map [(.text "trees", .list (compilation.trees.map (·.tree.encode))),
    (.text "roots", .list (compilation.trees.map fun compiled => .text compiled.root)),
    (.text "variables", .list (compilation.trees.map (·.bindings.encode))),
    (.text "errors",
      .list (compilation.errors.map fun error => encodeReport error.code error.message error.nodes)),
    (.text "warnings",
      .list (compilation.warnings.map fun warning =>
        encodeReport DanglingEdge.code warning.message warning.nodes)),
    (.text "disconnected", .list (compilation.disconnected.map .text))]

end Compilation
end BoxTree
