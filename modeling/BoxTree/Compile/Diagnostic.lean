import BoxTree.Graph.Dangling
import BoxTree.Graph.Order
import BoxTree.Tree.Build

/-! What keeps part of a graph from compiling, with the codes and messages by which it is reported. -/

namespace BoxTree

namespace OrderError

variable {α : Type}

def code : OrderError α → String
  | cycle _ _ => "cycle_detected"
  | unreachable _ => "unreachable_nodes"

def nodes : OrderError α → List α
  | cycle waiting _ => waiting
  | unreachable nodes => nodes

def message : OrderError Wording → Wording
  | cycle waiting [] => "Cycle detected among nodes: " ++ Wording.join ", " waiting
  | cycle _ (first :: rest) => "Cycle detected: " ++ Wording.join " -> " (first :: rest ++ [first])
  | unreachable nodes => "Nodes not reachable from root: " ++ Wording.join ", " nodes

end OrderError

/-- A failure of one component or of the trees that hold a gate. -/
inductive CompileError (α : Type) where
  | order (error : OrderError α)
  | arity (fault : ArityFault α)
deriving DecidableEq

namespace CompileError

variable {α : Type}

def arityCode : String := "invalid_gate_arity"

def code : CompileError α → String
  | order error => error.code
  | arity _ => arityCode

def nodes : CompileError α → List α
  | order error => error.nodes
  | arity fault => [fault.gate]

def message : CompileError Wording → Wording
  | order error => error.message
  | arity fault => fault.message

end CompileError

namespace DanglingEdge

variable {α : Type}

def code : String := "dangling_edge"

def nodes (dangling : DanglingEdge α) : List α := [dangling.edge.source, dangling.edge.target]

end DanglingEdge
end BoxTree
