import BoxTree.Binding.Propagate
import BoxTree.Compile.Diagnostic
import BoxTree.Settings.Basic

/-! Compilation of whole graphs. Dangling edges are set aside, each component is ordered by itself, and
each root of a component gives a tree of the part that it reaches. A component that fails leaves the
others alone. -/

namespace BoxTree

/-- The tree of one root. The node at place `i` of the order is the tree's node at position `i`. -/
structure CompiledTree (α β : Type) where
  root : α
  order : List α
  tree : LinearTree β
  bindings : Bindings α
deriving DecidableEq

/-- The position in the tree of a graph node. -/
def CompiledTree.place? {α β : Type} [DecidableEq α] (compiled : CompiledTree α β) (id : α) : Option Nat :=
  compiled.order.findIdx? (· = id)

/-- What is said of a node that a tree does not hold. -/
def CompiledTree.noPlace : String := "tuple.index(x): x not in tuple"

/-- The tree of a root, or the gates that keep it from having one. -/
inductive RootOutcome (α β : Type) where
  | compiled (tree : CompiledTree α β)
  | rejected (root : α) (faults : List (ArityFault α))

/-- What a component comes to: no order, or an outcome for each root. -/
inductive ComponentOutcome (α β : Type) where
  | rejected (error : OrderError α)
  | rooted (outcomes : List (RootOutcome α β))

/-- What is worth a log line, in the order in which it happens. -/
inductive Notice (α : Type) where
  | danglingEdge (dangling : DanglingEdge α)
  | componentRejected (error : OrderError α)
  | treeRejected (root : α) (gates : List α)
  | finished (nodes edges trees errors disconnected : Nat)

namespace RootOutcome

variable {α β : Type}

def tree? : RootOutcome α β → Option (CompiledTree α β)
  | compiled tree => some tree
  | rejected _ _ => none

def faults : RootOutcome α β → List (ArityFault α)
  | compiled _ => []
  | rejected _ faults => faults

def notice? : RootOutcome α β → Option (Notice α)
  | compiled _ => none
  | rejected root faults => some (.treeRejected root (faults.map (·.gate)))

end RootOutcome

namespace ComponentOutcome

variable {α β : Type} [DecidableEq α]

def trees : ComponentOutcome α β → List (CompiledTree α β)
  | rejected _ => []
  | rooted outcomes => outcomes.filterMap (·.tree?)

/-- Each gate's first fault: a gate that several roots share is reported once. -/
def reported : List (ArityFault α) → List (ArityFault α)
  | [] => []
  | fault :: rest => fault :: (reported rest).filter fun other => other.gate ≠ fault.gate

def errors : ComponentOutcome α β → List (CompileError α)
  | rejected error => [.order error]
  | rooted outcomes => (reported (outcomes.flatMap (·.faults))).map .arity

def notices : ComponentOutcome α β → List (Notice α)
  | rejected error => [.componentRejected error]
  | rooted outcomes => outcomes.filterMap (·.notice?)

end ComponentOutcome

structure Compilation (α β : Type) where
  trees : List (CompiledTree α β)
  errors : List (CompileError α)
  warnings : List (DanglingEdge α)
  disconnected : List α
  notices : List (Notice α)

namespace Compilation

variable {α β : Type}

def isOk (compilation : Compilation α β) : Bool := compilation.errors.isEmpty

def failure? (compilation : Compilation Wording β) : Option Wording :=
  match compilation.errors with
  | [] => none
  | errors =>
    let details := Wording.join "\n  " (errors.map (·.message))
    some (s!"Graph compilation failed with {errors.length} error(s):\n  " ++ details)

end Compilation

namespace Compile

variable {α β : Type} [DecidableEq α]

/-- The tree of one root: the part of the order that the root reaches, with the edges that leave it. -/
def compileRoot (nodes : List (Node α β)) (edges : List (Edge α)) (settings : CompilerSettings)
    (order : List α) (root : α) : Except (LookupError α) (RootOutcome α β) := do
  let reach := region order (edges.map (·.arc)) root
  let part := order.filter (· ∈ reach)
  let ordered := part.filterMap (findNode? nodes)
  let leaving := edges.filter fun edge => edge.source ∈ reach
  match build ordered leaving with
  | .error faults => return .rejected root faults
  | .ok tree =>
    let bindings ← propagate ordered leaving settings.variablePrefixLength
    return .compiled ⟨root, part, tree, bindings⟩

/-- Order a component, then compile each of its roots. -/
def compileComponent (nodes : List (Node α β)) (edges : List (Edge α)) (settings : CompilerSettings) :
    Except (LookupError α) (ComponentOutcome α β) := do
  let result ← linearize nodes edges settings.queueOrder
  match result.error with
  | some error => return .rejected error
  | none =>
    return .rooted (← result.roots.mapM (compileRoot nodes edges settings result.order))

/-- The components of resolved edges, each with its nodes and edges. -/
def fragments (nodes : List (Node α β)) (edges : List (Edge α)) :
    List (List (Node α β) × List (Edge α)) :=
  (components (nodes.map (·.id)) (edges.map (·.arc))).map fun ids =>
    (nodes.filter (·.id ∈ ids), edges.filter (·.source ∈ ids))

end Compile

variable {α β : Type} [DecidableEq α]

def Edge.touches (edge : Edge α) (id : α) : Bool := edge.source = id || edge.target = id

def Graph.compile (graph : Graph α β) (settings : CompilerSettings) :
    Except (LookupError α) (Compilation α β) := do
  let edges := graph.keyed.resolved
  let dangling := graph.keyed.dangling
  let outcomes ← (Compile.fragments graph.keyed.nodes edges).mapM fun (nodes, edges) =>
    Compile.compileComponent nodes edges settings
  let trees := outcomes.flatMap (·.trees)
  let errors := outcomes.flatMap (·.errors)
  let disconnected := graph.ids.filter fun id => !edges.any (·.touches id)
  let notices := dangling.map .danglingEdge ++ outcomes.flatMap (·.notices) ++
    [.finished graph.nodes.length edges.length trees.length errors.length disconnected.length]
  return ⟨trees, errors, dangling, disconnected, notices⟩

end BoxTree
