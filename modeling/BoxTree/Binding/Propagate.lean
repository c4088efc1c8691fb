import BoxTree.Binding.Name
import BoxTree.Graph.Reach

/-! Variables of dependency edges. A variable is introduced at the first node that needs it and carried
along dependencies of its object type and class. Then each gets a name that differs from the names of
all variables that some node could see together with it. -/

namespace BoxTree

/-- A variable by the order in which it came up, with where it did and whether it has a name already. -/
structure Variable (α : Type) where
  objectType : Wording
  quantifiesSet : Bool
  introducer : α
  declared : Option Wording
deriving DecidableEq

/-- A variable held by a node; the holder that introduces it holds it unbound. -/
structure Holding (α : Type) where
  node : α
  key : Nat
  qualifier : Option Wording
  bound : Bool
deriving DecidableEq

/-- The variable that a dependency edge binds. -/
structure Assignment (α : Type) where
  edge : Edge α
  key : Nat
  dependency : DependencyType
deriving DecidableEq

/-- What is settled while nodes are visited. The key of a variable is its place in the list. -/
structure Ledger (α : Type) where
  known : List (Variable α)
  holdings : List (Holding α)
  assignments : List (Assignment α)
deriving DecidableEq

namespace Ledger

variable {α β : Type} [DecidableEq α]

def empty : Ledger α := ⟨[], [], []⟩

def introduce (ledger : Ledger α) (fresh : Variable α) (qualifier : Option Wording) : Ledger α :=
  { ledger with
    known := ledger.known ++ [fresh]
    holdings := ledger.holdings ++ [⟨fresh.introducer, ledger.known.length, qualifier, false⟩] }

def declare (order : List (Node α β)) : Ledger α :=
  order.foldl
    (fun ledger node =>
      match node.body with
      | .gate _ => ledger
      | .box event =>
        event.boundVariables.foldl
          (fun ledger declared =>
            ledger.introduce
              ⟨declared.objectType, Binding.declaredQuantifiesSet declared.name, node.id, some declared.name⟩
              none)
          ledger)
    empty

def held? (ledger : Ledger α) (node : α) (objectType : Wording) (quantifiesSet : Bool) : Option Nat :=
  (ledger.holdings.find? fun holding =>
    holding.node = node ∧
      (ledger.known[holding.key]?).any fun known =>
        known.objectType = objectType ∧ known.quantifiesSet = quantifiesSet).map (·.key)

/-- Carry a variable to a node that does not hold it yet. -/
def carry (ledger : Ledger α) (node : α) (key : Nat) (qualifier : Wording) : Ledger α :=
  if ledger.holdings.any fun holding => holding.node = node ∧ holding.key = key then ledger
  else { ledger with holdings := ledger.holdings ++ [⟨node, key, some qualifier, true⟩] }

/-- Bind the variable of a dependency edge: one that the source holds, or else a new one. -/
def bind (ledger : Ledger α) (edge : Edge α) (sourceEnd targetEnd : Endpoint)
    (dependency : DependencyType) : Ledger α :=
  let (key, ledger) :=
    match ledger.held? edge.source sourceEnd.objectType dependency.quantifiesSet with
    | some key => (key, ledger)
    | none =>
      (ledger.known.length,
        ledger.introduce ⟨sourceEnd.objectType, dependency.quantifiesSet, edge.source, none⟩
          (some sourceEnd.qualifier))
  let ledger := ledger.carry edge.target key targetEnd.qualifier
  { ledger with assignments := ledger.assignments ++ [⟨edge, key, dependency⟩] }

/-- Bind the variable of an edge that may be a structural link. -/
def visit (nodes : List (Node α β)) (ledger : Ledger α) (edge : Edge α) :
    Except (LookupError α) (Ledger α) := do
  match edge.sourceEnd, edge.targetEnd, ← edge.dependencyType nodes with
  | some sourceEnd, some targetEnd, some dependency => return ledger.bind edge sourceEnd targetEnd dependency
  | _, _, _ => return ledger

end Ledger

namespace Binding

variable {α β : Type} [DecidableEq α]

/-- The dependency edges between two different nodes of an order. -/
def dependencyEdges (order : List (Node α β)) (edges : List (Edge α)) : List (Edge α) :=
  let ids := order.map (·.id)
  edges.filter fun edge =>
    edge.isDependency && edge.source ∈ ids && edge.target ∈ ids && edge.source ≠ edge.target

/-- Visit the dependency edges, node by node in the order, each node's edges in edge order. -/
def settle (order : List (Node α β)) (edges : List (Edge α)) : Except (LookupError α) (Ledger α) :=
  let visits := order.flatMap fun node =>
    (dependencyEdges order edges).filter fun edge => edge.source = node.id
  visits.foldlM (Ledger.visit order) (Ledger.declare order)

/-- A node and its descendants along edges within the order. -/
def regionOf (order : List (Node α β)) (edges : List (Edge α)) (id : α) : List α :=
  region (order.map (·.id)) (edges.map (·.arc)) id

structure Sight (α : Type) where
  name : Wording
  nodes : List α
deriving DecidableEq

def seenFrom (region : List α) (sights : List (Sight α)) : List Wording :=
  (sights.filter fun sight => region.any (· ∈ sight.nodes)).map (·.name)

/-- Names for variables one after the other, given the names before them. Declared names stand; another
one is new to every node that can see it. -/
def assignNames (regionOf : α → List α) (width : Int) (sights : List (Sight α)) :
    List (Variable α) → List Wording
  | [] => []
  | fresh :: rest =>
    match fresh.declared with
    | some name => name :: assignNames regionOf width sights rest
    | none =>
      let region := regionOf fresh.introducer
      let name := pickName (stem fresh.objectType fresh.quantifiesSet width) (seenFrom region sights)
      name :: assignNames regionOf width (sights ++ [⟨name, region⟩]) rest

/-- The names of all variables, by key. Declared names are seen from the start. -/
def names (order : List (Node α β)) (edges : List (Edge α)) (width : Int)
    (all : List (Variable α)) : List Wording :=
  let regionOf := regionOf order edges
  let declared := all.filterMap fun known =>
    known.declared.map fun name => ⟨name, regionOf known.introducer⟩
  assignNames regionOf width declared all

end Binding

structure HeldVariable where
  name : Wording
  objectType : Wording
  qualifier : Option Wording
  bound : Bool
deriving DecidableEq

structure EdgeVariable (α : Type) where
  edge : Edge α
  name : Wording
  objectType : Wording
  dependency : DependencyType
deriving DecidableEq

structure Bindings (α : Type) where
  edges : List (EdgeVariable α)
  nodes : List (α × List HeldVariable)
deriving DecidableEq

namespace Bindings

variable {α β : Type} [DecidableEq α]

def ofLedger (ids : List α) (names : List Wording) (ledger : Ledger α) : Bindings α where
  edges := ledger.assignments.filterMap fun assigned => do
    let known ← ledger.known[assigned.key]?
    let name ← names[assigned.key]?
    return ⟨assigned.edge, name, known.objectType, assigned.dependency⟩
  nodes := ids.map fun id =>
    (id, (ledger.holdings.filter (·.node = id)).filterMap fun holding => do
      let known ← ledger.known[holding.key]?
      let name ← names[holding.key]?
      return ⟨name, known.objectType, holding.qualifier, holding.bound⟩)

def heldBy (bindings : Bindings α) (id : α) : List HeldVariable :=
  (bindings.nodes.lookup id).getD []

def ofEdge? (bindings : Bindings α) (edge : Edge α) : Option (EdgeVariable α) :=
  bindings.edges.find? (·.edge = edge)

end Bindings

def propagate {α β : Type} [DecidableEq α] (order : List (Node α β)) (edges : List (Edge α)) (width : Int) :
    Except (LookupError α) (Bindings α) := do
  let ledger ← Binding.settle order edges
  return .ofLedger (order.map (·.id)).eraseDups (Binding.names order edges width ledger.known) ledger

end BoxTree
