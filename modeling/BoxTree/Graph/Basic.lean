import BoxTree.Latest
import BoxTree.Text.Wording

/-! Constraint graphs: event-type boxes and logical gates, and the edges between them. Nodes are named
by ids of any type and boxes hold content of any type, so nothing here can look inside either. -/

namespace BoxTree

/-- A gate combines whether its children are satisfied. -/
inductive Gate where
  | and
  | or
  | not
deriving DecidableEq

namespace Gate

def all : List Gate := [and, or, not]

def name : Gate → String
  | and => "and"
  | or => "or"
  | not => "not"

/-- The number of children a gate has in a tree. -/
def arity : Gate → Nat
  | not => 1
  | and | or => 2

end Gate

/-- How an event type relates to objects under one qualifier. -/
structure Qualifier where
  name : Wording
  /-- Whether one event may relate to several objects. -/
  multiple : Bool
  objectTypes : List Wording
deriving DecidableEq

structure ObjectVariable where
  name : Wording
  objectType : Wording
deriving DecidableEq

/-- An event-type box. Qualifiers stand under keys of their own; the content is passed through. -/
structure EventBox (β : Type) where
  eventType : Wording
  qualifiers : List (Wording × Qualifier)
  boundVariables : List ObjectVariable
  content : β

inductive NodeBody (β : Type) where
  | box (event : EventBox β)
  | gate (kind : Gate)

structure Node (α β : Type) where
  id : α
  body : NodeBody β

def Node.isGate {α β : Type} (node : Node α β) : Bool :=
  match node.body with
  | .gate _ => true
  | .box _ => false

/-- One side of a dependency edge: the qualifier and the object type that both sides share. -/
structure Endpoint where
  qualifier : Wording
  objectType : Wording
deriving DecidableEq

/-- An edge without endpoints is a structural link; one with both is a dependency. -/
structure Edge (α : Type) where
  source : α
  target : α
  sourceEnd : Option Endpoint
  targetEnd : Option Endpoint
  name : Option Wording
deriving DecidableEq

namespace Edge

variable {α : Type}

def isDependency (edge : Edge α) : Bool := edge.sourceEnd.isSome && edge.targetEnd.isSome

def objectType? (edge : Edge α) : Option Wording := edge.sourceEnd.map (·.objectType)

def arc (edge : Edge α) : α × α := (edge.source, edge.target)

def describe (edge : Edge Wording) : Wording := edge.source ++ " -> " ++ edge.target

end Edge

structure Graph (α β : Type) where
  nodes : List (Node α β)
  edges : List (Edge α)

namespace Graph

variable {α β : Type}

def ids (graph : Graph α β) : List α := graph.nodes.map (·.id)

end Graph

section Lookup

variable {α β : Type} [DecidableEq α]

def findNode? (nodes : List (Node α β)) (id : α) : Option (Node α β) :=
  nodes.find? fun node => node.id = id

/-- The graph as a mapping from ids to nodes has it. -/
def Graph.keyed (graph : Graph α β) : Graph α β := { graph with nodes := latest (·.id) graph.nodes }

end Lookup
end BoxTree
