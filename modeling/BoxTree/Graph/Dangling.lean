import BoxTree.Graph.Basic

/-! Edges that an editor left unfinished. They are set aside, each with its reason, so that later steps
see only edges between nodes that exist and qualifiers that are declared. -/

namespace BoxTree

inductive Side where
  | source
  | target
deriving DecidableEq

def Side.name : Side → String
  | source => "source"
  | target => "target"

inductive DanglingReason (α : Type) where
  | missingNode (side : Side) (id : α)
  | missingHandle (side : Side)
  | handleOnGate (side : Side) (qualifier : Wording) (id : α)
  | undeclared (side : Side) (qualifier : Wording) (id : α)
  | typesDiffer (source target : Wording)
deriving DecidableEq

def DanglingReason.text : DanglingReason Wording → Wording
  | missingNode side id => s!"{side.name} node '" ++ id ++ "' does not exist"
  | missingHandle side => s!"missing {side.name} handle"
  | handleOnGate side qualifier id => s!"{side.name} handle '" ++ qualifier ++ "' attached to gate '" ++ id ++ "'"
  | undeclared side qualifier id => s!"{side.name} qualifier '" ++ qualifier ++ "' not declared on '" ++ id ++ "'"
  | typesDiffer source target => "object types differ ('" ++ source ++ "' vs '" ++ target ++ "')"

structure DanglingEdge (α : Type) where
  edge : Edge α
  reason : DanglingReason α
deriving DecidableEq

def DanglingEdge.message (dangling : DanglingEdge Wording) : Wording :=
  "Skipping edge " ++ dangling.edge.describe ++ ": " ++ dangling.reason.text

variable {α β : Type} [DecidableEq α]

def danglingEnd? (nodes : List (Node α β)) (side : Side) (id : α) :
    Option Endpoint → Option (DanglingReason α)
  | none => none
  | some endpoint =>
    match findNode? nodes id with
    | none => none
    | some node =>
      match node.body with
      | .gate _ => some (.handleOnGate side endpoint.qualifier id)
      | .box event =>
        if (event.qualifiers.lookup endpoint.qualifier).isSome then none
        else some (.undeclared side endpoint.qualifier id)

/-- Why an edge dangles: missing nodes first, then a missing handle, then each handle, then the types. -/
def Edge.dangling? (edge : Edge α) (nodes : List (Node α β)) : Option (DanglingReason α) :=
  if (findNode? nodes edge.source).isNone then some (.missingNode .source edge.source)
  else if (findNode? nodes edge.target).isNone then some (.missingNode .target edge.target)
  else
    match edge.sourceEnd, edge.targetEnd with
    | none, some _ => some (.missingHandle .source)
    | some _, none => some (.missingHandle .target)
    | none, none => none
    | some sourceEnd, some targetEnd =>
      match danglingEnd? nodes .source edge.source (some sourceEnd) with
      | some reason => some reason
      | none =>
        match danglingEnd? nodes .target edge.target (some targetEnd) with
        | some reason => some reason
        | none =>
          if sourceEnd.objectType = targetEnd.objectType then none
          else some (.typesDiffer sourceEnd.objectType targetEnd.objectType)

namespace Graph

def resolved (graph : Graph α β) : List (Edge α) :=
  graph.edges.filter fun edge => (edge.dangling? graph.nodes).isNone

def dangling (graph : Graph α β) : List (DanglingEdge α) :=
  graph.edges.filterMap fun edge => (edge.dangling? graph.nodes).map (⟨edge, ·⟩)

end Graph
end BoxTree
