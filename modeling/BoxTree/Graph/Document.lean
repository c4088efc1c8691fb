import BoxTree.Graph.Basic
import BoxTree.Schema.Container
import BoxTree.Value.Order

/-! Graph documents as editors export them. Keys that say nothing about the graph, such as positions,
are passed over; a key may be given under its short name or under the one with an underscore. -/

namespace BoxTree

abbrev DocumentGraph := Graph Wording Fields

inductive NodeKind where
  | eventType
  | gate
deriving DecidableEq

namespace NodeKind

def all : List NodeKind := [eventType, gate]

def name : NodeKind → String
  | eventType => "eventType"
  | gate => "gate"

end NodeKind

namespace GraphDocument

open Schema Checked

def qualifier (value : Value) : Checked Qualifier :=
  value |> record "QualifierDocument" fun fields =>
    Qualifier.mk <$> required fields ["qualifier"] text
      <*> defaulted fields ["multiple"] false truth
      <*> defaulted fields ["objectTypes", "object_types"] [] (list text)

def variableOf (value : Value) : Checked ObjectVariable :=
  value |> record "VariableDocument" fun fields =>
    (ObjectVariable.mk ∘ .whole) <$> required fields ["name"] nonemptyText
      <*> required fields ["objectType", "object_type"] text

def endpoint (value : Value) : Checked Endpoint :=
  value |> record "EndpointDocument" fun fields =>
    Endpoint.mk <$> required fields ["qualifier"] text
      <*> required fields ["objectType", "object_type"] text

/-- The parts of a node document, before it is known what its kind needs. -/
structure NodeParts where
  id : String
  kind : NodeKind
  eventType : Option Wording
  qualifiers : List (Wording × Qualifier)
  boundVariables : List ObjectVariable
  content : List (Wording × Value)
  gate : Option Gate

/-- The node of its parts: a gate needs its gate, and a box its event type. -/
def NodeParts.node (parts : NodeParts) : Checked (Node Wording Fields) :=
  match parts.kind, parts.gate, parts.eventType with
  | .gate, some gate, _ => good ⟨parts.id, .gate gate⟩
  | .gate, none, _ => fail (.rejected s!"Gate node '{parts.id}' must declare 'gate' (and, or, not)")
  | .eventType, _, some eventType =>
    let content := parts.content.map fun (key, value) => (.text key, value)
    good ⟨parts.id, .box ⟨eventType, parts.qualifiers, parts.boundVariables, content⟩⟩
  | .eventType, _, none => fail (.rejected s!"Event-type node '{parts.id}' must declare 'eventType'")

def node (value : Value) : Checked (Node Wording Fields) :=
  value |> record "NodeDocument" fun fields =>
    let parts := NodeParts.mk <$> required fields ["id"] nonemptyText
      <*> defaulted fields ["type"] .eventType (option NodeKind.all NodeKind.name)
      <*> defaulted fields ["eventType", "event_type"] none (optional text)
      <*> defaulted fields ["qualifiers"] [] (mapping qualifier)
      <*> defaulted fields ["boundVariables", "bound_variables"] [] (list variableOf)
      <*> defaulted fields ["box"] [] (mapping good)
      <*> defaulted fields ["gate"] none (optional (option Gate.all Gate.name))
    parts.andThen NodeParts.node

def edge (value : Value) : Checked (Edge Wording) :=
  value |> record "EdgeDocument" fun fields =>
    Edge.mk <$> required fields ["source"] text
      <*> required fields ["target"] text
      <*> defaulted fields ["sourceHandle", "source_handle"] none (optional endpoint)
      <*> defaulted fields ["targetHandle", "target_handle"] none (optional endpoint)
      <*> defaulted fields ["name"] none (optional text)

/-- The ids that several nodes have, in ascending order. -/
def repeatedIds (ids : List Wording) : List Wording :=
  let repeated := ids.eraseDups.filter fun id => 1 < ids.count id
  repeated.mergeSort fun left right => !Value.textLess right left

/-- The graph of a document. Node ids have to differ. -/
def read (document : Value) : Checked DocumentGraph :=
  document |> record "GraphDocument" fun fields =>
    let parts := Graph.mk <$> defaulted fields ["nodes"] [] (list node)
      <*> defaulted fields ["edges"] [] (list edge)
    parts.andThen fun graph =>
      match repeatedIds graph.ids with
      | [] => good graph
      | ids => fail (.rejected ("Duplicate node ids: " ++ (Value.list (ids.map .text)).shown))

end GraphDocument
end BoxTree
