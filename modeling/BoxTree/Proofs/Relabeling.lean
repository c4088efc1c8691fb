import BoxTree.Graph.Dangling
import BoxTree.Graph.Dependency
import BoxTree.Proofs.Duplicates
import Mathlib

/-! Graphs under other ids, event types and contents. Lookups by id, edges that dangle and the types of
dependencies stay what they are, under the new ids. -/

namespace BoxTree

/-- Other ids, different wherever the old ones are, with other event types and other contents for boxes. -/
structure Relabeling (α δ β γ : Type) where
  idOf : α → δ
  eventTypeOf : Wording → Wording
  contentOf : β → γ
  injective : Function.Injective idOf

section Renaming

variable {α δ ε ζ : Type} (f : α → δ)

def Edge.rename (edge : Edge α) : Edge δ :=
  ⟨f edge.source, f edge.target, edge.sourceEnd, edge.targetEnd, edge.name⟩

def DanglingReason.rename : DanglingReason α → DanglingReason δ
  | missingNode side id => missingNode side (f id)
  | missingHandle side => missingHandle side
  | handleOnGate side qualifier id => handleOnGate side qualifier (f id)
  | undeclared side qualifier id => undeclared side qualifier (f id)
  | typesDiffer source target => typesDiffer source target

def DanglingEdge.rename (dangling : DanglingEdge α) : DanglingEdge δ :=
  ⟨dangling.edge.rename f, dangling.reason.rename f⟩

def LookupError.rename : LookupError α → LookupError δ
  | unknownNode id => unknownNode (f id)
  | gateWithQualifier id => gateWithQualifier (f id)
  | undeclaredQualifier name => undeclaredQualifier name

def renamed (value : ε → ζ) : Except (LookupError α) ε → Except (LookupError δ) ζ
  | .ok found => .ok (value found)
  | .error error => .error (error.rename f)

end Renaming

section Steps

variable {α δ ε ζ η θ : Type} {f : α → δ} {first : ε → ζ} {second : η → θ}

theorem renamed_bind {step : Except (LookupError α) ε} {next : ε → Except (LookupError α) η}
    {other : ζ → Except (LookupError δ) θ} (same : ∀ value, other (first value) = renamed f second (next value)) :
    renamed f first step >>= other = renamed f second (step >>= next) := by
  cases step with
  | error => rfl
  | ok value => exact same value

theorem renamed_mapM {items : List ε} {step : ε → Except (LookupError α) η} {other : ζ → Except (LookupError δ) θ}
    (same : ∀ item, other (first item) = renamed f second (step item)) :
    (items.map first).mapM other = renamed f (List.map second) (items.mapM step) := by
  induction items with
  | nil => rfl
  | cons item rest ih =>
    rw [List.map_cons, List.mapM_cons, List.mapM_cons, same, ih]
    apply renamed_bind
    intro value
    apply renamed_bind
    intro values
    rfl

theorem renamed_foldlM {items : List ε} {step : η → ε → Except (LookupError α) η}
    {other : θ → ζ → Except (LookupError δ) θ}
    (same : ∀ state item, other (second state) (first item) = renamed f second (step state item)) (start : η) :
    (items.map first).foldlM other (second start) = renamed f second (items.foldlM step start) := by
  induction items generalizing start with
  | nil => rfl
  | cons item rest ih =>
    rw [List.map_cons, List.foldlM_cons, List.foldlM_cons, same]
    exact renamed_bind ih

end Steps

variable {α δ β γ : Type}

def EventBox.relabel (labels : Relabeling α δ β γ) (event : EventBox β) : EventBox γ :=
  ⟨labels.eventTypeOf event.eventType, event.qualifiers, event.boundVariables, labels.contentOf event.content⟩

def NodeBody.relabel (labels : Relabeling α δ β γ) : NodeBody β → NodeBody γ
  | box event => box (event.relabel labels)
  | gate kind => gate kind

def Node.relabel (labels : Relabeling α δ β γ) (node : Node α β) : Node δ γ :=
  ⟨labels.idOf node.id, node.body.relabel labels⟩

def Graph.relabel (labels : Relabeling α δ β γ) (graph : Graph α β) : Graph δ γ :=
  ⟨graph.nodes.map (.relabel labels), graph.edges.map (.rename labels.idOf)⟩

theorem map_arc_rename (f : α → δ) (edges : List (Edge α)) :
    (edges.map (Edge.rename f)).map (·.arc) = (edges.map (·.arc)).map (Prod.map f f) := by
  rw [List.map_map, List.map_map]
  rfl

variable (labels : Relabeling α δ β γ) (nodes : List (Node α β))

theorem map_id_relabel : (nodes.map (Node.relabel labels)).map (·.id) = (nodes.map (·.id)).map labels.idOf := by
  rw [List.map_map, List.map_map]
  rfl

theorem isGate_relabel (node : Node α β) : (node.relabel labels).isGate = node.isGate := by
  obtain ⟨id, body⟩ := node
  cases body <;> rfl

variable [DecidableEq α] [DecidableEq δ]

theorem findNode?_relabel (id : α) :
    findNode? (nodes.map (.relabel labels)) (labels.idOf id) = (findNode? nodes id).map (.relabel labels) := by
  simp only [findNode?, List.find?_map, Function.comp_def, Node.relabel, labels.injective.eq_iff]

private theorem latest_relabel :
    latest Node.id (nodes.map (.relabel labels)) = (latest Node.id nodes).map (.relabel labels) :=
  (latest_map Node.id _ nodes).trans (congrArg _ (latest_injective Node.id labels.injective nodes))

theorem keyed_relabel (graph : Graph α β) : (graph.relabel labels).keyed = graph.keyed.relabel labels := by
  simp only [Graph.keyed, Graph.relabel, latest_relabel]

private theorem danglingEnd?_relabel (side : Side) (id : α) (endpoint : Option Endpoint) :
    danglingEnd? (nodes.map (.relabel labels)) side (labels.idOf id) endpoint =
      (danglingEnd? nodes side id endpoint).map (.rename labels.idOf) := by
  cases endpoint with
  | none => rfl
  | some endpoint =>
    simp only [danglingEnd?, findNode?_relabel]
    cases findNode? nodes id with
    | none => rfl
    | some node =>
      obtain ⟨id, body⟩ := node
      cases body with
      | gate kind => rfl
      | box event =>
        simp only [Option.map_some, Node.relabel, NodeBody.relabel, EventBox.relabel]
        split <;> rfl

private theorem dangling?_relabel (edge : Edge α) :
    (edge.rename labels.idOf).dangling? (nodes.map (.relabel labels)) =
      (edge.dangling? nodes).map (.rename labels.idOf) := by
  obtain ⟨source, target, sourceEnd, targetEnd, name⟩ := edge
  simp only [Edge.dangling?, Edge.rename, findNode?_relabel, danglingEnd?_relabel, Option.isNone_map]
  split
  · rfl
  · split
    · rfl
    · cases sourceEnd with
      | none => cases targetEnd <;> rfl
      | some sourceEnd =>
        cases targetEnd with
        | none => rfl
        | some targetEnd =>
          dsimp only
          cases danglingEnd? nodes .source source (some sourceEnd) with
          | some reason => rfl
          | none =>
            cases danglingEnd? nodes .target target (some targetEnd) with
            | some reason => rfl
            | none =>
              dsimp only [Option.map_none]
              split <;> rfl

theorem resolved_relabel (graph : Graph α β) :
    (graph.relabel labels).resolved = graph.resolved.map (.rename labels.idOf) := by
  simp only [Graph.resolved, Graph.relabel, List.filter_map, Function.comp_def, dangling?_relabel, Option.isNone_map]

theorem dangling_relabel (graph : Graph α β) :
    (graph.relabel labels).dangling = graph.dangling.map (.rename labels.idOf) := by
  simp only [Graph.dangling, Graph.relabel, List.filterMap_map, List.map_filterMap, Function.comp_def,
    dangling?_relabel, Option.map_map]
  rfl

private theorem isMultiple_relabel (name : α) (endpoint : Endpoint) :
    isMultiple (nodes.map (.relabel labels)) (labels.idOf name) endpoint =
      renamed labels.idOf id (isMultiple nodes name endpoint) := by
  rw [isMultiple, isMultiple, findNode?_relabel]
  cases findNode? nodes name with
  | none => rfl
  | some node =>
    obtain ⟨id, body⟩ := node
    cases body with
    | gate kind => rfl
    | box event =>
      simp only [Option.map_some, Node.relabel, NodeBody.relabel, EventBox.relabel]
      cases event.qualifiers.lookup endpoint.qualifier <;> rfl

theorem dependencyType_relabel (edge : Edge α) :
    (edge.rename labels.idOf).dependencyType (nodes.map (.relabel labels)) =
      renamed labels.idOf id (edge.dependencyType nodes) := by
  obtain ⟨source, target, sourceEnd, targetEnd, name⟩ := edge
  cases sourceEnd with
  | none => rfl
  | some sourceEnd =>
    cases targetEnd with
    | none => rfl
    | some targetEnd =>
      simp only [Edge.dependencyType, Edge.rename, isMultiple_relabel]
      apply renamed_bind
      intro source
      apply renamed_bind
      intro target
      rfl

end BoxTree
