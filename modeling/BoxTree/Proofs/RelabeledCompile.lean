import BoxTree.Canonical.Text
import BoxTree.Proofs.CompileSteps
import BoxTree.Proofs.RelabeledBindings
import BoxTree.Proofs.RelabeledTrees
import BoxTree.Tree.Codec

/-! Compilation takes ids only for equal or different, and never looks into event types or contents: a relabeled graph
has the relabeled compilation. -/

namespace BoxTree

variable {α δ β γ : Type}

section Renaming

variable (f : α → δ)

def CompileError.rename : CompileError α → CompileError δ
  | order error => order (error.rename f)
  | arity fault => arity (fault.rename f)

def Notice.rename : Notice α → Notice δ
  | danglingEdge dangling => danglingEdge (dangling.rename f)
  | componentRejected error => componentRejected (error.rename f)
  | treeRejected root gates => treeRejected (f root) (gates.map f)
  | finished nodes edges trees errors disconnected => finished nodes edges trees errors disconnected

end Renaming

section Relabeling

variable (labels : Relabeling α δ β γ)

def CompiledTree.relabel (compiled : CompiledTree α β) : CompiledTree δ γ :=
  ⟨labels.idOf compiled.root, compiled.order.map labels.idOf, compiled.tree.mapContent labels.contentOf,
    compiled.bindings.rename labels.idOf⟩

def RootOutcome.relabel : RootOutcome α β → RootOutcome δ γ
  | compiled tree => compiled (tree.relabel labels)
  | rejected root faults => rejected (labels.idOf root) (faults.map (.rename labels.idOf))

def ComponentOutcome.relabel : ComponentOutcome α β → ComponentOutcome δ γ
  | rejected error => rejected (error.rename labels.idOf)
  | rooted outcomes => rooted (outcomes.map (.relabel labels))

def Compilation.relabel (compilation : Compilation α β) : Compilation δ γ where
  trees := compilation.trees.map (.relabel labels)
  errors := compilation.errors.map (.rename labels.idOf)
  warnings := compilation.warnings.map (.rename labels.idOf)
  disconnected := compilation.disconnected.map labels.idOf
  notices := compilation.notices.map (.rename labels.idOf)

end Relabeling

namespace ComponentOutcome

variable [DecidableEq α] [DecidableEq δ] (labels : Relabeling α δ β γ) (outcome : ComponentOutcome α β)

omit [DecidableEq α] [DecidableEq δ] in
private theorem trees_relabel : (outcome.relabel labels).trees = outcome.trees.map (.relabel labels) := by
  cases outcome with
  | rejected error => rfl
  | rooted outcomes =>
    simp only [relabel, trees, List.filterMap_map, List.map_filterMap]
    apply List.filterMap_congr
    intro outcome _
    cases outcome <;> rfl

private theorem reported_rename {f : α → δ} (injective : Function.Injective f) (faults : List (ArityFault α)) :
    reported (faults.map (.rename f)) = (reported faults).map (.rename f) := by
  induction faults with
  | nil => rfl
  | cons fault rest ih =>
    rw [List.map_cons, reported, reported, ih, List.filter_map]
    simp only [Function.comp_def, ArityFault.rename, ne_eq, injective.eq_iff]
    rfl

private theorem errors_relabel : (outcome.relabel labels).errors = outcome.errors.map (.rename labels.idOf) := by
  cases outcome with
  | rejected error => rfl
  | rooted outcomes =>
    have faults : (outcomes.map (RootOutcome.relabel labels)).flatMap (·.faults) =
        (outcomes.flatMap (·.faults)).map (.rename labels.idOf) := by
      rw [List.flatMap_map, List.map_flatMap]
      apply List.flatMap_congr
      intro outcome _
      cases outcome <;> rfl
    rw [relabel, errors, errors, faults, reported_rename labels.injective, List.map_map, List.map_map]
    rfl

omit [DecidableEq α] [DecidableEq δ] in
private theorem notices_relabel : (outcome.relabel labels).notices = outcome.notices.map (.rename labels.idOf) := by
  cases outcome with
  | rejected error => rfl
  | rooted outcomes =>
    simp only [relabel, notices, List.filterMap_map, List.map_filterMap]
    apply List.filterMap_congr
    intro outcome _
    cases outcome with
    | compiled tree => rfl
    | rejected root faults =>
      simp only [Function.comp_apply, RootOutcome.relabel, RootOutcome.notice?, List.map_map]
      simp only [Option.map_some, Notice.rename, List.map_map]
      rfl

end ComponentOutcome

variable [DecidableEq α] [DecidableEq δ] (labels : Relabeling α δ β γ)

namespace Links

private theorem strayEnd?_rename {f : α → δ} (injective : Function.Injective f) (ids : List α) (arc : α × α) :
    strayEnd? (ids.map f) (Prod.map f f arc) = (strayEnd? ids arc).map f := by
  simp only [strayEnd?, Prod.map_fst, Prod.map_snd, List.mem_map_of_injective injective]
  split
  · rfl
  · split <;> rfl

private theorem ofFragment_eq_error {nodes : List (Node α β)} {edges : List (Edge α)} {id : α}
    (stray : (edges.map (·.arc)).findSome? (strayEnd? (nodes.map (·.id))) = some id) :
    ofFragment nodes edges = .error (.unknownNode id) := by
  unfold ofFragment
  dsimp only
  split
  next found => simp_all
  next found => simp_all

private theorem ofFragment_eq_of_closed {nodes : List (Node α β)} {edges : List (Edge α)}
    (noStray : (edges.map (·.arc)).findSome? (strayEnd? (nodes.map (·.id))) = none) :
    ∃ closed, ofFragment nodes edges = .ok ⟨nodes.map (·.id), edges.map (·.arc), closed⟩ := by
  unfold ofFragment
  dsimp only
  split
  next found => simp_all
  next => exact ⟨fun arc member => strayEnd?_eq_none_iff.mp (List.findSome?_eq_none_iff.mp noStray arc member), rfl⟩

private theorem ofFragment_relabel (nodes : List (Node α β)) (edges : List (Edge α)) :
    ofFragment (nodes.map (.relabel labels)) (edges.map (.rename labels.idOf)) =
      renamed labels.idOf (.rename labels.idOf) (ofFragment nodes edges) := by
  have strays : ((edges.map (Edge.rename labels.idOf)).map (·.arc)).findSome?
        (strayEnd? ((nodes.map (Node.relabel labels)).map (·.id))) =
      ((edges.map (·.arc)).findSome? (strayEnd? (nodes.map (·.id)))).map labels.idOf := by
    rw [map_arc_rename, map_id_relabel, List.findSome?_map, List.map_findSome?]
    simp only [Function.comp_def, strayEnd?_rename labels.injective]
  cases stray : (edges.map (·.arc)).findSome? (strayEnd? (nodes.map (·.id))) with
  | some id =>
    rw [stray] at strays
    rw [ofFragment_eq_error stray, ofFragment_eq_error strays]
    rfl
  | none =>
    rw [stray] at strays
    obtain ⟨closed, found⟩ := ofFragment_eq_of_closed stray
    obtain ⟨otherClosed, otherFound⟩ := ofFragment_eq_of_closed strays
    rw [found, otherFound]
    simp only [renamed, rename, map_arc_rename, map_id_relabel]

end Links

private theorem linearize_relabel (nodes : List (Node α β)) (edges : List (Edge α)) (order : QueueOrder) :
    linearize (nodes.map (.relabel labels)) (edges.map (.rename labels.idOf)) order =
      renamed labels.idOf (.rename labels.idOf) (linearize nodes edges order) := by
  rw [linearize, linearize, Links.ofFragment_relabel]
  apply renamed_bind
  intro links
  exact congrArg Except.ok (links.linearize_rename labels.injective order)

namespace Compile

variable (nodes : List (Node α β)) (edges : List (Edge α)) (settings : CompilerSettings)

section Root

variable (order : List α) (root : α)

private theorem rootRegion_relabel :
    region (order.map labels.idOf) ((edges.map (Edge.rename labels.idOf)).map (·.arc)) (labels.idOf root) =
      (region order (edges.map (·.arc)) root).map labels.idOf := by
  rw [map_arc_rename, region_map labels.injective]

private theorem part_relabel :
    part (edges.map (.rename labels.idOf)) (order.map labels.idOf) (labels.idOf root) =
      (part edges order root).map labels.idOf := by
  simp only [part, rootRegion_relabel, List.filter_map, Function.comp_def, List.mem_map_of_injective labels.injective]

private theorem partNodes_relabel :
    partNodes (nodes.map (.relabel labels)) (edges.map (.rename labels.idOf)) (order.map labels.idOf)
        (labels.idOf root) =
      (partNodes nodes edges order root).map (.relabel labels) := by
  simp only [partNodes, part_relabel, List.filterMap_map, List.map_filterMap, Function.comp_def, findNode?_relabel]

private theorem leaving_relabel :
    leaving (edges.map (.rename labels.idOf)) (order.map labels.idOf) (labels.idOf root) =
      (leaving edges order root).map (.rename labels.idOf) := by
  simp only [leaving, rootRegion_relabel, List.filter_map, Function.comp_def]
  simp only [Edge.rename, List.mem_map_of_injective labels.injective]

omit [DecidableEq δ] in
private theorem compileRoot_eq :
    compileRoot nodes edges settings order root =
      match build (partNodes nodes edges order root) (leaving edges order root) with
      | .error faults => .ok (.rejected root faults)
      | .ok tree =>
        (propagate (partNodes nodes edges order root) (leaving edges order root) settings.variablePrefixLength).map
          fun bindings => .compiled ⟨root, part edges order root, tree, bindings⟩ := by
  unfold compileRoot partNodes part leaving
  dsimp only
  cases build ((order.filter (· ∈ region order (edges.map (·.arc)) root)).filterMap (findNode? nodes))
    (edges.filter fun edge => edge.source ∈ region order (edges.map (·.arc)) root) <;> rfl

private theorem compileRoot_relabel :
    compileRoot (nodes.map (.relabel labels)) (edges.map (.rename labels.idOf)) settings (order.map labels.idOf)
        (labels.idOf root) =
      renamed labels.idOf (.relabel labels) (compileRoot nodes edges settings order root) := by
  rw [compileRoot_eq, compileRoot_eq, partNodes_relabel, leaving_relabel, part_relabel, build_relabel]
  cases build (partNodes nodes edges order root) (leaving edges order root) with
  | error faults => rfl
  | ok tree =>
    dsimp only [Except.map, Except.mapError]
    rw [propagate_relabel]
    cases propagate (partNodes nodes edges order root) (leaving edges order root) settings.variablePrefixLength <;> rfl

end Root

private theorem compileComponent_relabel :
    compileComponent (nodes.map (.relabel labels)) (edges.map (.rename labels.idOf)) settings =
      renamed labels.idOf (.relabel labels) (compileComponent nodes edges settings) := by
  rw [compileComponent, compileComponent, linearize_relabel]
  apply renamed_bind
  intro result
  obtain ⟨order, roots, disconnected, error⟩ := result
  cases error with
  | some error => rfl
  | none =>
    dsimp only [Linearization.rename, Option.map_none]
    rw [renamed_mapM (compileRoot_relabel labels nodes edges settings order)]
    apply renamed_bind
    intro outcomes
    rfl

private theorem fragments_relabel :
    fragments (nodes.map (.relabel labels)) (edges.map (.rename labels.idOf)) =
      (fragments nodes edges).map (Prod.map (List.map (.relabel labels)) (List.map (.rename labels.idOf))) := by
  rw [fragments, fragments, map_arc_rename, map_id_relabel, components_map labels.injective, List.map_map,
    List.map_map]
  apply List.map_congr_left
  intro ids _
  simp only [Function.comp_apply, Prod.map, List.filter_map, Function.comp_def, Node.relabel, Edge.rename,
    List.mem_map_of_injective labels.injective]

end Compile

namespace Graph

variable (graph : Graph α β)

private theorem disconnected_relabel :
    (graph.relabel labels).ids.filter (fun id =>
        !(graph.keyed.resolved.map (Edge.rename labels.idOf)).any (·.touches id)) =
      (graph.ids.filter fun id => !graph.keyed.resolved.any (·.touches id)).map labels.idOf := by
  have touches (edge : Edge α) (id : α) : (edge.rename labels.idOf).touches (labels.idOf id) = edge.touches id := by
    simp only [Edge.touches, Edge.rename, labels.injective.eq_iff]
  have ids : (graph.relabel labels).ids = graph.ids.map labels.idOf := map_id_relabel labels graph.nodes
  simp only [ids, List.filter_map, Function.comp_def, List.any_map, touches]

/-- A relabeled graph has the relabeled compilation. -/
theorem compile_relabel (settings : CompilerSettings) :
    (graph.relabel labels).compile settings = renamed labels.idOf (.relabel labels) (graph.compile settings) := by
  have fragments :
      Compile.fragments (graph.keyed.relabel labels).nodes (graph.keyed.resolved.map (.rename labels.idOf)) =
      (Compile.fragments graph.keyed.nodes graph.keyed.resolved).map
        (Prod.map (List.map (.relabel labels)) (List.map (.rename labels.idOf))) :=
    Compile.fragments_relabel labels graph.keyed.nodes graph.keyed.resolved
  unfold compile
  rw [keyed_relabel, resolved_relabel, dangling_relabel]
  dsimp only
  rw [fragments, renamed_mapM fun part => Compile.compileComponent_relabel labels part.1 part.2 settings]
  apply renamed_bind
  intro outcomes
  have trees : (outcomes.map (ComponentOutcome.relabel labels)).flatMap (·.trees) =
      (outcomes.flatMap (·.trees)).map (.relabel labels) := by
    simp only [List.flatMap_map, List.map_flatMap, ComponentOutcome.trees_relabel]
  have errors : (outcomes.map (ComponentOutcome.relabel labels)).flatMap (·.errors) =
      (outcomes.flatMap (·.errors)).map (.rename labels.idOf) := by
    simp only [List.flatMap_map, List.map_flatMap, ComponentOutcome.errors_relabel]
  have notices : (outcomes.map (ComponentOutcome.relabel labels)).flatMap (·.notices) =
      (outcomes.flatMap (·.notices)).map (.rename labels.idOf) := by
    simp only [List.flatMap_map, List.map_flatMap, ComponentOutcome.notices_relabel]
  have nodes : (graph.relabel labels).nodes.length = graph.nodes.length := List.length_map _
  simp only [pure, Except.pure, renamed, Compilation.relabel, trees, errors, notices, nodes, disconnected_relabel,
    List.length_map, List.map_append, List.map_map, List.map_cons, List.map_nil, Notice.rename, Function.comp_def]

end Graph

/-- Ids count only as equal or different, event types and contents not at all. Where contents are kept, the canonical
texts of the trees are the same. -/
theorem compile_relabeled (graph : Graph α Fields) (labels : Relabeling α δ Fields Fields)
    (settings : CompilerSettings) :
    ∃ compilation, graph.compile settings = .ok compilation ∧
      (graph.relabel labels).compile settings = .ok (compilation.relabel labels) ∧
      (labels.contentOf = id →
        (compilation.relabel labels).trees.map (·.tree.encode.canonical) =
          compilation.trees.map (·.tree.encode.canonical)) := by
  obtain ⟨compilation, _, found, _⟩ := graph.exists_compile_keyed settings
  refine ⟨compilation, found, ?_, ?_⟩
  · rw [Graph.compile_relabel, found]
    rfl
  · intro kept
    have sameNode : TreeNode.mapContent (id : Fields → Fields) = id := by
      funext node
      cases node <;> rfl
    have same (tree : LinearTree Fields) : tree.mapContent id = tree := by
      rw [LinearTree.mapContent, sameNode, List.map_id]
    simp only [Compilation.relabel, List.map_map, Function.comp_def, CompiledTree.relabel, kept, same]

end BoxTree
