import BoxTree.Proofs.Fragments
import BoxTree.Proofs.RootParts

/-! Compilation never meets an unknown name. Each component comes to a cycle that keeps it from having a
linear order, or to a tree or faulty gates for each of its roots. -/

namespace BoxTree

open Compile

variable {α β : Type} [DecidableEq α]

/-- What a root comes to, given the linear order of its component. -/
inductive RootOutcome.Of (nodes : List (Node α β)) (edges : List (Edge α)) (settings : CompilerSettings)
    (order : List α) (root : α) : RootOutcome α β → Prop where
  | compiled {tree : LinearTree β} {bindings : Bindings α}
      (built : build (partNodes nodes edges order root) (leaving edges order root) = .ok tree)
      (bound : propagate (partNodes nodes edges order root) (leaving edges order root) settings.variablePrefixLength =
        .ok bindings) :
      Of nodes edges settings order root (.compiled ⟨root, part edges order root, tree, bindings⟩)
  | rejected {faults : List (ArityFault α)}
      (failed : build (partNodes nodes edges order root) (leaving edges order root) = .error faults) :
      Of nodes edges settings order root (.rejected root faults)

/-- What a component comes to. -/
inductive ComponentOutcome.Of (nodes : List (Node α β)) (edges : List (Edge α)) (settings : CompilerSettings) :
    ComponentOutcome α β → Prop where
  | rejected {result : Linearization α} {waiting witness : List α}
      (found : linearize nodes edges settings.queueOrder = .ok result)
      (reported : result.error = some (.cycle waiting witness))
      (cyclic : ¬ Acyclic (edges.map (·.arc))) (nonempty : waiting ≠ [])
      (touched : ∀ id ∈ waiting, Touched (edges.map (·.arc)) id) :
      Of nodes edges settings (.rejected (.cycle waiting witness))
  | rooted {result : Linearization α} {outcomes : List (RootOutcome α β)}
      (found : linearize nodes edges settings.queueOrder = .ok result) (complete : result.error = none)
      (ordered : Ordered nodes edges result.order) (once : result.roots.Nodup)
      (roots : ∀ root, root ∈ result.roots ↔ IsRoot (edges.map (·.arc)) root)
      (compiled : List.Forall₂ (RootOutcome.Of nodes edges settings result.order) result.roots outcomes) :
      Of nodes edges settings (.rooted outcomes)

theorem ComponentOutcome.Of.of_mem_trees {nodes : List (Node α β)} {edges : List (Edge α)}
    {settings : CompilerSettings} {outcome : ComponentOutcome α β} (of : outcome.Of nodes edges settings)
    {compiled : CompiledTree α β} (member : compiled ∈ outcome.trees) :
    ∃ order root, Ordered nodes edges order ∧ IsRoot (edges.map (·.arc)) root ∧
      RootOutcome.Of nodes edges settings order root (.compiled compiled) := by
  cases of with
  | rejected => cases member
  | rooted found complete ordered once roots outcomes =>
    obtain ⟨made, listed, isTree⟩ := List.mem_filterMap.mp member
    obtain ⟨root, isRoot, of⟩ := exists_of_forall₂_right outcomes listed
    cases made with
    | rejected => cases isTree
    | compiled tree =>
      cases isTree
      exact ⟨_, root, ordered, (roots root).mp isRoot, of⟩

namespace Links

theorem roots_linearize {links : Links α} {order : QueueOrder} (complete : (links.linearize order).error = none) :
    (links.linearize order).roots = links.roots := by
  rw [linearize_eq] at complete ⊢
  split at complete
  next => cases complete
  next rooted => rw [if_neg rooted]

end Links

theorem Fragment.usable {nodes partNodes : List (Node α β)} {edges partEdges : List (Edge α)} {first : α}
    (fragment : Fragment nodes edges first partNodes partEdges) (unique : (nodes.map (·.id)).Nodup)
    {edge : Edge α} (member : edge ∈ partEdges) (usable : Usable nodes edge) : Usable partNodes edge := by
  have same {id : α} (kept : id ∈ partNodes.map (·.id)) : findNode? partNodes id = findNode? nodes id :=
    findNode?_eq_of_subset unique (fragment.unique unique) fragment.sublist.subset kept
  exact usable.transfer (same (fragment.closed edge member).1) (same (fragment.closed edge member).2)

namespace Compile

variable {nodes : List (Node α β)} {edges : List (Edge α)} {order : List α}

private theorem exists_compileRoot (ordered : Ordered nodes edges order) (settings : CompilerSettings) {root : α}
    (member : root ∈ order) :
    ∃ outcome, compileRoot nodes edges settings order root = .ok outcome ∧
      RootOutcome.Of nodes edges settings order root outcome := by
  unfold compileRoot
  cases built : build (partNodes nodes edges order root) (leaving edges order root) with
  | error faults =>
    refine ⟨_, ?_, .rejected built⟩
    unfold partNodes part leaving at built
    dsimp only
    rw [built]
    rfl
  | ok tree =>
    obtain ⟨bindings, bound⟩ := exists_propagate settings.variablePrefixLength (ordered.usable_leaving member)
    refine ⟨_, ?_, .compiled built bound⟩
    unfold partNodes part leaving at built bound
    dsimp only
    rw [built]
    dsimp only
    rw [bound]
    rfl

theorem exists_compileComponent (settings : CompilerSettings) (unique : (nodes.map (·.id)).Nodup)
    (usable : ∀ edge ∈ edges, Usable nodes edge)
    (joined : ∀ left right, Touched (edges.map (·.arc)) left → Touched (edges.map (·.arc)) right →
      Joined (edges.map (·.arc)) left right) :
    ∃ outcome, compileComponent nodes edges settings = .ok outcome ∧
      ComponentOutcome.Of nodes edges settings outcome := by
  obtain ⟨links, ids, arcs, found⟩ := linearize_eq_ok nodes edges settings.queueOrder fun edge member =>
    ⟨(usable edge member).source, (usable edge member).target⟩
  have unique' : links.ids.Nodup := ids ▸ unique
  have exact := links.exact_linearize unique' settings.queueOrder
  unfold compileComponent
  rw [found]
  dsimp only [bind, Except.bind]
  rw [← arcs] at joined
  by_cases acyclic : Acyclic links.arcs
  · have complete := exact.complete.mpr acyclic
    have roots (root : α) : root ∈ (links.linearize settings.queueOrder).roots ↔ IsRoot links.arcs root := by
      rw [Links.roots_linearize complete, Links.mem_roots]
    have ordered : Ordered nodes edges (links.linearize settings.queueOrder).order := by
      refine ⟨unique, usable, exact.once, arcs ▸ exact.parentsFirst, ?_⟩
      intro id
      rw [exact.members, arcs]
      exact and_iff_left (arcs ▸ acyclic.grounded id)
    have once : (links.linearize settings.queueOrder).roots.Nodup := by
      rw [Links.roots_linearize complete]
      exact unique'.filter _
    obtain ⟨outcomes, collected, compiled⟩ := exists_mapM_eq_ok fun root member =>
      exists_compileRoot ordered settings ((ordered.members root).mpr (arcs ▸ ((roots root).mp member).touched))
    rw [complete]
    dsimp only
    rw [collected]
    exact ⟨_, rfl, .rooted found complete ordered once (arcs ▸ roots) compiled⟩
  · obtain ⟨waiting, witness, reported⟩ := Links.exists_cycle_error unique' joined acyclic
    obtain ⟨_, nonempty, waits⟩ := links.waiting_of_error unique' reported
    rw [reported]
    exact ⟨_, rfl, .rejected found reported (arcs ▸ acyclic) nonempty fun id member => arcs ▸ (waits id member).1⟩

end Compile

namespace Compile

section Leaving

variable {graph : Graph α β} {part : List (Node α β) × List (Edge α)} {first root : α} {order : List α}
  (fragment : Fragment graph.nodes graph.resolved first part.1 part.2) (ordered : Ordered part.1 part.2 order)
  (member : root ∈ order)
include fragment ordered member

/-- What leaves the part of a root are all edges of the graph that start there. -/
theorem mem_leaving_iff {edge : Edge α} :
    edge ∈ leaving part.2 order root ↔ edge ∈ graph.resolved ∧ edge.source ∈ Compile.part part.2 order root := by
  rw [ordered.mem_leaving member, ordered.mem_part member, fragment.mem_edges]
  have within := fragment.touched_iff.mp ((ordered.members root).mp member)
  constructor
  · exact fun ⟨⟨listed, _⟩, path⟩ => ⟨listed, path⟩
  · intro ⟨listed, path⟩
    exact ⟨⟨listed, within.trans (path.mono fragment.partOf.subset).joined⟩, path⟩

theorem leaving_eq_filter (listed : part ∈ fragments graph.nodes graph.resolved) :
    leaving part.2 order root = graph.resolved.filter fun edge => edge.source ∈ Compile.part part.2 order root := by
  obtain ⟨keep, whole⟩ : ∃ keep : Edge α → Bool, leaving part.2 order root = graph.resolved.filter keep := by
    obtain ⟨ids, _, rfl⟩ := List.mem_map.mp listed
    exact ⟨_, List.filter_filter⟩
  rw [whole]
  apply List.filter_congr
  intro edge resolved
  have kept : keep edge = true ↔ edge.source ∈ Compile.part part.2 order root := by
    rw [← and_iff_right (b := keep edge = true) resolved, ← List.mem_filter, ← whole,
      mem_leaving_iff fragment ordered member, and_iff_right resolved]
  rw [Bool.eq_iff_iff, kept, decide_eq_true_iff]

omit member in
theorem findNode?_of_mem_part (unique : graph.ids.Nodup) {id : α} (kept : id ∈ Compile.part part.2 order root) :
    findNode? part.1 id = findNode? graph.nodes id :=
  findNode?_eq_of_subset unique (fragment.unique unique) fragment.sublist.subset
    (ordered.mem_nodes (List.mem_filter.mp kept).1)

omit member in
theorem findNode?_partNodes_eq (unique : graph.ids.Nodup) {id : α} (kept : id ∈ Compile.part part.2 order root) :
    findNode? (partNodes part.1 part.2 order root) id = findNode? graph.nodes id :=
  (ordered.findNode?_partNodes kept).trans (findNode?_of_mem_part fragment ordered unique kept)

end Leaving
end Compile

abbrev Graph.arcs (graph : Graph α β) : List (α × α) := graph.resolved.map (·.arc)

/-- A compilation that collects what the components of a graph come to. -/
structure Compilation.Collects (graph : Graph α β) (settings : CompilerSettings) (compilation : Compilation α β)
    (outcomes : List (ComponentOutcome α β)) : Prop where
  components : List.Forall₂ (fun part outcome => (∃ first, Fragment graph.nodes graph.resolved first part.1 part.2) ∧
    outcome.Of part.1 part.2 settings) (fragments graph.nodes graph.resolved) outcomes
  trees : compilation.trees = outcomes.flatMap (·.trees)
  errors : compilation.errors = outcomes.flatMap (·.errors)
  warnings : compilation.warnings = graph.dangling
  disconnected : compilation.disconnected = graph.ids.filter fun id => !graph.resolved.any (·.touches id)

namespace Graph

variable {graph : Graph α β}

theorem resolved_closed :
    ∀ edge ∈ graph.resolved, edge.source ∈ graph.nodes.map (·.id) ∧ edge.target ∈ graph.nodes.map (·.id) :=
  fun _ member => ⟨(usable_of_resolved member).source, (usable_of_resolved member).target⟩

private theorem exists_outcomes (unique : graph.ids.Nodup) (settings : CompilerSettings) :
    ∃ outcomes, (fragments graph.nodes graph.resolved).mapM (fun part =>
        compileComponent part.1 part.2 settings) = .ok outcomes ∧
      List.Forall₂ (fun part outcome => (∃ first, Fragment graph.nodes graph.resolved first part.1 part.2) ∧
        outcome.Of part.1 part.2 settings) (fragments graph.nodes graph.resolved) outcomes := by
  apply exists_mapM_eq_ok
  intro part member
  obtain ⟨first, fragment⟩ := fragment_of_mem resolved_closed member
  obtain ⟨outcome, found, of⟩ := exists_compileComponent settings (fragment.unique unique)
    (fun edge listed => fragment.usable unique listed (usable_of_resolved ((fragment.mem_edges edge).mp listed).1))
    fun _ _ => fragment.joined
  exact ⟨outcome, found, ⟨first, fragment⟩, of⟩

theorem exists_compile (unique : graph.ids.Nodup) (settings : CompilerSettings) :
    ∃ compilation outcomes, graph.compile settings = .ok compilation ∧
      compilation.Collects graph settings outcomes := by
  obtain ⟨outcomes, collected, components⟩ := exists_outcomes unique settings
  have same := keyed_eq_self unique
  have found : (fragments graph.keyed.nodes graph.keyed.resolved).mapM (fun part =>
      compileComponent part.1 part.2 settings) = .ok outcomes := same.symm ▸ collected
  refine ⟨_, outcomes, congrArg (· >>= _) found, components, rfl, rfl, congrArg dangling same, ?_⟩
  rw [same]

/-- A tree of a compilation is what some root of some component comes to. -/
theorem exists_root_of_mem_trees {settings : CompilerSettings} {outcomes : List (ComponentOutcome α β)}
    (components : List.Forall₂ (fun part (outcome : ComponentOutcome α β) =>
      (∃ first, Fragment graph.nodes graph.resolved first part.1 part.2) ∧ outcome.Of part.1 part.2 settings)
      (fragments graph.nodes graph.resolved) outcomes)
    {compiled : CompiledTree α β} (member : compiled ∈ outcomes.flatMap (·.trees)) :
    ∃ part ∈ fragments graph.nodes graph.resolved, ∃ first order root,
      Fragment graph.nodes graph.resolved first part.1 part.2 ∧ Ordered part.1 part.2 order ∧
        IsRoot (part.2.map (·.arc)) root ∧ RootOutcome.Of part.1 part.2 settings order root (.compiled compiled) := by
  obtain ⟨outcome, listed, made⟩ := List.mem_flatMap.mp member
  obtain ⟨part, isPart, ⟨first, fragment⟩, of⟩ := exists_of_forall₂_right components listed
  obtain ⟨order, root, ordered, isRoot, of⟩ := of.of_mem_trees made
  exact ⟨part, isPart, first, order, root, fragment, ordered, isRoot, of⟩

/-- The trees of a compilation are those that the components of the graph with each id once come to. -/
theorem exists_compile_keyed (graph : Graph α β) (settings : CompilerSettings) :
    ∃ compilation, ∃ outcomes : List (ComponentOutcome α β), graph.compile settings = .ok compilation ∧
      compilation.trees = outcomes.flatMap ComponentOutcome.trees ∧
      List.Forall₂ (fun part (outcome : ComponentOutcome α β) =>
        (∃ first, Fragment graph.keyed.nodes graph.keyed.resolved first part.1 part.2) ∧
          outcome.Of part.1 part.2 settings)
        (fragments graph.keyed.nodes graph.keyed.resolved) outcomes := by
  have unique : graph.keyed.ids.Nodup := nodup_latest Node.id graph.nodes
  obtain ⟨outcomes, collected, components⟩ := exists_outcomes unique settings
  exact ⟨_, outcomes, congrArg (· >>= _) collected, rfl, components⟩

end Graph
end BoxTree
