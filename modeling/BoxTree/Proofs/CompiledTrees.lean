import BoxTree.Proofs.CompileSteps
import Mathlib

/-! Compiled trees stand for the parts of a graph that their roots reach: each node of the part once, in a
linear order, under one parent. -/

namespace BoxTree

variable {α β : Type} [DecidableEq α]

/-- A compiled tree holds its root and the nodes that the root leads to, each at the place where the order
has it, and it is a valid tree in which children come after their parents. -/
structure CompiledTree.Faithful (graph : Graph α β) (compiled : CompiledTree α β) : Prop where
  once : compiled.order.Nodup
  first : compiled.order.head? = some compiled.root
  members : ∀ id, id ∈ compiled.order ↔ Leads graph.arcs compiled.root id
  forward : ∀ edge ∈ graph.resolved, edge.source ∈ compiled.order →
    edge.target ∈ compiled.order ∧ compiled.order.idxOf edge.source < compiled.order.idxOf edge.target
  carried : List.Forall₂ (fun id made => ∃ node ∈ graph.nodes, node.id = id ∧ Carries node made)
    compiled.order compiled.tree.nodes
  later : ∀ link ∈ compiled.tree.links, link.1 < link.2
  valid : compiled.tree.isValid = true

namespace Ordered

open Compile

variable {nodes : List (Node α β)} {edges : List (Edge α)} {order : List α} {root : α} {tree : LinearTree β}
  (ordered : Ordered nodes edges order)
include ordered

private theorem carried (built : build (partNodes nodes edges order root) (leaving edges order root) = .ok tree) :
    List.Forall₂ (fun id made => ∃ node ∈ nodes, node.id = id ∧ Carries node made) (part edges order root)
      tree.nodes := by
  rw [← ordered.map_id_partNodes root, List.forall₂_map_left_iff]
  exact (build_eq_ok built).1.imp fun node made ⟨listed, found⟩ =>
    ⟨node, ordered.partNodes_subset root listed, rfl, (carries_treeNode found).1⟩

end Ordered

private theorem Fragment.faithful {graph : Graph α β} {nodes : List (Node α β)} {edges : List (Edge α)} {first root : α}
    {order : List α} {tree : LinearTree β} (fragment : Fragment graph.nodes graph.resolved first nodes edges)
    (ordered : Ordered nodes edges order) (member : root ∈ order)
    (built : build (Compile.partNodes nodes edges order root) (Compile.leaving edges order root) = .ok tree)
    (bindings : Bindings α) :
    CompiledTree.Faithful graph ⟨root, Compile.part edges order root, tree, bindings⟩ := by
  have within := fragment.touched_iff.mp ((ordered.members root).mp member)
  have leads (id : α) : Leads (edges.map (·.arc)) root id ↔ Leads graph.arcs root id :=
    ⟨Leads.mono fragment.partOf.subset,
      fun path => fragment.partOf.leads ((fragment.partOf.inside_of_leads path).mp within) path⟩
  have sorted := ordered.sorted member
  exact {
    once := ordered.once_part root
    first := ordered.head?_part member
    members := fun id => (ordered.mem_part member).trans (leads id)
    forward := fun edge resolved source => by
      have path := (leads edge.source).mp ((ordered.mem_part member).mp source)
      exact ordered.forward_edge member ((fragment.mem_edges edge).mpr ⟨resolved, within.trans path.joined⟩) source
    carried := (ordered.carried built).imp fun _ _ ⟨node, listed, stands⟩ =>
      ⟨node, fragment.sublist.subset listed, stands⟩
    later := fun _ link => (sorted.lt_of_mem_links built link).2.1
    valid := (LinearTree.isValid_iff_wellFormed tree).mpr (sorted.wellFormed built) }

/-- Compiling a graph with distinct ids always gives a result, and each of its trees is faithful. -/
theorem compile_faithful (graph : Graph α β) (settings : CompilerSettings) (unique : graph.ids.Nodup) :
    ∃ compilation, graph.compile settings = .ok compilation ∧
      ∀ compiled ∈ compilation.trees, compiled.Faithful graph := by
  obtain ⟨compilation, outcomes, found, collects⟩ := graph.exists_compile unique settings
  refine ⟨compilation, found, ?_⟩
  intro compiled member
  rw [collects.trees] at member
  obtain ⟨outcome, listed, made⟩ := List.mem_flatMap.mp member
  obtain ⟨part, _, ⟨first, fragment⟩, of⟩ := exists_of_forall₂_right collects.components listed
  obtain ⟨order, root, ordered, isRoot, of⟩ := of.of_mem_trees made
  cases of with
  | compiled built => exact fragment.faithful ordered ((ordered.members root).mpr isRoot.touched) built _

/-- Two roots share a box. One of them also reaches it through a gate. -/
def sharedBox : Graph Nat Nat where
  nodes := [⟨0, .box ⟨"first", [], [], 5⟩⟩, ⟨1, .gate .not⟩, ⟨2, .box ⟨"shared", [], [], 6⟩⟩,
    ⟨3, .box ⟨"second", [], [], 7⟩⟩]
  edges := [⟨0, 2, none, none, none⟩, ⟨0, 1, none, none, none⟩, ⟨1, 2, none, none, none⟩, ⟨3, 2, none, none, none⟩]

theorem compile_faithful_sharedBox :
    ∃ compilation, sharedBox.compile {} = .ok compilation ∧
      compilation.trees.map (fun compiled => (compiled.order, compiled.tree.nodes)) =
        [([0, 1, 2], [.box 5 [1], .not 2, .box 6 []]), ([3, 2], [.box 7 [1], .box 6 []])] ∧
      ∀ compiled ∈ compilation.trees, compiled.Faithful sharedBox := by
  obtain ⟨compilation, found, faithful⟩ := compile_faithful sharedBox {} (by decide)
  have run : (sharedBox.compile {}).toOption.map (·.trees.map fun compiled => (compiled.order, compiled.tree.nodes)) =
      some [([0, 1, 2], [.box 5 [1], .not 2, .box 6 []]), ([3, 2], [.box 7 [1], .box 6 []])] := by cbv
  rw [found] at run
  exact ⟨compilation, found, Option.some.inj run, faithful⟩

end BoxTree
