import BoxTree.Proofs.CompileSteps
import Mathlib

/-! Components compile independently. A component by itself is one component again, and all that happens to it
depends on its own nodes and edges only, so a compilation is put together from those of the components. -/

namespace BoxTree

open Compile

section Traversal

variable {ε γ δ ι : Type}

private theorem exists_mapM_beside {f : γ → Except ε δ} {g : γ → Except ε ι} {right : δ → ι → Prop} {items : List γ}
    (every : ∀ item ∈ items, ∃ one other, f item = .ok one ∧ g item = .ok other ∧ right one other) :
    ∃ ones others, items.mapM f = .ok ones ∧ items.mapM g = .ok others ∧ List.Forall₂ right ones others := by
  induction items with
  | nil => exact ⟨[], [], rfl, rfl, .nil⟩
  | cons item rest ih =>
    obtain ⟨⟨one, other, first, second, holds⟩, every⟩ := List.forall_mem_cons.mp every
    obtain ⟨ones, others, left, right, hold⟩ := ih every
    refine ⟨one :: ones, other :: others, ?_, ?_, .cons holds hold⟩
    · rw [List.mapM_cons, first, left]
      rfl
    · rw [List.mapM_cons, second, right]
      rfl

private theorem flatMap_eq_of_forall₂ {f : δ → List γ} {g : ι → List γ} {ones : List δ} {others : List ι}
    (beside : List.Forall₂ (fun one other => f one = g other) ones others) : ones.flatMap f = others.flatMap g := by
  induction beside with
  | nil => rfl
  | cons same _ ih => rw [List.flatMap_cons, List.flatMap_cons, same, ih]

end Traversal

variable {α β : Type}

/-- The connected parts of some nodes that have an arc. Each holds with a node everything that hangs together
with it, in node order, and they stand in the order of their first nodes. -/
structure Parts (ids : List α) (arcs : List (α × α)) (parts : List (List α)) : Prop where
  cover : ∀ id, Touched arcs id ↔ ∃ part ∈ parts, id ∈ part
  whole : ∀ part ∈ parts, ∀ id ∈ part, ∀ other, other ∈ part ↔ Joined arcs id other
  inner : ∀ part ∈ parts, part ≠ [] ∧ part.Sublist ids
  firsts : (parts.filterMap List.head?).Sublist ids

variable [DecidableEq α]

section Components

variable {domain : List α} {arcs : List (α × α)}

private theorem heads_groups_sublist (nodes : List α) :
    ((groups domain arcs nodes).filterMap List.head?).Sublist nodes := by
  induction nodes using groups.induct domain arcs with
  | case1 => simp [groups]
  | case2 id rest near ih =>
    rw [@List.unattach_filter _ _ rest.attach _ (fun other => decide (other ∉ near)) fun _ _ => rfl,
      List.unattach_attach] at ih
    rw [groups]
    exact (ih.trans List.filter_sublist).cons_cons id

private theorem parts_components (closed : ∀ arc ∈ arcs, arc.1 ∈ domain ∧ arc.2 ∈ domain) :
    Parts domain arcs (components domain arcs) where
  cover id := by
    constructor
    · exact exists_component closed
    · rintro ⟨part, listed, member⟩
      obtain ⟨_, first, touched, exact⟩ := component_exact closed listed
      exact touched.joined ((exact id).mp member)
  whole part listed id member other := by
    obtain ⟨_, first, _, exact⟩ := component_exact closed listed
    have joined := (exact id).mp member
    exact (exact other).trans ⟨joined.symm.trans, joined.trans⟩
  inner part listed := by
    obtain ⟨sublist, first, _, exact⟩ := component_exact closed listed
    exact ⟨List.ne_nil_of_mem ((exact first).mpr .refl), sublist⟩
  firsts := (List.filter_sublist.filterMap _).trans (heads_groups_sublist domain)

end Components

/-- Some nodes of a graph by themselves, with the usable edges between them. -/
def Graph.restrict (graph : Graph α β) (part : List α) : Graph α β where
  nodes := graph.nodes.filter (·.id ∈ part)
  edges := graph.resolved.filter fun edge => edge.source ∈ part && edge.target ∈ part

private theorem dangling?_congr {nodes others : List (Node α β)} {edge : Edge α}
    (source : findNode? others edge.source = findNode? nodes edge.source)
    (target : findNode? others edge.target = findNode? nodes edge.target) :
    edge.dangling? others = edge.dangling? nodes := by
  simp only [Edge.dangling?, danglingEnd?, source, target]

namespace Fragment

variable {graph : Graph α β} {nodes : List (Node α β)} {edges : List (Edge α)} {first : α}
  (fragment : Fragment graph.nodes graph.resolved first nodes edges)
include fragment

private theorem fragments_eq : fragments nodes edges = [(nodes, edges)] := by
  have touched : Touched (edges.map (·.arc)) first := fragment.touched_iff.mpr .refl
  apply fragments_eq_singleton fragment.closed touched
  intro node member
  apply fragment.joined touched
  exact fragment.touched_iff.mpr ((fragment.mem_nodes _).mp (List.mem_map_of_mem member))

variable (unique : graph.ids.Nodup)
include unique

private theorem resolved_eq : (⟨nodes, edges⟩ : Graph α β).resolved = edges := by
  apply List.filter_eq_self.mpr
  intro edge member
  have same {id : α} (kept : id ∈ nodes.map (·.id)) : findNode? nodes id = findNode? graph.nodes id :=
    findNode?_eq_of_subset unique (fragment.unique unique) fragment.sublist.subset kept
  have closed := fragment.closed edge member
  dsimp only
  rw [dangling?_congr (same closed.1) (same closed.2)]
  exact (List.mem_filter.mp ((fragment.mem_edges edge).mp member).1).2

/-- A component by itself compiles to what becomes of it in the graph. -/
theorem compile_eq {settings : CompilerSettings} {outcome : ComponentOutcome α β}
    (made : compileComponent nodes edges settings = .ok outcome) :
    ∃ piece, (⟨nodes, edges⟩ : Graph α β).compile settings = .ok piece ∧
      outcome.trees = piece.trees ∧ outcome.errors = piece.errors := by
  have alone : (⟨nodes, edges⟩ : Graph α β).ids.Nodup := fragment.unique unique
  have outcomes : (fragments nodes edges).mapM (fun part => compileComponent part.1 part.2 settings) =
      .ok [outcome] := by
    rw [fragment.fragments_eq, List.mapM_cons, made]
    rfl
  unfold Graph.compile
  rw [Graph.keyed_eq_self alone, fragment.resolved_eq unique]
  refine ⟨_, congrArg (· >>= _) outcomes, ?_, ?_⟩
  · exact (List.flatMap_singleton _ _).symm
  · exact (List.flatMap_singleton _ _).symm

end Fragment

private theorem Graph.restrict_eq {graph : Graph α β} {part : List α}
    (listed : part ∈ components graph.ids graph.arcs) :
    graph.restrict part = ⟨graph.nodes.filter (·.id ∈ part), graph.resolved.filter (·.source ∈ part)⟩ := by
  have whole := (parts_components (arcs_closed graph.resolved_closed)).whole part listed
  rw [restrict, Graph.mk.injEq]
  refine ⟨rfl, List.filter_congr ?_⟩
  intro edge member
  by_cases inside : edge.source ∈ part
  · have arc : Arc graph.arcs edge.source edge.target := List.mem_map.mpr ⟨edge, member, rfl⟩
    simp [inside, (whole _ inside _).mpr arc.joined]
  · simp [inside]

private theorem Graph.exists_piece {graph : Graph α β} (settings : CompilerSettings) (unique : graph.ids.Nodup)
    {part : List α}
    (listed : part ∈ components graph.ids graph.arcs) :
    ∃ outcome piece, compileComponent (graph.nodes.filter (·.id ∈ part)) (graph.resolved.filter (·.source ∈ part))
        settings = .ok outcome ∧ (graph.restrict part).compile settings = .ok piece ∧
      outcome.trees = piece.trees ∧ outcome.errors = piece.errors := by
  obtain ⟨first, fragment⟩ := fragment_of_mem graph.resolved_closed (List.mem_map_of_mem listed)
  obtain ⟨outcome, made, _⟩ := exists_compileComponent settings (fragment.unique unique)
    (fun edge member => fragment.usable unique member (usable_of_resolved ((fragment.mem_edges edge).mp member).1))
    fun _ _ => fragment.joined
  obtain ⟨piece, found, same⟩ := fragment.compile_eq unique made
  exact ⟨outcome, piece, made, by rw [restrict_eq listed]; exact found, same⟩

/-- The trees and errors of a graph are those that its connected parts give by themselves, one part after
the other. -/
theorem compile_components (graph : Graph α β) (settings : CompilerSettings) (unique : graph.ids.Nodup) :
    Parts graph.ids graph.arcs (components graph.ids graph.arcs) ∧ ∃ compilation pieces,
      graph.compile settings = .ok compilation ∧
      (components graph.ids graph.arcs).mapM (fun part => (graph.restrict part).compile settings) = .ok pieces ∧
      compilation.trees = pieces.flatMap (·.trees) ∧ compilation.errors = pieces.flatMap (·.errors) := by
  obtain ⟨outcomes, pieces, collected, compiled, beside⟩ :=
    exists_mapM_beside fun _ listed => graph.exists_piece settings unique listed
  have whole : (fragments graph.keyed.nodes graph.keyed.resolved).mapM (fun part =>
      compileComponent part.1 part.2 settings) = .ok outcomes := by
    rw [Graph.keyed_eq_self unique, fragments, List.mapM_map]
    exact collected
  refine ⟨parts_components (arcs_closed graph.resolved_closed), _, pieces, congrArg (· >>= _) whole, compiled, ?_, ?_⟩
  · exact flatMap_eq_of_forall₂ (beside.imp fun _ _ => And.left)
  · exact flatMap_eq_of_forall₂ (beside.imp fun _ _ => And.right)

/-- A dependency, a cycle and a gate short of a child, listed in turns, with a box by itself that has an edge
to nowhere. -/
def tangled : Graph Nat Nat :=
  let box (id : Nat) : Node Nat Nat := ⟨id, .box ⟨"event", [("one", ⟨"one", false, ["order"]⟩)], [], id⟩⟩
  { nodes := [box 0, ⟨1, .gate .not⟩, box 2, box 3, box 4, ⟨5, .gate .and⟩, box 6]
    edges := [⟨1, 2, none, none, none⟩, ⟨4, 0, some ⟨"one", "order"⟩, some ⟨"one", "order"⟩, some "due"⟩,
      ⟨3, 9, none, none, none⟩, ⟨2, 1, none, none, none⟩, ⟨5, 6, none, none, none⟩] }

theorem compile_components_tangled :
    components tangled.ids tangled.arcs = [[0, 4], [1, 2], [5, 6]] ∧ ∃ compilation pieces,
      tangled.compile {} = .ok compilation ∧
      [[0, 4], [1, 2], [5, 6]].mapM (fun part => (tangled.restrict part).compile {}) = .ok pieces ∧
      compilation.trees = pieces.flatMap (·.trees) ∧ compilation.errors = pieces.flatMap (·.errors) ∧
      pieces.map (fun piece => (piece.trees.map fun compiled => (compiled.order, compiled.tree.nodes), piece.errors)) =
        [([([4, 0], [.box 4 [1], .box 0 []])], []), ([], [.order (.cycle [1, 2] [2, 1])]),
          ([], [.arity ⟨5, 2, 1⟩])] := by
  have listed : components tangled.ids tangled.arcs = [[0, 4], [1, 2], [5, 6]] := by cbv
  obtain ⟨_, compilation, pieces, found, compiled, trees, errors⟩ := compile_components tangled {} (by decide)
  rw [listed] at compiled
  have run : ([[0, 4], [1, 2], [5, 6]].mapM fun part => (tangled.restrict part).compile {}).toOption.map
      (·.map fun piece => (piece.trees.map fun compiled => (compiled.order, compiled.tree.nodes), piece.errors)) =
      some [([([4, 0], [.box 4 [1], .box 0 []])], []), ([], [.order (.cycle [1, 2] [2, 1])]),
        ([], [.arity ⟨5, 2, 1⟩])] := by cbv
  rw [compiled] at run
  exact ⟨listed, compilation, pieces, found, compiled, trees, errors, Option.some.inj run⟩

end BoxTree
