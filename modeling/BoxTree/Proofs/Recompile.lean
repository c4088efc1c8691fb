import BoxTree.Proofs.TreeComposition
import BoxTree.Proofs.TreeGraph
import BoxTree.Proofs.Wordings
import Mathlib

/-! Trees taken apart and compiled again. The graph of a tree compiles to one tree, the same one with its
positions renumbered in breadth-first order. -/

namespace BoxTree

open Compile

variable {α β : Type}

private theorem build_of_forall₂ [DecidableEq α] {order : List (Node α β)} {edges : List (Edge α)}
    {made : List (TreeNode β)}
    (every : List.Forall₂ (fun node made =>
      Build.treeNode node (Build.childPlaces order (Build.treeEdges order edges) node.id) = .ok made) order made) :
    build order edges = .ok ⟨made, Build.edgeNames order (Build.treeEdges order edges)⟩ := by
  have built : (order.map fun node =>
      Build.treeNode node (Build.childPlaces order (Build.treeEdges order edges) node.id)) = made.map Except.ok := by
    rwa [← List.forall₂_eq_eq_eq, List.forall₂_map_left_iff, List.forall₂_map_right_iff]
  unfold build
  dsimp only
  rw [built, List.filterMap_map, List.filterMap_map]
  have all : made.filterMap (Except.toOption ∘ (Except.ok (ε := ArityFault α))) = made := List.filterMap_some
  rw [all]
  split
  next => rfl
  next some => exact False.elim (some (List.filterMap_eq_nil_iff.mpr fun _ _ => rfl))

private theorem treeNode_graphNode (id : α) (node : TreeNode β) (place : Int → Nat) :
    Build.treeNode (LinearTree.graphNode id node) (node.children.map place) =
      .ok (node.mapChildren fun child => place child) := by
  cases node with
  | box content children =>
    simp [Build.treeNode, LinearTree.graphNode, TreeNode.mapChildren, TreeNode.children, Function.comp_def]
  | and left right => rfl
  | or left right => rfl
  | not child => rfl

namespace LinearTree

/-- The place of a position in breadth-first order. -/
def place (tree : LinearTree β) (position : Int) : Int := tree.breadthFirst.idxOf position

def renumber (tree : LinearTree β) (entry : EdgeKey × Wording) : EdgeKey × Wording :=
  ((tree.place entry.1.1, tree.place entry.1.2), entry.2)

def named (tree : LinearTree β) : List (EdgeKey × Wording) :=
  tree.links.filterMap fun link => (tree.edgeNameMap.lookup link).map (link, ·)

private theorem WellFormed.perm_named {tree : LinearTree β} (wellFormed : tree.WellFormed) (once : tree.ListsOnce) :
    tree.named.Perm tree.edgeNameMap := by
  apply perm_lookups once.nodup_links (nodup_edgeNameMap tree)
  intro entry member
  obtain ⟨other, inside, same⟩ := List.mem_map.mp (mem_edgeNames_of_mem_map (List.mem_map_of_mem member))
  exact same ▸ wellFormed.named other inside

/-- Nodes that stand for the positions of a tree in breadth-first order. -/
structure LaidOut (tree : LinearTree β) (idOf : Int → α) (order : List (Node α β)) : Prop where
  wellFormed : tree.WellFormed
  large : 2 ≤ tree.length
  once : tree.ListsOnce
  injective : Function.Injective idOf
  listed : order.map (·.id) = tree.breadthFirst.map idOf

namespace LaidOut

variable {tree : LinearTree β} {idOf : Int → α} {order : List (Node α β)} (laidOut : LaidOut tree idOf order)
include laidOut

private theorem mem_breadthFirst {position : Int} : position ∈ tree.breadthFirst ↔ position ∈ tree.positions :=
  (laidOut.wellFormed.perm_breadthFirst laidOut.large laidOut.once).mem_iff

private theorem place_inj {left right : Int} (member : left ∈ tree.positions)
    (same : tree.place left = tree.place right) :
    left = right :=
  (List.idxOf_inj (laidOut.mem_breadthFirst.mpr member)).mp (Int.ofNat.inj same)

private theorem mem_map_id {position : Int} (member : position ∈ tree.positions) : idOf position ∈ order.map (·.id) :=
  laidOut.listed ▸ List.mem_map_of_mem (laidOut.mem_breadthFirst.mpr member)

private theorem nodup_renumbered : ((tree.named.map tree.renumber).map (·.1)).Nodup := by
  have renumbered : (tree.named.map tree.renumber).map (·.1) =
      (tree.named.map (·.1)).map (Prod.map tree.place tree.place) := by
    rw [List.map_map, List.map_map]
    rfl
  have inside : ∀ key ∈ tree.named.map (·.1), key ∈ tree.links := by
    intro key member
    obtain ⟨entry, named, rfl⟩ := List.mem_map.mp member
    obtain ⟨link, listed, found⟩ := List.mem_filterMap.mp named
    obtain ⟨_, _, rfl⟩ := Option.map_eq_some_iff.mp found
    exact listed
  have keys : (tree.named.map (·.1)).Nodup :=
    ((laidOut.wellFormed.perm_named laidOut.once).map (·.1)).nodup_iff.mpr (nodup_edgeNameMap tree)
  rw [renumbered]
  apply keys.map_on
  intro left leftMember right rightMember same
  obtain ⟨sources, targets⟩ := Prod.mk.inj same
  exact Prod.ext (laidOut.place_inj (source_mem (inside left leftMember)) sources)
    (laidOut.place_inj (laidOut.wellFormed.target_mem (inside left leftMember)) targets)

variable [DecidableEq α]

private theorem place?_idOf {position : Int} (member : position ∈ tree.positions) :
    Build.place? (idOf position) order = some (tree.breadthFirst.idxOf position) := by
  have unique : (order.map (·.id)).Nodup := by
    rw [laidOut.listed]
    apply List.Nodup.map laidOut.injective
    apply (laidOut.wellFormed.perm_breadthFirst laidOut.large laidOut.once).nodup_iff.mpr
    exact nodup_positions tree
  rw [Build.place?_eq_some_iff unique, laidOut.listed, List.getElem?_map,
    List.getElem?_idxOf (laidOut.mem_breadthFirst.mpr member)]
  rfl

private theorem treeEdges_toGraph : Build.treeEdges order (tree.toGraph idOf).edges = (tree.toGraph idOf).edges := by
  apply List.filter_eq_self.mpr
  intro edge member
  have arc : Arc (tree.links.map (Prod.map idOf idOf)) edge.source edge.target :=
    arcs_toGraph idOf tree ▸ List.mem_map_of_mem member
  obtain ⟨parent, child, link, source, target⟩ := exists_of_arc_map arc
  have inner : Build.isInner order edge = true := by
    rw [Build.isInner_iff, ← source, ← target]
    refine ⟨laidOut.mem_map_id (source_mem link), laidOut.mem_map_id (laidOut.wellFormed.target_mem link), ?_⟩
    exact fun loop => (laidOut.wellFormed.inside _ link).other (laidOut.injective loop).symm
  obtain ⟨found, chosen, ⟨other, enters, rfl⟩, _⟩ := Build.exists_treeParent ⟨member, inner, rfl⟩
  have into : Arc (tree.links.map (Prod.map idOf idOf)) other.source edge.target :=
    enters.target ▸ arcs_toGraph idOf tree ▸ List.mem_map_of_mem enters.member
  rw [chosen, (laidOut.wellFormed.branching laidOut.injective).single _ _ _ into arc]
  exact decide_eq_true rfl

private theorem childPlaces_toGraph (position : Int) :
    Build.childPlaces order (tree.toGraph idOf).edges (idOf position) =
    (tree.childrenAt position).map tree.breadthFirst.idxOf := by
  have own : (tree.toGraph idOf).edges.filter (·.source = idOf position) =
      (tree.links.filter (·.1 = position)).map fun link =>
        ⟨idOf link.1, idOf link.2, none, none, tree.edgeNameMap.lookup link⟩ := by
    rw [toGraph, List.filter_map]
    simp only [Function.comp_def, laidOut.injective.eq_iff]
  have found : (tree.links.filter (·.1 = position)).filterMap (fun link => Build.place? (idOf link.2) order) =
      (tree.childrenAt position).map tree.breadthFirst.idxOf := by
    rw [← targets_links, targets, List.map_map, ← List.filterMap_eq_map]
    apply List.filterMap_congr
    intro link member
    exact laidOut.place?_idOf (laidOut.wellFormed.target_mem (List.mem_filter.mp member).1)
  rw [Build.childPlaces, own, List.filterMap_map]
  refine (congrArg List.eraseDups found).trans (eraseDups_eq_self ?_)
  apply (laidOut.once.nodup_childrenAt position).map_on
  intro left leftMember right _ same
  rw [← targets_links] at leftMember
  obtain ⟨link, kept, rfl⟩ := List.mem_map.mp leftMember
  exact laidOut.place_inj (laidOut.wellFormed.target_mem (List.mem_filter.mp kept).1) (congrArg Int.ofNat same)

private theorem edgeNames_toGraph : Build.edgeNames order (tree.toGraph idOf).edges = tree.named.map tree.renumber := by
  have named : ((tree.toGraph idOf).edges.filterMap fun edge => do
      let name ← edge.name
      let parent ← Build.place? edge.source order
      let child ← Build.place? edge.target order
      return (((parent : Int), (child : Int)), name)) = tree.named.map tree.renumber := by
    rw [toGraph, named, List.filterMap_map, List.map_filterMap]
    apply List.filterMap_congr
    intro link member
    have source := laidOut.place?_idOf (source_mem member)
    have target := laidOut.place?_idOf (laidOut.wellFormed.target_mem member)
    cases found : tree.edgeNameMap.lookup link with
    | none => simp [found]
    | some name => simp [found, source, target, renumber, place]
  rw [Build.edgeNames, named]
  exact eraseDups_lookups laidOut.nodup_renumbered

end LaidOut

/-- The same tree with its positions in breadth-first order. -/
def renumbered (tree : LinearTree β) : LinearTree β where
  nodes := tree.breadthFirst.filterMap fun position => (tree.nodeAt? position).map (·.mapChildren tree.place)
  edgeNames := tree.named.map tree.renumber

section Compile

theorem exists_nodeAt? {tree : LinearTree β} {position : Int} (member : position ∈ tree.positions) :
    ∃ node, tree.nodeAt? position = some node := by
  obtain ⟨lower, upper⟩ := mem_positions.mp member
  have below : position.toNat < tree.nodes.length := by
    rw [length] at upper
    omega
  exact ⟨tree.nodes[position.toNat], by rw [nodeAt?, if_pos lower, List.getElem?_eq_getElem below]⟩

variable [DecidableEq α] {tree : LinearTree β} {idOf : Int → α} (injective : Function.Injective idOf)

include injective in
private theorem findNode?_toGraph {position : Int} {node : TreeNode β} (found : tree.nodeAt? position = some node) :
    findNode? (tree.toGraph idOf).nodes (idOf position) = some (graphNode (idOf position) node) := by
  rw [findNode?_eq_some_iff (nodup_ids_toGraph injective)]
  refine ⟨?_, graphNode_id _ _⟩
  unfold nodeAt? at found
  split at found
  next lower =>
    obtain ⟨index, rfl⟩ := Int.eq_ofNat_of_zero_le lower
    exact List.mem_map.mpr ⟨(node, index), List.mem_zipIdx_iff_getElem?.mpr found, rfl⟩
  next => cases found

variable (wellFormed : tree.WellFormed) (large : 2 ≤ tree.length) (once : tree.ListsOnce)
include wellFormed large once

theorem WellFormed.exists_node {position : Int} (member : position ∈ tree.breadthFirst) :
    ∃ node, tree.nodeAt? position = some node :=
  exists_nodeAt? ((wellFormed.perm_breadthFirst large once).mem_iff.mp member)

include injective

private theorem WellFormed.laidOut :
    LaidOut tree idOf ((tree.breadthFirst.map idOf).filterMap (findNode? (tree.toGraph idOf).nodes)) := by
  refine ⟨wellFormed, large, once, injective, ?_⟩
  rw [List.map_filterMap, List.filterMap_map, ← List.filterMap_eq_map]
  apply List.filterMap_congr
  intro position member
  obtain ⟨node, found⟩ := wellFormed.exists_node large once member
  rw [Function.comp_apply, findNode?_toGraph injective found, Option.map_some, graphNode_id]
  rfl

private theorem WellFormed.build_toGraph :
    build ((tree.breadthFirst.map idOf).filterMap (findNode? (tree.toGraph idOf).nodes)) (tree.toGraph idOf).edges =
      .ok tree.renumbered := by
  have laidOut := wellFormed.laidOut injective large once
  rw [renumbered, ← laidOut.edgeNames_toGraph]
  refine (build_of_forall₂ ?_).trans (by rw [laidOut.treeEdges_toGraph])
  rw [laidOut.treeEdges_toGraph, List.filterMap_map]
  apply forall₂_filterMap_filterMap
  intro position member
  obtain ⟨node, found⟩ := wellFormed.exists_node large once member
  have children : tree.childrenAt position = node.children := by
    rw [childrenAt, found]
    rfl
  refine ⟨graphNode (idOf position) node, node.mapChildren tree.place, findNode?_toGraph injective found, ?_, ?_⟩
  · rw [found]
    rfl
  · rw [← List.filterMap_map, graphNode_id, laidOut.childPlaces_toGraph, children]
    exact treeNode_graphNode _ node _

end Compile

section Recompiled

/-- A compilation of the graph of a tree that finds nothing wrong and gives the tree again, with each position
of the tree at its place in breadth-first order. -/
structure Recompiled (tree : LinearTree β) (idOf : Int → α) (compilation : Compilation α β)
    (compiled : CompiledTree α β) : Prop where
  errors : compilation.errors = []
  warnings : compilation.warnings = []
  disconnected : compilation.disconnected = []
  single : compilation.trees = [compiled]
  root : compiled.root = idOf 0
  whole : tree.breadthFirst.Perm tree.positions
  order : compiled.order = tree.breadthFirst.map idOf
  nodes : List.Forall₂
    (fun position made => ∃ node, tree.nodeAt? position = some node ∧ made = node.mapChildren tree.place)
    tree.breadthFirst compiled.tree.nodes
  names : compiled.tree.edgeNameMap.Perm (tree.edgeNameMap.map tree.renumber)

variable [DecidableEq α] {tree : LinearTree β} {idOf : Int → α} (wellFormed : tree.WellFormed)
  (large : 2 ≤ tree.length) (once : tree.ListsOnce) (injective : Function.Injective idOf)
include wellFormed large once

theorem WellFormed.forall₂_renumbered :
    List.Forall₂ (fun position made => ∃ node, tree.nodeAt? position = some node ∧ made = node.mapChildren tree.place)
      tree.breadthFirst tree.renumbered.nodes := by
  apply forall₂_filterMap
  intro position member
  obtain ⟨node, found⟩ := wellFormed.exists_node large once member
  exact ⟨node.mapChildren tree.place, by rw [found]; rfl, node, found, rfl⟩

include injective

private theorem WellFormed.compileRoot_toGraph {settings : CompilerSettings} {order : List α}
    {outcome : RootOutcome α β}
    (ordered : Ordered (tree.toGraph idOf).nodes (tree.toGraph idOf).edges order)
    (sorted : order = tree.breadthFirst.map idOf)
    (of : outcome.Of (tree.toGraph idOf).nodes (tree.toGraph idOf).edges settings order (idOf 0)) :
    ∃ bindings, outcome = .compiled ⟨idOf 0, tree.breadthFirst.map idOf, tree.renumbered, bindings⟩ := by
  have root : idOf 0 ∈ order := (ordered.members _).mpr (arcs_toGraph idOf tree ▸ wellFormed.touched_root large)
  have whole : ∀ id ∈ order, Leads ((tree.toGraph idOf).edges.map (·.arc)) (idOf 0) id := by
    rw [sorted, arcs_toGraph]
    intro id member
    obtain ⟨position, listed, rfl⟩ := List.mem_map.mp member
    exact wellFormed.leads_map ((wellFormed.perm_breadthFirst large once).mem_iff.mp listed)
  have part := ordered.part_eq_self root whole
  have leaving := ordered.leaving_eq_self root whole
  have built := wellFormed.build_toGraph injective large once
  rw [← sorted] at built
  cases of with
  | compiled made =>
    rw [partNodes, part, leaving, built] at made
    cases made
    exact ⟨_, by rw [part, sorted]⟩
  | rejected failed =>
    rw [partNodes, part, leaving, built] at failed
    cases failed

private theorem WellFormed.compileComponent_toGraph {settings : CompilerSettings} {outcome : ComponentOutcome α β}
    (of : outcome.Of (tree.toGraph idOf).nodes (tree.toGraph idOf).edges settings) :
    ∃ bindings, outcome = .rooted [.compiled ⟨idOf 0, tree.breadthFirst.map idOf, tree.renumbered, bindings⟩] := by
  obtain ⟨result, ran, sorted, _, roots, complete⟩ :=
    wellFormed.linearize_toGraph injective large once settings.queueOrder
  cases of with
  | rejected found reported =>
    cases ran.symm.trans found
    rw [complete] at reported
    cases reported
  | rooted found complete ordered distinct isRoot outcomes =>
    cases ran.symm.trans found
    rw [roots] at outcomes
    cases outcomes with
    | cons of rest =>
      cases rest
      obtain ⟨bindings, rfl⟩ := wellFormed.compileRoot_toGraph large once injective ordered sorted of
      exact ⟨bindings, rfl⟩

theorem WellFormed.collects_toGraph (settings : CompilerSettings) :
    ∃ compilation bindings, (tree.toGraph idOf).compile settings = .ok compilation ∧
      compilation.Collects (tree.toGraph idOf) settings
        [.rooted [.compiled ⟨idOf 0, tree.breadthFirst.map idOf, tree.renumbered, bindings⟩]] := by
  obtain ⟨compilation, outcomes, found, collects⟩ :=
    Graph.exists_compile (nodup_ids_toGraph injective : (tree.toGraph idOf).ids.Nodup) settings
  have components := collects.components
  rw [wellFormed.resolved_toGraph, wellFormed.fragments_toGraph large] at components
  cases components with
  | cons of rest =>
    cases rest
    obtain ⟨bindings, rfl⟩ := wellFormed.compileComponent_toGraph large once injective of.2
    exact ⟨compilation, bindings, found, collects⟩

/-- The tree of a compilation is the renumbered one. -/
theorem WellFormed.recompiled_toGraph {settings : CompilerSettings} {compilation : Compilation α β}
    {bindings : Bindings α} (collects : compilation.Collects (tree.toGraph idOf) settings
      [.rooted [.compiled ⟨idOf 0, tree.breadthFirst.map idOf, tree.renumbered, bindings⟩]]) :
    tree.Recompiled idOf compilation ⟨idOf 0, tree.breadthFirst.map idOf, tree.renumbered, bindings⟩ := by
  have touched : ∀ id ∈ (tree.toGraph idOf).ids, (tree.toGraph idOf).edges.any (·.touches id) = true := by
    intro id member
    obtain ⟨arc, listed, ends⟩ := (wellFormed.touched_toGraph large).mpr member
    rw [← arcs_toGraph] at listed
    obtain ⟨edge, inside, rfl⟩ := List.mem_map.mp listed
    apply List.any_eq_true.mpr
    refine ⟨edge, inside, ?_⟩
    rcases ends with rfl | rfl <;> simp [Edge.touches, Edge.arc]
  refine ⟨collects.errors, ?_, ?_, collects.trees, rfl,
    wellFormed.perm_breadthFirst large once, rfl, wellFormed.forall₂_renumbered large once, ?_⟩
  · rw [collects.warnings, wellFormed.dangling_toGraph]
  · rw [collects.disconnected, wellFormed.resolved_toGraph]
    apply List.filter_eq_nil_iff.mpr
    intro id member
    rw [touched id member]
    exact Bool.false_ne_true
  · rw [edgeNameMap_eq_self (wellFormed.laidOut injective large once).nodup_renumbered]
    exact (wellFormed.perm_named once).map tree.renumber

private theorem WellFormed.compile_toGraph (settings : CompilerSettings) :
    ∃ compilation compiled, (tree.toGraph idOf).compile settings = .ok compilation ∧
      tree.Recompiled idOf compilation compiled := by
  obtain ⟨compilation, bindings, found, collects⟩ := wellFormed.collects_toGraph large once injective settings
  exact ⟨compilation, _, found, wellFormed.recompiled_toGraph large once injective collects⟩

end Recompiled

theorem listsOnce_of_build [DecidableEq α] {order : List (Node α β)} {edges : List (Edge α)} {tree : LinearTree β}
    (built : build order edges = .ok tree) : tree.ListsOnce := by
  intro made member
  obtain ⟨node, _, _, found⟩ := exists_of_forall₂_right (build_eq_ok built).1 member
  rw [(carries_treeNode found).2]
  exact (nodup_eraseDups _).map fun _ _ same => Int.ofNat.inj same

private theorem ListsOnce.combineOr {leftName rightName : Wording} {left right tree : LinearTree β}
    (leftOnce : left.ListsOnce)
    (rightOnce : right.ListsOnce) (made : combineOr leftName left rightName right = some tree) : tree.ListsOnce := by
  have shifted {part : LinearTree β} (once : part.ListsOnce) (offset : Int) :
      ∀ node ∈ part.nodes.map (·.shift offset), node.children.Nodup := by
    intro node member
    obtain ⟨original, listed, rfl⟩ := List.mem_map.mp member
    rw [TreeNode.children_shift]
    exact (once original listed).map (add_left_injective offset)
  unfold LinearTree.combineOr at made
  split at made
  next => cases made
  next full =>
    cases made
    have apart : (1 : Int) ≠ 1 + left.length := by
      rw [Bool.or_eq_true, not_or, isEmpty, List.isEmpty_iff_length_eq_zero] at full
      rw [length]
      omega
    intro node member
    rcases List.mem_append.mp member with inLeft | inRight
    · rcases List.mem_cons.mp inLeft with rfl | later
      · exact List.nodup_cons.mpr ⟨by simpa using apart, List.nodup_singleton _⟩
      · exact shifted leftOnce 1 node later
    · exact shifted rightOnce _ node inRight

theorem positionId_injective (start : Wording) : Function.Injective (positionId start) := by
  intro left right same
  have ends := Wording.whole.inj (Wording.append_left_cancel same)
  have shown : left.repr = right.repr := by simpa [ToString.toString] using ends
  exact Int.repr_inj.mp shown

/-- Trees made by building or by putting such trees together list each child once. Any valid tree that does and
has an edge is compiled again from its graph. -/
theorem toGraph_recompiles :
    (∀ (order : List (Node Wording β)) (edges : List (Edge Wording)) (tree : LinearTree β),
      build order edges = .ok tree → tree.ListsOnce) ∧
    (∀ (leftName rightName : Wording) (left right tree : LinearTree β), left.ListsOnce → right.ListsOnce →
      combineOr leftName left rightName right = some tree → tree.ListsOnce) ∧
    ∀ (tree : LinearTree β), tree.isValid = true → 2 ≤ tree.length → tree.ListsOnce →
      ∀ (start : Wording) (settings : CompilerSettings), ∃ compilation compiled,
        (tree.toGraph (positionId start)).compile settings = .ok compilation ∧
          tree.Recompiled (positionId start) compilation compiled := by
  refine ⟨fun _ _ _ built => listsOnce_of_build built, fun _ _ _ _ _ left right made => left.combineOr right made, ?_⟩
  intro tree valid large once start settings
  exact ((isValid_iff_wellFormed tree).mp valid).compile_toGraph large once (positionId_injective start) settings

/-- A box with two edges to one child. -/
def doubledLink : Graph Wording Nat :=
  ⟨[⟨"upper", .box ⟨"", [], [], 5⟩⟩, ⟨"lower", .box ⟨"", [], [], 6⟩⟩],
    [⟨"upper", "lower", none, none, none⟩, ⟨"upper", "lower", none, none, some "again"⟩]⟩

/-- A gate whose place is behind those of its children, with a name given twice. -/
def lateGate : LinearTree Nat :=
  ⟨[.box 5 [3], .box 6 [], .box 7 [], .and 2 1], [((3, 1), "old"), ((0, 3), "top"), ((3, 1), "low")]⟩

theorem toGraph_recompiles_lateGate :
    (∃ tree, build doubledLink.nodes doubledLink.edges = .ok tree ∧ tree.ListsOnce) ∧
    (∃ tree, combineOr "left" lateGate "right" lateGate = some tree ∧ tree.ListsOnce) ∧
    ∃ compilation compiled, (lateGate.toGraph (positionId "t")).compile {} = .ok compilation ∧
      lateGate.Recompiled (positionId "t") compilation compiled ∧
      lateGate.breadthFirst = [0, 3, 2, 1] ∧
      compiled.tree.nodes = [.box 5 [1], .and 2 3, .box 7 [], .box 6 []] ∧
      compiled.tree.edgeNameMap.Perm [((1, 3), "low"), ((0, 1), "top")] := by
  obtain ⟨built, combined, recompiles⟩ := toGraph_recompiles (β := Nat)
  have once : lateGate.ListsOnce := by decide
  have joined : build doubledLink.nodes doubledLink.edges =
      .ok ⟨[.box 5 [1], .box 6 []], [((0, 1), "again")]⟩ := by cbv
  refine ⟨⟨_, joined, built _ _ _ joined⟩, ⟨_, rfl, combined "left" "right" lateGate lateGate _ once once rfl⟩, ?_⟩
  obtain ⟨compilation, compiled, found, recompiled⟩ := recompiles lateGate (by cbv) (by decide) once "t" {}
  have run : ((lateGate.toGraph (positionId "t")).compile {}).toOption.map (·.trees.map (·.tree.nodes)) =
      some [[.box 5 [1], .and 2 3, .box 7 [], .box 6 []]] := by cbv
  rw [found] at run
  have trees : compilation.trees.map (·.tree.nodes) = [[.box 5 [1], .and 2 3, .box 7 [], .box 6 []]] :=
    Option.some.inj run
  rw [recompiled.single] at trees
  refine ⟨compilation, compiled, found, recompiled, by decide, ?_, ?_⟩
  · exact List.head_eq_of_cons_eq trees
  · exact recompiled.names.trans (List.Perm.of_eq (by decide))

end LinearTree
end BoxTree
