import BoxTree.Proofs.Recompile

/-! Which compiled trees come out as they were when they are taken apart and compiled again. Renumbering brings
a tree into breadth-first order and leaves it alone if it is in that order already. -/

namespace BoxTree

open Compile

variable {α β : Type}

private theorem map_idxOf_self [DecidableEq α] {items : List α} (once : items.Nodup) :
    items.map items.idxOf = List.range items.length := by
  apply List.ext_getElem
  · simp
  · intro index below _
    rw [List.length_map] at below
    simp [once.idxOf_getElem]

private theorem TreeNode.mapChildren_eq_self {node : TreeNode β} {f : Int → Int}
    (same : ∀ child ∈ node.children, f child = child) : node.mapChildren f = node := by
  cases node with
  | box content children => exact congrArg (box content) ((List.map_congr_left same).trans (List.map_id _))
  | and left right | or left right => simp_all [mapChildren, children]
  | not child => simp_all [mapChildren, children]

namespace LinearTree

variable {tree left right : LinearTree β} {position : Int}

private theorem nodeAt?_natCast (tree : LinearTree β) (index : Nat) : tree.nodeAt? index = tree.nodes[index]? := by
  simp [nodeAt?]

private theorem mem_positions_of_nodeAt? {node : TreeNode β} (found : tree.nodeAt? position = some node) :
    position ∈ tree.positions := by
  unfold nodeAt? at found
  split at found
  next lower =>
    obtain ⟨below, _⟩ := List.getElem?_eq_some_iff.mp found
    exact mem_positions.mpr ⟨lower, by rw [length]; omega⟩
  next => cases found

private theorem nodes_eq_of_nodeAt? (size : left.length = right.length)
    (same : ∀ position ∈ left.positions, left.nodeAt? position = right.nodeAt? position) :
    left.nodes = right.nodes := by
  apply List.ext_getElem?
  intro index
  by_cases below : index < left.length
  · rw [← nodeAt?_natCast, ← nodeAt?_natCast]
    exact same index (mem_positions.mpr ⟨by omega, by omega⟩)
  · have above : right.nodes.length ≤ index := by
      rw [size, length] at below
      omega
    rw [List.getElem?_eq_none above, List.getElem?_eq_none (Nat.le_of_not_lt below)]

private theorem breadthFirst_congr (same : left.nodes = right.nodes) : left.breadthFirst = right.breadthFirst := by
  cases left
  cases right
  cases same
  rfl

private theorem positions_congr (size : left.length = right.length) : left.positions = right.positions := by
  rw [positions, positions, size]

section Renumbered

variable (wellFormed : tree.WellFormed) (large : 2 ≤ tree.length) (once : tree.ListsOnce)
include wellFormed large once

private theorem WellFormed.length_renumbered : tree.renumbered.length = tree.length := by
  have beside := (wellFormed.forall₂_renumbered large once).length_eq
  have whole := (wellFormed.perm_breadthFirst large once).length_eq
  rw [length, ← beside, whole, positions, List.length_map, List.length_range]

private theorem WellFormed.positions_renumbered : tree.renumbered.positions = tree.positions :=
  positions_congr (wellFormed.length_renumbered large once)

private theorem WellFormed.map_place : tree.breadthFirst.map tree.place = tree.positions := by
  have whole := wellFormed.perm_breadthFirst large once
  have places : tree.breadthFirst.map tree.breadthFirst.idxOf = List.range tree.length := by
    rw [map_idxOf_self (whole.nodup_iff.mpr (nodup_positions tree)), whole.length_eq, positions, List.length_map,
      List.length_range]
  rw [positions, ← places, List.map_map]
  rfl

private theorem WellFormed.nodeAt?_renumbered (member : position ∈ tree.breadthFirst) :
    tree.renumbered.nodeAt? (tree.place position) = (tree.nodeAt? position).map (·.mapChildren tree.place) := by
  have beside := wellFormed.forall₂_renumbered large once
  have below := List.idxOf_lt_length_of_mem member
  obtain ⟨node, found, made⟩ := beside.get below (beside.length_eq ▸ below)
  rw [List.get_eq_getElem, List.getElem_idxOf below] at found
  rw [place, nodeAt?_natCast, found, Option.map_some, ← made]
  exact List.getElem?_eq_getElem _

private theorem WellFormed.childrenAt_renumbered (position : Int) :
    tree.renumbered.childrenAt (tree.place position) = (tree.childrenAt position).map tree.place := by
  by_cases member : position ∈ tree.breadthFirst
  · obtain ⟨node, found⟩ := wellFormed.exists_node large once member
    rw [childrenAt, childrenAt, wellFormed.nodeAt?_renumbered large once member, found]
    cases node <;> rfl
  · have whole := wellFormed.perm_breadthFirst large once
    have outside : tree.nodeAt? position = none := by
      cases found : tree.nodeAt? position with
      | none => rfl
      | some node => exact False.elim (member (whole.mem_iff.mpr (mem_positions_of_nodeAt? found)))
    have behind : tree.renumbered.nodeAt? (tree.place position) = none := by
      rw [place, nodeAt?_natCast, List.idxOf_of_notMem member, List.getElem?_eq_none]
      exact (wellFormed.forall₂_renumbered large once).length_eq.ge
    rw [childrenAt, childrenAt, outside, behind]
    rfl

private theorem WellFormed.breadthFirst_renumbered : tree.renumbered.breadthFirst = tree.renumbered.positions := by
  have root : tree.place 0 = 0 := by
    obtain ⟨depth, size⟩ : ∃ depth, tree.length = depth + 1 := ⟨tree.length - 1, by omega⟩
    simp [place, breadthFirst, levelOrder, descend, size, List.range_succ_eq_map]
  calc tree.renumbered.breadthFirst
    _ = levelOrder tree.renumbered.childrenAt (tree.place 0) tree.length := by
      rw [breadthFirst, wellFormed.length_renumbered large once, root]
    _ = tree.breadthFirst.map tree.place := levelOrder_map (wellFormed.childrenAt_renumbered large once)
    _ = tree.positions := wellFormed.map_place large once
    _ = tree.renumbered.positions := (wellFormed.positions_renumbered large once).symm

private theorem WellFormed.place_eq_self (sorted : tree.breadthFirst = tree.positions)
    (member : position ∈ tree.positions) :
    tree.place position = position := by
  have places := wellFormed.map_place large once
  rw [sorted] at places
  exact List.map_inj_left.mp (places.trans (List.map_id _).symm) position member

/-- Renumbering keeps the nodes of a tree exactly if they are in breadth-first order. -/
theorem WellFormed.nodes_renumbered_eq_iff :
    tree.renumbered.nodes = tree.nodes ↔ tree.breadthFirst = tree.positions := by
  constructor
  · intro same
    calc tree.breadthFirst
      _ = tree.renumbered.breadthFirst := (breadthFirst_congr same).symm
      _ = tree.renumbered.positions := wellFormed.breadthFirst_renumbered large once
      _ = tree.positions := wellFormed.positions_renumbered large once
  · intro sorted
    apply nodes_eq_of_nodeAt? (wellFormed.length_renumbered large once)
    rw [wellFormed.positions_renumbered large once]
    intro position member
    obtain ⟨node, found⟩ := exists_nodeAt? member
    have kept : node.mapChildren tree.place = node := by
      apply TreeNode.mapChildren_eq_self
      intro child listed
      apply wellFormed.place_eq_self large once sorted
      have below : child ∈ targets tree.links position := by
        rw [targets_links, childrenAt, found]
        exact listed
      obtain ⟨link, inside, rfl⟩ := List.mem_map.mp below
      exact wellFormed.target_mem (List.mem_filter.mp inside).1
    have own := wellFormed.nodeAt?_renumbered large once (sorted ▸ member)
    rw [wellFormed.place_eq_self large once sorted member, found] at own
    rw [own, found, Option.map_some, kept]

/-- It keeps the tree exactly if its names are in the order of its edges as well. -/
theorem WellFormed.renumbered_eq_iff :
    tree.renumbered = tree ↔ tree.breadthFirst = tree.positions ∧ tree.edgeNames = tree.named := by
  have parts : tree.renumbered = tree ↔
      tree.renumbered.nodes = tree.nodes ∧ tree.named.map tree.renumber = tree.edgeNames := by
    cases tree
    exact mk.injEq .. ▸ Iff.rfl
  rw [parts, wellFormed.nodes_renumbered_eq_iff large once]
  apply and_congr_right
  intro sorted
  have kept : tree.named.map tree.renumber = tree.named := by
    apply (List.map_congr_left ?_).trans (List.map_id _)
    intro entry member
    obtain ⟨link, listed, found⟩ := List.mem_filterMap.mp member
    obtain ⟨_, _, rfl⟩ := Option.map_eq_some_iff.mp found
    rw [renumber, wellFormed.place_eq_self large once sorted (source_mem listed),
      wellFormed.place_eq_self large once sorted (wellFormed.target_mem listed)]
    rfl
  rw [kept, eq_comm]

end Renumbered
end LinearTree

section Compiled

variable [DecidableEq α]

variable {nodes : List (Node α β)} {edges : List (Edge α)} {settings : CompilerSettings} {order : List α} {root : α}

/-- A root has a child, so it is never alone in its part. -/
theorem Ordered.two_le_length_part (ordered : Ordered nodes edges order) (isRoot : IsRoot (edges.map (·.arc)) root) :
    2 ≤ (part edges order root).length := by
  have member : root ∈ order := (ordered.members root).mpr isRoot.touched
  obtain ⟨arc, listed, ends⟩ := isRoot.touched
  have source : arc.1 = root := by
    rcases ends with source | rfl
    · exact source
    · exact False.elim (isRoot.entered arc.1 listed)
  have below : Arc (edges.map (·.arc)) root arc.2 := source ▸ listed
  have other : arc.2 ≠ root := fun loop => isRoot.entered root (loop ▸ below)
  have inside : [root, arc.2].Subperm (part edges order root) := by
    apply List.subperm_of_subset (by simp [other.symm])
    intro id named
    simp only [List.mem_cons, List.not_mem_nil, or_false] at named
    rcases named with rfl | rfl
    · exact (ordered.mem_part member).mpr .refl
    · exact (ordered.mem_part member).mpr (.single below)
  exact inside.length_le

private theorem RootOutcome.Of.sound {compiled : CompiledTree α β} (ordered : Ordered nodes edges order)
    (isRoot : IsRoot (edges.map (·.arc)) root)
    (of : RootOutcome.Of nodes edges settings order root (.compiled compiled)) :
    compiled.tree.WellFormed ∧ 2 ≤ compiled.tree.length ∧ compiled.tree.ListsOnce := by
  have member : root ∈ order := (ordered.members root).mpr isRoot.touched
  cases of with
  | compiled built =>
    refine ⟨(ordered.sorted member).wellFormed built, ?_, LinearTree.listsOnce_of_build built⟩
    have size := (build_eq_ok built).1.length_eq
    rw [← List.length_map (·.id), ordered.map_id_partNodes] at size
    rw [LinearTree.length, ← size]
    exact ordered.two_le_length_part isRoot

end Compiled

/-- Compiling a compiled tree's graph gives that tree in breadth-first order. It is the same tree exactly if it
was in that order already, and its names in the order of its edges. -/
theorem compiled_recompiles [DecidableEq α] (graph : Graph α β) (settings : CompilerSettings) :
    ∃ compilation, graph.compile settings = .ok compilation ∧ ∀ compiled ∈ compilation.trees,
      ∀ (start : Wording) (others : CompilerSettings), ∃ again recompiled,
        (compiled.tree.toGraph (LinearTree.positionId start)).compile others = .ok again ∧
          compiled.tree.Recompiled (LinearTree.positionId start) again recompiled ∧
          (recompiled.tree.nodes = compiled.tree.nodes ↔ compiled.tree.breadthFirst = compiled.tree.positions) ∧
          (recompiled.tree = compiled.tree ↔ compiled.tree.breadthFirst = compiled.tree.positions ∧
            compiled.tree.edgeNames = compiled.tree.named) := by
  obtain ⟨compilation, outcomes, found, trees, components⟩ := graph.exists_compile_keyed settings
  refine ⟨compilation, found, ?_⟩
  intro compiled member start others
  rw [trees] at member
  obtain ⟨outcome, listed, made⟩ := List.mem_flatMap.mp member
  obtain ⟨part, _, _, of⟩ := exists_of_forall₂_right components listed
  obtain ⟨order, root, ordered, isRoot, of⟩ := of.of_mem_trees made
  obtain ⟨wellFormed, large, once⟩ := of.sound ordered isRoot
  have injective := LinearTree.positionId_injective start
  obtain ⟨again, bindings, ran, collects⟩ := wellFormed.collects_toGraph large once injective others
  exact ⟨again, _, ran, wellFormed.recompiled_toGraph large once injective collects,
    wellFormed.nodes_renumbered_eq_iff large once, wellFormed.renumbered_eq_iff large once⟩

/-- A box hangs off two boxes that stand side by side. Another one hangs off the first of them only, and since it
has fewer parents it comes later, though its parent comes first. -/
def forkedJoin : Graph Wording Nat :=
  let box (id : Wording) (content : Nat) : Node Wording Nat := ⟨id, .box ⟨id, [], [], content⟩⟩
  let link (source target : Wording) : Edge Wording := ⟨source, target, none, none, none⟩
  { nodes := [box "A" 1, box "B" 2, box "C" 3, box "D" 4, box "E" 5]
    edges := [link "A" "B", link "A" "C", link "B" "D", link "B" "E", link "C" "E"] }

def forkedTree : LinearTree Nat := ⟨[.box 1 [1, 2], .box 2 [4], .box 3 [3], .box 5 [], .box 4 []], []⟩

theorem forkedJoin_not_reproduced : ¬ ∀ (graph : Graph Wording Nat) (settings : CompilerSettings) compilation,
    graph.compile settings = .ok compilation → ∀ compiled ∈ compilation.trees, ∃ again recompiled,
      (compiled.tree.toGraph (LinearTree.positionId "tree")).compile settings = .ok again ∧
        again.trees = [recompiled] ∧ recompiled.tree = compiled.tree := by
  intro claimed
  have wellFormed : forkedTree.WellFormed := (LinearTree.isValid_iff_wellFormed _).mp (by cbv)
  have run : (forkedJoin.compile {}).toOption.map (·.trees.map (·.tree)) = some [forkedTree] := by cbv
  cases found : forkedJoin.compile {} with
  | error => rw [found] at run; cases run
  | ok compilation =>
    rw [found] at run
    have trees : compilation.trees.map (·.tree) = [forkedTree] := Option.some.inj run
    obtain ⟨compiled, listed, tree⟩ : ∃ compiled ∈ compilation.trees, compiled.tree = forkedTree :=
      List.mem_map.mp (trees ▸ List.mem_singleton_self _)
    obtain ⟨again, recompiled, ran, single, same⟩ := claimed forkedJoin {} compilation found compiled listed
    obtain ⟨other, bindings, rerun, collects⟩ :=
      wellFormed.collects_toGraph (by decide) (by decide) (LinearTree.positionId_injective "tree") {}
    rw [tree] at ran same
    cases ran.symm.trans rerun
    cases single.symm.trans collects.trees
    have kept : forkedTree.renumbered = forkedTree := same
    exact absurd kept (by decide)

end BoxTree
