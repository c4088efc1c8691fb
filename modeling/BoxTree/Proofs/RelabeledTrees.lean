import BoxTree.Proofs.Relabeling
import BoxTree.Proofs.TreeBuild

/-! Trees of a relabeled order: other contents in the same places, under the same edge names, and faults of the same
gates. -/

namespace BoxTree

variable {α δ β γ : Type}

def ArityFault.rename (f : α → δ) (fault : ArityFault α) : ArityFault δ := ⟨f fault.gate, fault.expected, fault.actual⟩

def LinearTree.mapContent (g : β → γ) (tree : LinearTree β) : LinearTree γ :=
  ⟨tree.nodes.map (TreeNode.mapContent g), tree.edgeNames⟩

variable [DecidableEq α] [DecidableEq δ]

namespace Build

variable (labels : Relabeling α δ β γ) (order : List (Node α β)) (edges : List (Edge α))

private theorem place?_relabel (id : α) : place? (labels.idOf id) (order.map (.relabel labels)) = place? id order := by
  induction order with
  | nil => rfl
  | cons node rest ih =>
    rw [List.map_cons, place?, place?, ih]
    simp only [Node.relabel, labels.injective.eq_iff]

private theorem rank_relabel (id : α) : rank (order.map (.relabel labels)) (labels.idOf id) = rank order id := by
  rw [rank, rank, findNode?_relabel, place?_relabel]
  cases findNode? order id with
  | none => rfl
  | some node => simp only [Option.map_some, isGate_relabel]

private theorem isInner_relabel (edge : Edge α) :
    isInner (order.map (.relabel labels)) (edge.rename labels.idOf) = isInner order edge := by
  simp only [isInner, Edge.rename, place?_relabel, ne_eq, labels.injective.eq_iff]

private theorem treeParent?_relabel (id : α) :
    treeParent? (order.map (.relabel labels)) (edges.map (.rename labels.idOf)) (labels.idOf id) =
      (treeParent? order edges id).map labels.idOf := by
  have kept : (edges.map (Edge.rename labels.idOf)).filter (fun edge =>
        isInner (order.map (.relabel labels)) edge && edge.target = labels.idOf id) =
      (edges.filter fun edge => isInner order edge && edge.target = id).map (.rename labels.idOf) := by
    rw [List.filter_map]
    simp only [Function.comp_def, isInner_relabel]
    simp only [Edge.rename, labels.injective.eq_iff]
  rw [treeParent?, treeParent?, kept, List.foldl_map]
  rw [← Option.map_none labels.idOf]
  apply List.foldl_hom (Option.map labels.idOf)
  intro best edge
  cases best with
  | none => rfl
  | some parent =>
    simp only [Option.map_some, rank_relabel, Edge.rename]
    split <;> rfl

private theorem treeEdges_relabel :
    treeEdges (order.map (.relabel labels)) (edges.map (.rename labels.idOf)) =
      (treeEdges order edges).map (.rename labels.idOf) := by
  have entered (edge : Edge α) :
      (treeParent? (order.map (.relabel labels)) (edges.map (.rename labels.idOf)) (edge.rename labels.idOf).target =
        some (edge.rename labels.idOf).source) ↔ treeParent? order edges edge.target = some edge.source := by
    rw [Edge.rename, treeParent?_relabel]
    cases treeParent? order edges edge.target <;> simp [labels.injective.eq_iff]
  rw [treeEdges, treeEdges, List.filter_map]
  simp only [Function.comp_def, entered]

private theorem childPlaces_relabel (id : α) :
    childPlaces (order.map (.relabel labels)) (edges.map (.rename labels.idOf)) (labels.idOf id) =
      childPlaces order edges id := by
  simp only [childPlaces, List.filter_map, List.filterMap_map, Function.comp_def, Edge.rename, place?_relabel,
    labels.injective.eq_iff]

private theorem edgeNames_relabel :
    edgeNames (order.map (.relabel labels)) (edges.map (.rename labels.idOf)) = edgeNames order edges := by
  simp only [edgeNames, List.filterMap_map, Function.comp_def, Edge.rename, place?_relabel]

omit [DecidableEq α] [DecidableEq δ] in
private theorem treeNode_relabel (node : Node α β) (children : List Nat) :
    treeNode (node.relabel labels) children =
      ((treeNode node children).map (.mapContent labels.contentOf)).mapError (.rename labels.idOf) := by
  obtain ⟨id, body⟩ := node
  cases body with
  | box event => rfl
  | gate kind =>
    rcases children with _ | ⟨first, _ | ⟨second, _ | ⟨third, rest⟩⟩⟩ <;> cases kind <;> rfl

omit [DecidableEq α] [DecidableEq δ] in
private theorem collected_relabel (made : List (Except (ArityFault α) (TreeNode β)))
    (names : List (EdgeKey × Wording)) :
    collected (made.map fun made => (made.map (.mapContent labels.contentOf)).mapError (.rename labels.idOf)) names =
      ((collected made names).map (.mapContent labels.contentOf)).mapError (List.map (.rename labels.idOf)) := by
  have faults : (made.map fun made => (made.map (TreeNode.mapContent labels.contentOf)).mapError
        (ArityFault.rename labels.idOf)).filterMap fault? =
      (made.filterMap fault?).map (.rename labels.idOf) := by
    rw [List.filterMap_map, List.map_filterMap]
    apply List.filterMap_congr
    intro made _
    cases made <;> rfl
  have nodes : (made.map fun made => (made.map (TreeNode.mapContent labels.contentOf)).mapError
        (ArityFault.rename labels.idOf)).filterMap Except.toOption =
      (made.filterMap Except.toOption).map (.mapContent labels.contentOf) := by
    rw [List.filterMap_map, List.map_filterMap]
    apply List.filterMap_congr
    intro made _
    cases made <;> rfl
  rw [collected, collected, faults, nodes]
  cases made.filterMap fault? <;> rfl

end Build

/-- The tree of a relabeled order has the new contents, and its faults name the new ids. -/
theorem build_relabel (labels : Relabeling α δ β γ) (order : List (Node α β)) (edges : List (Edge α)) :
    build (order.map (.relabel labels)) (edges.map (.rename labels.idOf)) =
      ((build order edges).map (.mapContent labels.contentOf)).mapError (List.map (.rename labels.idOf)) := by
  rw [Build.build_eq_collected, Build.build_eq_collected, Build.treeEdges_relabel, Build.edgeNames_relabel,
    ← Build.collected_relabel, List.map_map, List.map_map]
  congr 1
  apply List.map_congr_left
  intro node _
  rw [Function.comp_apply, Function.comp_apply, ← Build.treeNode_relabel, ← Build.childPlaces_relabel labels]
  rfl

end BoxTree
