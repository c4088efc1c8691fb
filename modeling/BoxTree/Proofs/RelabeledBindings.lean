import BoxTree.Proofs.Relabeling
import BoxTree.Proofs.RelabeledOrder
import BoxTree.Proofs.VariableLedger

/-! Variables of a relabeled order: the same ones come up in the same order, are held and carried by the renamed
nodes, and have the same names. -/

namespace BoxTree

variable {α δ β γ : Type}

section Renaming

variable (f : α → δ)

def Variable.rename (known : Variable α) : Variable δ :=
  ⟨known.objectType, known.quantifiesSet, f known.introducer, known.declared⟩

def Holding.rename (holding : Holding α) : Holding δ := ⟨f holding.node, holding.key, holding.qualifier, holding.bound⟩

def Assignment.rename (assigned : Assignment α) : Assignment δ :=
  ⟨assigned.edge.rename f, assigned.key, assigned.dependency⟩

def Ledger.rename (ledger : Ledger α) : Ledger δ :=
  ⟨ledger.known.map (.rename f), ledger.holdings.map (.rename f), ledger.assignments.map (.rename f)⟩

def Binding.Sight.rename (sight : Binding.Sight α) : Binding.Sight δ := ⟨sight.name, sight.nodes.map f⟩

def EdgeVariable.rename (assigned : EdgeVariable α) : EdgeVariable δ :=
  ⟨assigned.edge.rename f, assigned.name, assigned.objectType, assigned.dependency⟩

def Bindings.rename (bindings : Bindings α) : Bindings δ :=
  ⟨bindings.edges.map (.rename f), bindings.nodes.map (Prod.map f id)⟩

end Renaming

namespace Ledger

section Steps

variable {f : α → δ} (ledger : Ledger α)

private theorem introduce_rename (fresh : Variable α) (qualifier : Option Wording) :
    (ledger.rename f).introduce (fresh.rename f) qualifier = (ledger.introduce fresh qualifier).rename f := by
  simp [introduce, rename, Variable.rename, Holding.rename]

private theorem declare_relabel (labels : Relabeling α δ β γ) (order : List (Node α β)) :
    declare (order.map (.relabel labels)) = (declare order).rename labels.idOf := by
  have own (node : Node α β) : (node.relabel labels).declaredVariables =
      node.declaredVariables.map (.rename labels.idOf) := by
    obtain ⟨id, body⟩ := node
    cases body with
    | gate kind => rfl
    | box event =>
      rw [Node.declaredVariables, Node.declaredVariables, List.map_map]
      rfl
  have all : (order.map (Node.relabel labels)).flatMap (·.declaredVariables) =
      (order.flatMap (·.declaredVariables)).map (.rename labels.idOf) := by
    rw [List.flatMap_map, List.map_flatMap]
    exact List.flatMap_congr fun node _ => own node
  have start : (empty : Ledger δ) = (empty : Ledger α).rename labels.idOf := rfl
  rw [declare_eq, declare_eq, all, List.foldl_map, start]
  apply List.foldl_hom (Ledger.rename labels.idOf)
  intro ledger fresh
  exact introduce_rename ledger fresh none

variable [DecidableEq α] [DecidableEq δ] (injective : Function.Injective f)
include injective

private theorem held?_rename (node : α) (objectType : Wording) (quantifiesSet : Bool) :
    (ledger.rename f).held? (f node) objectType quantifiesSet = ledger.held? node objectType quantifiesSet := by
  simp only [held?, rename, List.find?_map, Function.comp_def, Holding.rename, injective.eq_iff, List.getElem?_map,
    Option.any_map, Variable.rename, Option.map_map]
  rfl

private theorem carry_rename (node : α) (key : Nat) (qualifier : Wording) :
    (ledger.rename f).carry (f node) key qualifier = (ledger.carry node key qualifier).rename f := by
  simp only [carry, rename, List.any_map, Function.comp_def, Holding.rename, injective.eq_iff]
  split
  · rfl
  · simp [Holding.rename]

private theorem bind_rename (edge : Edge α) (sourceEnd targetEnd : Endpoint) (dependency : DependencyType) :
    (ledger.rename f).bind (edge.rename f) sourceEnd targetEnd dependency =
      (ledger.bind edge sourceEnd targetEnd dependency).rename f := by
  have assigned (ledger : Ledger α) (key : Nat) :
      ({ ledger.rename f with
          assignments := (ledger.rename f).assignments ++ [⟨edge.rename f, key, dependency⟩] } : Ledger δ) =
        Ledger.rename f { ledger with assignments := ledger.assignments ++ [⟨edge, key, dependency⟩] } := by
    simp [rename, Assignment.rename]
  have known : (ledger.rename f).known.length = ledger.known.length := List.length_map _
  have fresh := ledger.introduce_rename (f := f)
    ⟨sourceEnd.objectType, dependency.quantifiesSet, edge.source, none⟩ (some sourceEnd.qualifier)
  rw [bind, bind]
  simp only [Edge.rename, held?_rename ledger injective, known]
  cases ledger.held? edge.source sourceEnd.objectType dependency.quantifiesSet with
  | some key =>
    simp only [carry_rename ledger injective]
    exact assigned _ key
  | none =>
    rw [Variable.rename] at fresh
    simp only [fresh, carry_rename _ injective]
    exact assigned _ _

end Steps

variable [DecidableEq α] [DecidableEq δ] (labels : Relabeling α δ β γ) (order : List (Node α β))

private theorem visit_relabel (ledger : Ledger α) (edge : Edge α) :
    (ledger.rename labels.idOf).visit (order.map (.relabel labels)) (edge.rename labels.idOf) =
      renamed labels.idOf (.rename labels.idOf) (ledger.visit order edge) := by
  rw [visit, visit, dependencyType_relabel]
  apply renamed_bind
  intro dependency
  obtain ⟨source, target, sourceEnd, targetEnd, name⟩ := edge
  cases sourceEnd <;> cases targetEnd <;> cases dependency <;> try rfl
  next sourceEnd targetEnd dependency =>
    exact congrArg Except.ok (bind_rename ledger labels.injective _ sourceEnd targetEnd dependency)

end Ledger

namespace Binding

variable [DecidableEq α] [DecidableEq δ] (labels : Relabeling α δ β γ) (order : List (Node α β)) (edges : List (Edge α))

private theorem dependencyEdges_relabel :
    dependencyEdges (order.map (.relabel labels)) (edges.map (.rename labels.idOf)) =
      (dependencyEdges order edges).map (.rename labels.idOf) := by
  simp only [dependencyEdges, map_id_relabel, List.filter_map, Function.comp_def, Edge.rename, Edge.isDependency,
    List.mem_map_of_injective labels.injective, ne_eq, labels.injective.eq_iff]

private theorem visits_relabel :
    Ledger.visits (order.map (.relabel labels)) (edges.map (.rename labels.idOf)) =
      (Ledger.visits order edges).map (.rename labels.idOf) := by
  rw [Ledger.visits, Ledger.visits, dependencyEdges_relabel, List.flatMap_map, List.map_flatMap]
  simp only [List.filter_map, Function.comp_def, Edge.rename, Node.relabel, labels.injective.eq_iff]

private theorem settle_relabel :
    settle (order.map (.relabel labels)) (edges.map (.rename labels.idOf)) =
      renamed labels.idOf (.rename labels.idOf) (settle order edges) := by
  change (Ledger.visits _ _).foldlM _ _ = renamed _ _ ((Ledger.visits order edges).foldlM _ _)
  rw [visits_relabel, Ledger.declare_relabel]
  exact renamed_foldlM (Ledger.visit_relabel labels order) (Ledger.declare order)

private theorem regionOf_relabel (id : α) :
    regionOf (order.map (.relabel labels)) (edges.map (.rename labels.idOf)) (labels.idOf id) =
      (regionOf order edges id).map labels.idOf := by
  rw [regionOf, regionOf, map_id_relabel, map_arc_rename]
  exact region_map labels.injective _ _ id

section Names

variable {f : α → δ} (injective : Function.Injective f)
include injective

private theorem seenFrom_rename (region : List α) (sights : List (Sight α)) :
    seenFrom (region.map f) (sights.map (.rename f)) = seenFrom region sights := by
  simp only [seenFrom, List.filter_map, List.map_map, Function.comp_def, Sight.rename, List.any_map,
    List.mem_map_of_injective injective]

/-- Names depend on which regions meet, not on the ids in them. -/
theorem assignNames_rename {regionOf : α → List α} {others : δ → List δ}
    (same : ∀ id, others (f id) = (regionOf id).map f) (width : Int) (sights : List (Sight α))
    (all : List (Variable α)) :
    assignNames others width (sights.map (.rename f)) (all.map (.rename f)) =
      assignNames regionOf width sights all := by
  induction all generalizing sights with
  | nil => rfl
  | cons fresh rest ih =>
    obtain ⟨objectType, quantifiesSet, introducer, declared⟩ := fresh
    cases declared with
    | some name => exact congrArg (name :: ·) (ih sights)
    | none =>
      have grown (name : Wording) : sights.map (Sight.rename f) ++ [Sight.mk name ((regionOf introducer).map f)] =
          (sights ++ [Sight.mk name (regionOf introducer)]).map (.rename f) := by simp [Sight.rename]
      simp only [List.map_cons, assignNames, Variable.rename, same, seenFrom_rename injective, grown]
      exact congrArg _ (ih _)

end Names

private theorem names_relabel (width : Int) (all : List (Variable α)) :
    names (order.map (.relabel labels)) (edges.map (.rename labels.idOf)) width (all.map (.rename labels.idOf)) =
      names order edges width all := by
  have declared : (all.map (Variable.rename labels.idOf)).filterMap (fun known => known.declared.map fun name =>
        (⟨name, regionOf (order.map (.relabel labels)) (edges.map (.rename labels.idOf)) known.introducer⟩ : Sight δ)) =
      (all.filterMap fun known => known.declared.map fun name =>
        (⟨name, regionOf order edges known.introducer⟩ : Sight α)).map (.rename labels.idOf) := by
    rw [List.filterMap_map, List.map_filterMap]
    simp only [Function.comp_def, Variable.rename, regionOf_relabel, Option.map_map]
    rfl
  rw [names, names, declared]
  exact assignNames_rename labels.injective (regionOf_relabel labels order edges) width _ all

end Binding

private theorem Bindings.ofLedger_rename [DecidableEq α] [DecidableEq δ] {f : α → δ} (injective : Function.Injective f)
    (ids : List α) (names : List Wording) (ledger : Ledger α) :
    ofLedger (ids.map f) names (ledger.rename f) = (ofLedger ids names ledger).rename f := by
  have edges : (ofLedger (ids.map f) names (ledger.rename f)).edges = ((ofLedger ids names ledger).rename f).edges := by
    simp only [ofLedger, Ledger.rename, rename, List.filterMap_map, List.map_filterMap]
    apply List.filterMap_congr
    intro assigned _
    simp only [Function.comp_apply, Assignment.rename, List.getElem?_map]
    cases ledger.known[assigned.key]? with
    | none => rfl
    | some known => cases names[assigned.key]? <;> rfl
  have nodes : (ofLedger (ids.map f) names (ledger.rename f)).nodes = ((ofLedger ids names ledger).rename f).nodes := by
    simp only [ofLedger, Ledger.rename, rename, List.map_map]
    apply List.map_congr_left
    intro node _
    simp only [Function.comp_apply, Prod.map, List.filter_map, Function.comp_def, Holding.rename, injective.eq_iff,
      List.filterMap_map, List.getElem?_map, id_eq]
    congr 1
    apply List.filterMap_congr
    intro holding _
    cases ledger.known[holding.key]? with
    | none => rfl
    | some known => rfl
  exact congrArg₂ Bindings.mk edges nodes

/-- The variables of a relabeled order are the renamed ones. -/
theorem propagate_relabel [DecidableEq α] [DecidableEq δ] (labels : Relabeling α δ β γ) (order : List (Node α β))
    (edges : List (Edge α)) (width : Int) :
    propagate (order.map (.relabel labels)) (edges.map (.rename labels.idOf)) width =
      renamed labels.idOf (.rename labels.idOf) (propagate order edges width) := by
  rw [propagate, propagate, Binding.settle_relabel]
  apply renamed_bind
  intro ledger
  rw [map_id_relabel, eraseDups_map labels.injective, Ledger.rename, Binding.names_relabel]
  exact congrArg Except.ok (Bindings.ofLedger_rename labels.injective _ _ ledger)

end BoxTree
