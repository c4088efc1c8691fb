import BoxTree.Graph.Document
import BoxTree.Proofs.CompileSteps
import BoxTree.Proofs.VariableTraces
import Mathlib

/-! The graph of a document always compiles to a result. Each stage looks up ids, places and qualifiers that
an earlier stage has made sure of, so nothing it asks for is missing. -/

namespace BoxTree

private theorem nodup_of_repeatedIds {ids : List Wording} (none : GraphDocument.repeatedIds ids = []) : ids.Nodup := by
  apply List.nodup_iff_count_le_one.mpr
  intro id
  by_contra more
  have repeated : id ∈ GraphDocument.repeatedIds ids := by
    have listed : id ∈ ids := List.count_pos_iff.mp (by omega)
    simp [GraphDocument.repeatedIds, listed, Nat.lt_of_not_le more]
  rw [none] at repeated
  cases repeated

private theorem GraphDocument.unique_of_read {document : Value} {graph : DocumentGraph}
    (accepted : read document = .good graph) : graph.ids.Nodup := by
  simp only [read, Schema.record, Schema.Checked.andThen] at accepted
  split at accepted
  next =>
    split at accepted
    next =>
      split at accepted
      next none =>
        cases accepted
        exact nodup_of_repeatedIds none
      next => cases accepted
    next => cases accepted
  next => cases accepted

variable {α β : Type} [DecidableEq α]

/-- An edge that can be used is a link without ends, or has a type. -/
structure Classified (nodes : List (Node α β)) (edge : Edge α) : Prop extends Usable nodes edge where
  untyped : edge.dependencyType nodes = .ok none ↔ edge.sourceEnd = none ∧ edge.targetEnd = none

private theorem typed_of_isDependency {nodes : List (Node α β)} {edge : Edge α}
    (dependency : edge.isDependency = true) :
    edge.dependencyType nodes ≠ .ok none := by
  simp only [Edge.isDependency, Bool.and_eq_true, Option.isSome_iff_exists] at dependency
  obtain ⟨⟨sourceEnd, atSource⟩, targetEnd, atTarget⟩ := dependency
  simp only [Edge.dependencyType, atSource, atTarget]
  cases isMultiple nodes edge.source sourceEnd with
  | error => rintro ⟨⟩
  | ok =>
    cases isMultiple nodes edge.target targetEnd with
    | error => rintro ⟨⟩
    | ok => rintro ⟨⟩

private theorem classified_of_resolved {graph : Graph α β} {edge : Edge α} (member : edge ∈ graph.resolved) :
    Classified graph.nodes edge := by
  have usable := usable_of_resolved member
  refine { usable with untyped := ⟨?_, ?_⟩ }
  · intro untyped
    have fine := Option.isNone_iff_eq_none.mp (List.mem_filter.mp member).2
    obtain ⟨source, sourceFound⟩ := exists_findNode? usable.source
    obtain ⟨target, targetFound⟩ := exists_findNode? usable.target
    have ends : ¬ edge.isDependency = true := fun dependency => typed_of_isDependency dependency untyped
    cases atSource : edge.sourceEnd <;> cases atTarget : edge.targetEnd <;>
      simp_all [Edge.dangling?, Edge.isDependency]
  · intro given
    rw [Edge.dependencyType, given.1]

namespace Links

variable {links : Links α} {order : QueueOrder} {work next : Work α} {id : α}

def Knows (links : Links α) (work : Work α) : Prop := work.queue ++ work.reached ⊆ links.ids

private theorem knows_start : links.Knows ⟨links.roots, []⟩ := by
  intro id listed
  rw [List.append_nil] at listed
  exact (List.mem_filter.mp listed).1

private theorem Knows.step (knows : links.Knows work) (taken : links.Takes work id next) : links.Knows next := by
  intro other listed
  rcases taken.mem_listed.mp listed with old | arc
  · exact knows old
  · exact (links.closed _ arc).2

private theorem Knows.advance (knows : links.Knows work) (bound : Nat) :
    links.Knows (links.advance order bound work) := by
  induction bound generalizing work with
  | zero => exact knows
  | succ bound ih =>
    simp only [Links.advance]
    split
    next => exact knows
    next =>
      split
      next => exact knows
      next next advanced =>
        obtain ⟨id, taken⟩ := takes_of_step advanced
        exact ih (knows.step taken)

private theorem Knows.no_stranger (knows : links.Knows work) : links.stranger? order work = none := by
  have known : ∀ id ∈ work.queue, id ∈ links.ids := fun id waits => knows (List.mem_append_left _ waits)
  apply List.find?_eq_none.mpr
  cases order with
  | parentCount =>
    intro id looked
    simp [known id looked]
  | insertion =>
    intro id looked
    have waits : id ∈ work.queue := by
      rcases List.mem_append.mp looked with before | stop
      · exact List.takeWhile_subset _ before
      · exact List.dropWhile_subset _ (List.mem_of_mem_take stop)
    simp [known id waits]

/-- After any number of steps the fold has met known ids only, and the next step looks up no other. -/
structure Supplied (links : Links α) (order : QueueOrder) : Prop where
  known : ∀ steps, links.Knows (links.advance order steps ⟨links.roots, []⟩)
  looked : ∀ steps, links.stranger? order (links.advance order steps ⟨links.roots, []⟩) = none

private theorem supplied (links : Links α) (order : QueueOrder) : links.Supplied order where
  known := knows_start.advance
  looked steps := (knows_start.advance steps).no_stranger

end Links

namespace Build

variable {order : List (Node α β)} {edges : List (Edge α)} {id : α}

def Ranks (order : List (Node α β)) (id : α) : Prop :=
  ∃ node place, findNode? order id = some node ∧ place? id order = some place ∧ rank order id = (node.isGate, place)

/-- Nothing that making a tree looks up is missing from the order, whichever of the edges are read so far. -/
structure Supplied (order : List (Node α β)) (edges : List (Edge α)) : Prop where
  placed : ∀ node ∈ order, ∃ place, place? node.id order = some place
  ranked : ∀ edge ∈ edges, isInner order edge = true → Ranks order edge.source
  preferred : ∀ read, read <+: edges → ∀ id parent, treeParent? order read id = some parent → Ranks order parent
  joined : ∀ edge ∈ treeEdges order edges,
    (∃ place, place? edge.source order = some place) ∧ ∃ place, place? edge.target order = some place

private theorem exists_place (known : id ∈ order.map (·.id)) : ∃ place, place? id order = some place :=
  Option.isSome_iff_exists.mp (place?_isSome_iff.mpr known)

private theorem ranks_of_mem (known : id ∈ order.map (·.id)) : Ranks order id := by
  obtain ⟨node, found⟩ := exists_findNode? known
  obtain ⟨place, placed⟩ := exists_place known
  exact ⟨node, place, found, placed, by simp [rank, found, placed]⟩

private theorem supplied (order : List (Node α β)) (edges : List (Edge α)) : Supplied order edges where
  placed node listed := exists_place (List.mem_map_of_mem listed)
  ranked edge _ inner := ranks_of_mem (isInner_iff.mp inner).1
  preferred read _ id parent found := by
    obtain ⟨edge, enters, rfl⟩ := enters_of_treeParent found
    exact ranks_of_mem (isInner_iff.mp enters.inner).1
  joined edge member := by
    obtain ⟨source, target, _⟩ := isInner_iff.mp (inner_of_treeParent (mem_treeEdges.mp member).2)
    exact ⟨exists_place source, exists_place target⟩

end Build

namespace Binding

variable {order : List (Node α β)} {edges : List (Edge α)}

/-- A dependency between nodes of an order that has a type there. -/
structure Bindable (order : List (Node α β)) (edge : Edge α) : Prop where
  source : edge.source ∈ order.map (·.id)
  target : edge.target ∈ order.map (·.id)
  ends : ∃ sourceEnd targetEnd, edge.sourceEnd = some sourceEnd ∧ edge.targetEnd = some targetEnd
  typed : ∃ dependency, edge.dependencyType order = .ok (some dependency)

/-- A ledger of nodes in an order, in which every key leads to a variable and every variable gets a name. -/
structure Closed (order : List (Node α β)) (edges : List (Edge α)) (width : Int) (ledger : Ledger α) : Prop where
  holders : ∀ holding ∈ ledger.holdings, holding.node ∈ order.map (·.id) ∧ holding.key < ledger.known.length
  introducers : ∀ known ∈ ledger.known, known.introducer ∈ order.map (·.id)
  assigned : ∀ assigned ∈ ledger.assignments, assigned.key < ledger.known.length
  named : (names order edges width ledger.known).length = ledger.known.length

/-- Nothing that settling the variables of an order looks up is missing from it. -/
structure Supplied (order : List (Node α β)) (edges : List (Edge α)) (width : Int) : Prop where
  visits : ∀ edge ∈ Ledger.visits order edges, Bindable order edge
  settled : ∃ ledger, settle order edges = .ok ledger ∧ Closed order edges width ledger

private theorem bindable_of_visits {edge : Edge α} (usable : ∀ edge ∈ edges, Usable order edge)
    (member : edge ∈ Ledger.visits order edges) : Bindable order edge := by
  obtain ⟨listed, dependency, source, target, _⟩ := Ledger.mem_dependencyEdges.mp (Ledger.mem_visits.mp member)
  refine ⟨source, target, ?_, ?_⟩
  · simpa [Edge.isDependency, Option.isSome_iff_exists] using dependency
  · obtain ⟨found, typed⟩ := (usable edge listed).typed
    cases found with
    | none => exact False.elim (typed_of_isDependency dependency typed)
    | some found => exact ⟨found, typed⟩

private theorem closed_of_settle {ledger : Ledger α} (width : Int) (settled : settle order edges = .ok ledger) :
    Closed order edges width ledger := by
  have visited := Ledger.visited_settle settled
  have bounded {holding : Holding α} (listed : holding ∈ ledger.holdings) : holding.key < ledger.known.length := by
    obtain ⟨_, found, _⟩ := visited.coherent.traced holding listed
    exact (List.getElem?_eq_some_iff.mp found).1
  refine ⟨?_, ?_, ?_, length_assignNames⟩
  · intro holding listed
    exact ⟨visited.holder_mem listed, bounded listed⟩
  · intro known listed
    obtain ⟨key, found⟩ := List.mem_iff_getElem?.mp listed
    exact visited.introducer_mem found
  · intro assigned listed
    obtain ⟨holding, held, _, same⟩ := (visited.coherent.ends assigned listed).1
    exact same ▸ bounded held

private theorem supplied (width : Int) (usable : ∀ edge ∈ edges, Usable order edge) : Supplied order edges width where
  visits _ := bindable_of_visits usable
  settled := by
    obtain ⟨ledger, settled⟩ := exists_settle fun edge member => usable edge (List.mem_filter.mp member).1
    exact ⟨ledger, settled, closed_of_settle width settled⟩

end Binding

namespace Compile

/-- Nothing is missing from what the tree of a root and its variables are made of. -/
structure RootSupplied (nodes : List (Node α β)) (edges : List (Edge α)) (settings : CompilerSettings)
    (order : List α) (root : α) : Prop where
  found : ∀ id ∈ part edges order root, ∃ node, findNode? nodes id = some node
  tree : Build.Supplied (partNodes nodes edges order root) (leaving edges order root)
  bindings : Binding.Supplied (partNodes nodes edges order root) (leaving edges order root)
    settings.variablePrefixLength

/-- Nothing is missing from what a component is compiled of: it can be ordered, and then each of its roots
has all that it needs. -/
structure Supplied (nodes : List (Node α β)) (edges : List (Edge α)) (settings : CompilerSettings) : Prop where
  ordered : ∃ links, Links.ofFragment nodes edges = .ok links ∧ links.Supplied settings.queueOrder
  roots : ∀ result, linearize nodes edges settings.queueOrder = .ok result → result.error = none →
    ∀ root ∈ result.roots, RootSupplied nodes edges settings result.order root

variable {nodes : List (Node α β)} {edges : List (Edge α)} {settings : CompilerSettings} {order : List α} {root : α}

private theorem rootSupplied (ordered : Ordered nodes edges order) (member : root ∈ order) :
    RootSupplied nodes edges settings order root where
  found _ kept := exists_findNode? (ordered.mem_nodes (List.mem_filter.mp kept).1)
  tree := Build.supplied _ _
  bindings := Binding.supplied _ (ordered.usable_leaving member)

private theorem supplied_of_outcome {outcome : ComponentOutcome α β} (of : outcome.Of nodes edges settings)
    (usable : ∀ edge ∈ edges, Usable nodes edge) : Supplied nodes edges settings where
  ordered := by
    obtain ⟨links, found, _⟩ := Links.ofFragment_eq_ok nodes edges fun edge member =>
      ⟨(usable edge member).source, (usable edge member).target⟩
    exact ⟨links, found, links.supplied _⟩
  roots result linear complete root member := by
    cases of with
    | rejected found reported =>
      rw [found] at linear
      cases linear
      rw [reported] at complete
      cases complete
    | rooted found _ ordered _ roots =>
      rw [found] at linear
      cases linear
      exact rootSupplied ordered ((ordered.members root).mpr ((roots root).mp member).touched)

end Compile

/-- The graph of a document compiles to a result, whatever the settings. Its usable edges can be registered
and classified, no stage of a component looks up anything that is missing, and the result collects what the
components come to. -/
theorem compile_read {document : Value} {graph : DocumentGraph} (settings : CompilerSettings)
    (accepted : GraphDocument.read document = .good graph) :
    (∃ links, Links.ofFragment graph.nodes graph.resolved = .ok links) ∧
    (∀ edge ∈ graph.resolved, Classified graph.nodes edge) ∧
    (∀ part ∈ Compile.fragments graph.nodes graph.resolved, Compile.Supplied part.1 part.2 settings) ∧
    ∃ compilation outcomes, graph.compile settings = .ok compilation ∧
      compilation.Collects graph settings outcomes := by
  have unique := GraphDocument.unique_of_read accepted
  obtain ⟨compilation, outcomes, found, collects⟩ := graph.exists_compile unique settings
  obtain ⟨links, registered, _⟩ := Links.ofFragment_eq_ok graph.nodes graph.resolved graph.resolved_closed
  refine ⟨⟨links, registered⟩, fun edge => classified_of_resolved, ?_, compilation, outcomes, found, collects⟩
  intro part listed
  obtain ⟨first, fragment⟩ := Compile.fragment_of_mem graph.resolved_closed listed
  have usable : ∀ edge ∈ part.2, Usable part.1 edge := by
    intro edge member
    exact fragment.usable unique member (usable_of_resolved ((fragment.mem_edges edge).mp member).1)
  obtain ⟨outcome, _, of⟩ := Compile.exists_compileComponent settings (fragment.unique unique) usable
    fun _ _ => fragment.joined
  exact Compile.supplied_of_outcome of usable

/-- A dependency, a gate without a child under one of its boxes, and an edge to nowhere. -/
def unfinished : Value :=
  let object (entries : List (Wording × Value)) : Value := .map (entries.map fun (name, value) => (.text name, value))
  let box (id : Wording) : Value := object [("id", .text id), ("eventType", .text "event"),
    ("qualifiers", object [("one", object [("qualifier", .text "one"), ("objectTypes", .list [.text "order"])])])]
  let handle : Value := object [("qualifier", .text "one"), ("objectType", .text "order")]
  object [
    ("nodes", .list [box "a", box "b", object [("id", .text "n"), ("type", .text "gate"), ("gate", .text "not")],
      box "c"]),
    ("edges", .list [
      object [("source", .text "a"), ("target", .text "b"), ("sourceHandle", handle), ("targetHandle", handle)],
      object [("source", .text "c"), ("target", .text "n")], object [("source", .text "a"), ("target", .text "d")]])]

theorem compile_read_unfinished : ∃ graph, GraphDocument.read unfinished = .good graph ∧
    (∀ edge ∈ graph.resolved, Classified graph.nodes edge) ∧
    (∀ part ∈ Compile.fragments graph.nodes graph.resolved, Compile.Supplied part.1 part.2 {}) ∧
    ∃ compilation outcomes, graph.compile {} = .ok compilation ∧ compilation.Collects graph {} outcomes ∧
      compilation.trees.map (·.order) = ([["a", "b"]] : List (List Wording)) ∧ compilation.errors = [.arity ⟨"n", 1, 0⟩] := by
  obtain ⟨graph, accepted⟩ : ∃ graph, GraphDocument.read unfinished = .good graph := ⟨_, by cbv⟩
  obtain ⟨_, classified, supplied, compilation, outcomes, found, collects⟩ := compile_read {} accepted
  have run : (GraphDocument.read unfinished).toExcept.toOption.bind (fun graph => (graph.compile {}).toOption.map
      fun compilation => (compilation.trees.map (·.order), compilation.errors)) =
      some (([["a", "b"]] : List (List Wording)), [.arity ⟨"n", 1, 0⟩]) := by cbv
  rw [accepted, Schema.Checked.toExcept, Except.toOption, Option.bind_some, found] at run
  obtain ⟨trees, errors⟩ := Prod.mk.inj (Option.some.inj run)
  exact ⟨graph, accepted, classified, supplied, compilation, outcomes, found, collects, trees, errors⟩

end BoxTree
