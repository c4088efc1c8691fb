import BoxTree.Proofs.CompileSteps
import BoxTree.Proofs.VariableLedger

/-! Variables of compiled trees, traced through the order. A node's edges are visited only when everything
that comes in is there, so what a node was given is settled by then, and it introduces a variable of a
type and class once at most. -/

namespace BoxTree

variable {α β : Type}

namespace Ledger

/-- A holder has a fitting variable before its own edges are visited: it declares it, or an edge carries it in. -/
def Given (ledger : Ledger α) (objectType : Wording) (quantifiesSet : Bool) (holding : Holding α) : Prop :=
  ledger.Fits objectType quantifiesSet holding.key ∧
    (holding.bound = true ∨ ∃ known, ledger.known[holding.key]? = some known ∧ known.declared ≠ none)

/-- The first fitting variable given to a node. -/
def FirstGiven (ledger : Ledger α) (node : α) (objectType : Wording) (quantifiesSet : Bool) (key : Nat) : Prop :=
  ∃ before holding after, ledger.holdings = before ++ holding :: after ∧ holding.node = node ∧ holding.key = key ∧
    ledger.Given objectType quantifiesSet holding ∧
    ∀ earlier ∈ before, earlier.node = node → ¬ ledger.Given objectType quantifiesSet earlier

/-- A node is given no fitting variable and introduces this one, and no other. -/
structure FirstNeeded (ledger : Ledger α) (node : α) (objectType : Wording) (quantifiesSet : Bool) (key : Nat) :
    Prop where
  nothing : ∀ holding ∈ ledger.holdings, holding.node = node → ¬ ledger.Given objectType quantifiesSet holding
  known : ledger.known[key]? = some ⟨objectType, quantifiesSet, node, none⟩
  only : ∀ other : Nat, ledger.known[other]? = some ⟨objectType, quantifiesSet, node, none⟩ → other = key

/-- The variable of an edge: both ends hold it, and it is the first one with the edge's type and class that
the source was given, or else the only one that the source introduces. -/
structure Settles (nodes : List (Node α β)) [DecidableEq α] (ledger : Ledger α) (assigned : Assignment α) : Prop where
  typed : assigned.edge.dependencyType nodes = .ok (some assigned.dependency)
  ends : ledger.Holds assigned.edge.source assigned.key ∧ ledger.Holds assigned.edge.target assigned.key
  choice : ∃ sourceEnd, assigned.edge.sourceEnd = some sourceEnd ∧
    (ledger.FirstGiven assigned.edge.source sourceEnd.objectType assigned.dependency.quantifiesSet assigned.key ∨
      ledger.FirstNeeded assigned.edge.source sourceEnd.objectType assigned.dependency.quantifiesSet assigned.key)

/-- A node that introduces a variable for an edge holds no other one that fits. -/
def Unrivalled (ledger : Ledger α) : Prop :=
  ∀ (key : Nat) known, ledger.known[key]? = some known → known.declared = none →
    ∀ holding ∈ ledger.holdings, holding.node = known.introducer →
      ledger.Fits known.objectType known.quantifiesSet holding.key → holding.key = key

section Choice

variable {ledger : Ledger α} (coherent : ledger.Coherent) (unrivalled : ledger.Unrivalled)
include coherent unrivalled

private theorem Unrivalled.not_given {key : Nat} {known : Variable α} (found : ledger.known[key]? = some known)
    (generated : known.declared = none) {holding : Holding α} (member : holding ∈ ledger.holdings)
    (atNode : holding.node = known.introducer) : ¬ ledger.Given known.objectType known.quantifiesSet holding := by
  rintro ⟨fits, carried | ⟨other, listed, declared⟩⟩
  · have same := unrivalled key known found generated holding member atNode fits
    obtain ⟨qualifier, first⟩ := coherent.introduced key known found
    rw [coherent.holding_eq member first atNode same] at carried
    cases carried
  · rw [unrivalled key known found generated holding member atNode fits, found] at listed
    exact declared (Option.some.inj listed ▸ generated)

/-- The first fitting variable that a node holds is the first one given to it, or the only one it introduces. -/
theorem Unrivalled.choice [DecidableEq α] {node : α} {objectType : Wording} {quantifiesSet : Bool} {key : Nat}
    (found : ledger.held? node objectType quantifiesSet = some key) :
    ledger.FirstGiven node objectType quantifiesSet key ∨ ledger.FirstNeeded node objectType quantifiesSet key := by
  obtain ⟨before, holding, after, split, atNode, rfl, fits, earlier⟩ := held?_eq_some_iff.mp found
  have member : holding ∈ ledger.holdings := split ▸ List.mem_append_right _ List.mem_cons_self
  by_cases given : ledger.Given objectType quantifiesSet holding
  · refine .inl ⟨before, holding, after, split, atNode, rfl, given, ?_⟩
    intro other listed same fit
    exact earlier other listed same fit.1
  · obtain ⟨known, listed, rfl, rfl⟩ := fits
    obtain ⟨another, again, _, unbound⟩ := coherent.traced holding member
    obtain rfl : known = another := Option.some.inj (listed.symm.trans again)
    have fits : ledger.Fits known.objectType known.quantifiesSet holding.key := ⟨known, listed, rfl, rfl⟩
    have generated : known.declared = none := by
      by_contra declared
      exact given ⟨fits, .inr ⟨known, listed, declared⟩⟩
    have introduced : holding.node = known.introducer := by
      apply unbound
      rw [← Bool.not_eq_true]
      exact fun bound => given ⟨fits, .inl bound⟩
    have whole : known = ⟨known.objectType, known.quantifiesSet, node, none⟩ := by
      rw [← atNode, introduced, ← generated]
    refine .inr ⟨?_, whole ▸ listed, ?_⟩
    · intro other otherMember otherNode
      exact unrivalled.not_given coherent listed generated otherMember (otherNode.trans (atNode.symm.trans introduced))
    · intro other otherListed
      exact (unrivalled other _ otherListed rfl holding member atNode fits).symm

end Choice

variable [DecidableEq α]

section Steps

variable {order : List (Node α β)} {edges done : List (Edge α)} {ledger next : Ledger α} {edge : Edge α}
  {sourceEnd : Endpoint} {dependency : DependencyType}

private theorem Unrivalled.pass {key : Nat} {qualifier : Wording} (unrivalled : ledger.Unrivalled)
    (onward : ∀ (other : Nat) known, ledger.known[other]? = some known → known.declared = none →
      known.introducer ≠ edge.target) : (ledger.pass edge key qualifier dependency).Unrivalled := by
  intro other known found generated holding member atNode fits
  simp only [Fits, pass_known] at found fits
  rcases ledger.pass_holdings edge key qualifier dependency with ⟨_, same⟩ | ⟨_, added⟩
  · exact unrivalled other known found generated holding (same ▸ member) atNode fits
  · rw [added, List.mem_append, List.mem_singleton] at member
    rcases member with before | rfl
    · exact unrivalled other known found generated holding before atNode fits
    · exact False.elim (onward other known found generated atNode.symm)

private theorem Unrivalled.introduce {node : α} {objectType : Wording} {quantifiesSet : Bool}
    {qualifier : Option Wording}
    (coherent : ledger.Coherent) (unrivalled : ledger.Unrivalled)
    (none : ledger.held? node objectType quantifiesSet = none) :
    (ledger.introduce ⟨objectType, quantifiesSet, node, .none⟩ qualifier).Unrivalled := by
  have more := ledger.extends_introduce ⟨objectType, quantifiesSet, node, .none⟩ qualifier
  rw [held?_eq_none_iff] at none
  intro key known found generated holding member atNode fits
  rcases List.mem_append.mp member with old | new
  · obtain ⟨held, listed, _⟩ := coherent.traced holding old
    rw [more.fits_iff listed] at fits
    rcases known_introduce found with before | ⟨rfl, rfl⟩
    · exact unrivalled key known before generated holding old atNode fits
    · exact False.elim (none holding old atNode fits)
  · obtain rfl := List.mem_singleton.mp new
    rcases known_introduce found with before | ⟨rfl, rfl⟩
    · obtain ⟨fresh, listed, type, class'⟩ := fits
      obtain rfl := Option.some.inj (List.getElem?_concat_length.symm.trans listed)
      obtain ⟨origin, first⟩ := coherent.introduced key known before
      exact False.elim (none _ first atNode.symm ⟨known, before, type.symm, class'.symm⟩)
    · rfl

private theorem Unrivalled.step (visited : ledger.Visited order done) (unrivalled : ledger.Unrivalled)
    (onward : ∀ earlier ∈ done ++ [edge], earlier.source ≠ edge.target)
    (binds : ledger.Binds edge sourceEnd dependency next) : next.Unrivalled := by
  have settled (key : Nat) (known : Variable α) (found : ledger.known[key]? = some known)
      (generated : known.declared = none) : known.introducer ≠ edge.target := by
    obtain ⟨assigned, member, _, source⟩ := visited.used key known found generated
    rw [← source]
    exact onward _ (List.mem_append_left _ (visited.edges ▸ List.mem_map_of_mem member))
  cases binds with
  | reused found => exact unrivalled.pass settled
  | fresh none =>
    refine (unrivalled.introduce visited.coherent none).pass ?_
    intro key known found generated
    rcases known_introduce found with old | ⟨_, rfl⟩
    · exact settled key known old generated
    · exact onward edge (List.mem_append_right _ List.mem_cons_self)

end Steps

section Run

variable {order : List (Node α β)} {edges : List (Edge α)}

theorem visits_sorted (unique : (order.map (·.id)).Nodup) :
    (visits order edges).Pairwise fun earlier later =>
      (order.map (·.id)).idxOf earlier.source ≤ (order.map (·.id)).idxOf later.source := by
  have source {node : Node α β} {edge : Edge α}
      (member : edge ∈ (Binding.dependencyEdges order edges).filter fun edge => edge.source = node.id) :
      edge.source = node.id := of_decide_eq_true (List.mem_filter.mp member).2
  apply List.pairwise_flatMap.mpr
  constructor
  · intro node _
    apply List.pairwise_of_forall_mem_list
    intro earlier earlierMember later laterMember
    rw [source earlierMember, source laterMember]
  · apply List.pairwise_iff_getElem.mpr
    intro first second firstBelow secondBelow less earlier earlierMember later laterMember
    have place (index : Nat) (below : index < order.length) : (order.map (·.id)).idxOf order[index].id = index := by
      have inside : index < (order.map (·.id)).length := by rwa [List.length_map]
      have same : (order.map (·.id))[index] = order[index].id := List.getElem_map _
      rw [← same, unique.idxOf_getElem]
    rw [source earlierMember, source laterMember, place first firstBelow, place second secondBelow]
    exact less.le

/-- Where dependencies lead forward, an edge ends where no edge visited before it starts. -/
theorem onward_visits (unique : (order.map (·.id)).Nodup)
    (forward : ∀ edge ∈ Binding.dependencyEdges order edges,
      (order.map (·.id)).idxOf edge.source < (order.map (·.id)).idxOf edge.target)
    {done rest : List (Edge α)} {edge : Edge α} (split : visits order edges = done ++ edge :: rest) :
    ∀ earlier ∈ done ++ [edge], earlier.source ≠ edge.target := by
  have sorted : (visits order edges).Pairwise _ := visits_sorted unique
  have ahead := forward edge (mem_visits.mp (split ▸ List.mem_append_right _ List.mem_cons_self))
  rw [split, List.pairwise_append] at sorted
  intro earlier member same
  rcases List.mem_append.mp member with before | new
  · have ordered := sorted.2.2 earlier before edge List.mem_cons_self
    rw [same] at ordered
    exact Nat.not_lt.mpr ordered ahead
  · rw [List.mem_singleton.mp new] at same
    exact absurd ahead (same ▸ Nat.lt_irrefl _)

private theorem unrivalled_settle {ledger : Ledger α} (unique : (order.map (·.id)).Nodup)
    (forward : ∀ edge ∈ Binding.dependencyEdges order edges,
      (order.map (·.id)).idxOf edge.source < (order.map (·.id)).idxOf edge.target)
    (settled : Binding.settle order edges = .ok ledger) : ledger.Unrivalled := by
  have start : (declare order).Unrivalled := by
    intro key known found generated
    obtain ⟨assigned, member, _⟩ := (visited_declare order).used key known found generated
    have none := (visited_declare order).edges
    rw [List.map_eq_nil_iff] at none
    rw [none] at member
    cases member
  have step (done : List (Edge α)) (edge : Edge α) (rest : List (Edge α)) (ledger next : Ledger α)
      (split : visits order edges = done ++ edge :: rest) (both : ledger.Visited order done ∧ ledger.Unrivalled)
      (made : visit order ledger edge = .ok next) : next.Visited order (done ++ [edge]) ∧ next.Unrivalled := by
    obtain ⟨visited, unrivalled⟩ := both
    have member : edge ∈ visits order edges := split ▸ List.mem_append_right _ List.mem_cons_self
    obtain ⟨sourceEnd, dependency, atSource, typed, binds⟩ := binds_visit member made
    exact ⟨visited.step atSource typed binds, unrivalled.step visited (onward_visits unique forward split) binds⟩
  exact (foldlM_keeps step ⟨visited_declare order, start⟩ settled).2

theorem visits_eq_flatMap (order : List (Node α β)) (edges : List (Edge α)) :
    visits order edges = (order.map (·.id)).flatMap fun id =>
      (Binding.dependencyEdges order edges).filter fun edge => edge.source = id := by
  rw [List.flatMap_map]
  rfl

theorem visits_perm (unique : (order.map (·.id)).Nodup) :
    (visits order edges).Perm (Binding.dependencyEdges order edges) := by
  rw [visits_eq_flatMap]
  exact perm_flatMap_filter unique fun edge member => (mem_dependencyEdges.mp member).2.2.1

private theorem Visited.idxOf_lt {ledger : Ledger α} (visited : ledger.Visited order (visits order edges))
    (forward : ∀ edge ∈ Binding.dependencyEdges order edges,
      (order.map (·.id)).idxOf edge.source < (order.map (·.id)).idxOf edge.target)
    {key : Nat} {source target : α} (path : Relation.ReflTransGen (ledger.Passes key) source target)
    (other : target ≠ source) : (order.map (·.id)).idxOf source < (order.map (·.id)).idxOf target := by
  have step {left right : α} (passes : ledger.Passes key left right) :
      (order.map (·.id)).idxOf left < (order.map (·.id)).idxOf right := by
    obtain ⟨assigned, member, _, rfl, rfl⟩ := passes
    exact forward _ (visited.edge_mem member)
  induction path with
  | refl => exact False.elim (other rfl)
  | @tail middle target _ last ih =>
    by_cases start : middle = source
    · exact start ▸ step last
    · exact (ih start).trans (step last)

theorem Visited.holder_mem {ledger : Ledger α} (visited : ledger.Visited order (visits order edges))
    {holding : Holding α} (member : holding ∈ ledger.holdings) : holding.node ∈ order.map (·.id) := by
  obtain ⟨known, found, path, _⟩ := visited.coherent.traced holding member
  rcases Relation.ReflTransGen.cases_tail path with same | ⟨_, _, assigned, listed, _, _, target⟩
  · exact same ▸ visited.introducer_mem found
  · exact target ▸ (mem_dependencyEdges.mp (visited.edge_mem listed)).2.2.2.1

end Run
end Ledger

variable [DecidableEq α]

/-- The ledger of a compiled tree. Declared variables come first. Each dependency between nodes of the tree
has one variable, which is settled by what its source holds and shared with all edges of the same type and
class that start there, and a variable that is not declared is needed by an edge of its introducer. No node
holds a variable twice. Each variable is held unbound once, by its introducer; any other holder comes later,
and edges carry the variable all the way to it. -/
structure CompiledTree.Traces (graph : Graph α β) (compiled : CompiledTree α β) (ledger : Ledger α) : Prop where
  known : ∃ generated, ledger.known =
    (compiled.order.filterMap (findNode? graph.nodes)).flatMap (·.declaredVariables) ++ generated ∧
    ∀ fresh ∈ generated, fresh.declared = none
  edges : (ledger.assignments.map (·.edge)).Perm (graph.resolved.filter fun edge =>
    edge.isDependency && edge.source ∈ compiled.order && edge.target ∈ compiled.order)
  settles : ∀ assigned ∈ ledger.assignments, ledger.Settles graph.nodes assigned
  shared : ∀ left ∈ ledger.assignments, ∀ right ∈ ledger.assignments, left.edge.source = right.edge.source →
    left.edge.objectType? = right.edge.objectType? → left.dependency.quantifiesSet = right.dependency.quantifiesSet →
    left.key = right.key
  needed : ∀ (key : Nat) known, ledger.known[key]? = some known → known.declared = none →
    ∃ assigned ∈ ledger.assignments, assigned.key = key ∧ assigned.edge.source = known.introducer
  once : (ledger.holdings.map fun holding => (holding.node, holding.key)).Nodup
  unbound : ∀ (key : Nat) known, ledger.known[key]? = some known →
    ∃ first ∈ ledger.holdings, first.node = known.introducer ∧ first.key = key ∧
      ∀ holding ∈ ledger.holdings, holding.key = key → (holding.bound = false ↔ holding = first)
  carried : ∀ holding ∈ ledger.holdings, holding.bound = true → ∃ known, ledger.known[holding.key]? = some known ∧
    compiled.order.idxOf known.introducer < compiled.order.idxOf holding.node ∧
    Relation.ReflTransGen (ledger.Passes holding.key) known.introducer holding.node
  inside : ∀ holding ∈ ledger.holdings, holding.node ∈ compiled.order

namespace Compile

section Leaving

variable {graph : Graph α β} {part : List (Node α β) × List (Edge α)} {first root : α} {order : List α}
  (fragment : Fragment graph.nodes graph.resolved first part.1 part.2) (ordered : Ordered part.1 part.2 order)
  (member : root ∈ order)
include fragment ordered member

private theorem dependencyEdges_leaving (listed : part ∈ fragments graph.nodes graph.resolved) :
    Binding.dependencyEdges (partNodes part.1 part.2 order root) (leaving part.2 order root) =
      graph.resolved.filter fun edge => edge.isDependency && edge.source ∈ Compile.part part.2 order root &&
        edge.target ∈ Compile.part part.2 order root := by
  rw [Binding.dependencyEdges, ordered.map_id_partNodes, leaving_eq_filter fragment ordered member listed,
    List.filter_filter]
  apply List.filter_congr
  intro edge resolved
  by_cases start : edge.source ∈ Compile.part part.2 order root
  · have leaves : edge ∈ leaving part.2 order root := (mem_leaving_iff fragment ordered member).mpr ⟨resolved, start⟩
    have ahead := (ordered.forward_edge member ((ordered.mem_leaving member).mp leaves).1 start).2
    have other : edge.source ≠ edge.target := fun same => absurd ahead (same ▸ Nat.lt_irrefl _)
    simp [start, other]
  · simp [start]

omit fragment in
private theorem forward_dependencyEdges {edge : Edge α}
    (depends : edge ∈ Binding.dependencyEdges (partNodes part.1 part.2 order root) (leaving part.2 order root)) :
    ((partNodes part.1 part.2 order root).map (·.id)).idxOf edge.source <
      ((partNodes part.1 part.2 order root).map (·.id)).idxOf edge.target := by
  obtain ⟨leaves, _, source, _⟩ := Ledger.mem_dependencyEdges.mp depends
  rw [ordered.map_id_partNodes] at source ⊢
  exact (ordered.forward_edge member ((ordered.mem_leaving member).mp leaves).1 source).2

private theorem traces (unique : graph.ids.Nodup) (listed : part ∈ fragments graph.nodes graph.resolved)
    {ledger : Ledger α}
    (settled : Binding.settle (partNodes part.1 part.2 order root) (leaving part.2 order root) = .ok ledger)
    {tree : LinearTree β} {bindings : Bindings α} :
    CompiledTree.Traces graph ⟨root, Compile.part part.2 order root, tree, bindings⟩ ledger := by
  have ids := ordered.map_id_partNodes root
  have once : ((partNodes part.1 part.2 order root).map (·.id)).Nodup := ids ▸ ordered.once_part root
  have visited := Ledger.visited_settle settled
  have coherent := visited.coherent
  have forward : ∀ edge ∈ Binding.dependencyEdges (partNodes part.1 part.2 order root) (leaving part.2 order root), _ :=
    fun edge depends => forward_dependencyEdges ordered member depends
  have unrivalled := Ledger.unrivalled_settle once forward settled
  have nodes : partNodes part.1 part.2 order root =
      (Compile.part part.2 order root).filterMap (findNode? graph.nodes) :=
    List.filterMap_congr fun id kept => findNode?_of_mem_part fragment ordered unique kept
  refine ⟨nodes ▸ visited.known, ?_, ?_, ?_, visited.used, coherent.once, ?_, ?_, ?_⟩
  · rw [visited.edges, ← dependencyEdges_leaving fragment ordered member listed]
    exact Ledger.visits_perm once
  · intro assigned isAssigned
    obtain ⟨typed, sourceEnd, atSource, first⟩ := visited.chosen assigned isAssigned
    have inside := (Ledger.mem_dependencyEdges.mp (visited.edge_mem isAssigned)).2.2
    rw [ids] at inside
    refine ⟨?_, coherent.ends assigned isAssigned, sourceEnd, atSource, unrivalled.choice coherent first⟩
    rw [← dependencyType_congr (findNode?_partNodes_eq fragment ordered unique inside.1)
      (findNode?_partNodes_eq fragment ordered unique inside.2.1)]
    exact typed
  · intro left isLeft right isRight source type class'
    obtain ⟨leftEnd, atLeft, leftFirst⟩ := (visited.chosen left isLeft).first
    obtain ⟨rightEnd, atRight, rightFirst⟩ := (visited.chosen right isRight).first
    rw [Edge.objectType?, Edge.objectType?, atLeft, atRight] at type
    rw [source, show leftEnd.objectType = rightEnd.objectType from Option.some.inj type, class'] at leftFirst
    exact Option.some.inj (leftFirst.symm.trans rightFirst)
  · exact fun key known => coherent.exists_unbound
  · intro holding isHeld bound
    obtain ⟨known, origin, path, _⟩ := coherent.traced holding isHeld
    obtain ⟨qualifier, first⟩ := coherent.introduced holding.key known origin
    refine ⟨known, origin, ?_, path⟩
    rw [← ids]
    apply visited.idxOf_lt forward path
    intro same
    rw [coherent.holding_eq isHeld first same rfl] at bound
    cases bound
  · intro holding isHeld
    exact ids ▸ visited.holder_mem isHeld

end Leaving
end Compile

/-- Compiling any graph gives a result, and the variables of each of its trees have such a ledger. -/
theorem compile_traces (graph : Graph α β) (settings : CompilerSettings) :
    ∃ compilation, graph.compile settings = .ok compilation ∧ ∀ compiled ∈ compilation.trees,
      ∃ ledger names, compiled.Traces graph.keyed ledger ∧ ledger.Shows compiled.order names compiled.bindings := by
  obtain ⟨compilation, outcomes, found, trees, components⟩ := graph.exists_compile_keyed settings
  refine ⟨compilation, found, ?_⟩
  intro compiled member
  rw [trees] at member
  obtain ⟨outcome, listed, made⟩ := List.mem_flatMap.mp member
  obtain ⟨part, isPart, ⟨first, fragment⟩, of⟩ := exists_of_forall₂_right components listed
  obtain ⟨order, root, ordered, isRoot, of⟩ := of.of_mem_trees made
  cases of with
  | @compiled tree bindings built bound =>
    have inOrder := (ordered.members root).mpr isRoot.touched
    have unique : graph.keyed.ids.Nodup := nodup_latest Node.id graph.nodes
    obtain ⟨ledger, settled⟩ := exists_settle fun edge depends =>
      ordered.usable_leaving inOrder edge (Ledger.mem_dependencyEdges.mp depends).1
    have ids := ordered.map_id_partNodes root
    have once := ids ▸ ordered.once_part root
    obtain ⟨same, again, shows'⟩ := Ledger.exists_shows settings.variablePrefixLength once settled
    obtain rfl : bindings = same := Except.ok.inj (bound.symm.trans again)
    exact ⟨ledger, _, Compile.traces fragment ordered inOrder unique isPart settled, ids ▸ shows'⟩

end BoxTree
