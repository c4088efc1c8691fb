import BoxTree.Proofs.CompiledTexts
import BoxTree.Proofs.VariableNames

/-! A compilation that succeeds tells no half letters of its own: where the texts of a graph are whole, so are those that
the compilation tells beside its trees. -/

namespace BoxTree

variable {α β : Type}

namespace Binding

private theorem isWhole_start {objectType : Wording} (whole : objectType.isWhole = true) (width : Int) :
    (Wording.ofLetters (takeTo width objectType.letters)).isWhole = true := by
  rw [Wording.isWhole_iff, List.any_eq_false] at whole
  rw [Wording.isWhole_iff, Wording.letters_ofLetters, List.any_eq_false]
  intro letter member
  apply whole letter
  unfold takeTo at member
  split at member <;> exact List.mem_of_mem_take member

private theorem isWhole_numbered_stem {objectType : Wording} (whole : objectType.isWhole = true) (quantifiesSet : Bool)
    (width : Int) (number : Nat) : (numbered (stem objectType quantifiesSet width) number).isWhole = true := by
  obtain ⟨start, same⟩ := Wording.exists_whole (isWhole_start whole width)
  rw [numbered, Wording.isWhole_append, stem, same]
  cases quantifiesSet <;> exact ⟨rfl, rfl⟩

end Binding

structure Variable.Whole (known : Variable α) : Prop where
  objectType : known.objectType.isWhole = true
  declared : ∀ name ∈ known.declared, name.isWhole = true

structure Endpoint.Whole (endpoint : Endpoint) : Prop where
  qualifier : endpoint.qualifier.isWhole = true
  objectType : endpoint.objectType.isWhole = true

structure Edge.WholeEnds (edge : Edge α) : Prop where
  source : ∀ endpoint ∈ edge.sourceEnd, endpoint.Whole
  target : ∀ endpoint ∈ edge.targetEnd, endpoint.Whole

namespace Ledger

structure Whole (ledger : Ledger α) : Prop where
  known : ∀ known ∈ ledger.known, known.Whole
  qualifiers : ∀ holding ∈ ledger.holdings, ∀ qualifier ∈ holding.qualifier, qualifier.isWhole = true

section Steps

variable {ledger : Ledger α} (whole : ledger.Whole)
include whole

private theorem Whole.introduce {fresh : Variable α} (known : fresh.Whole) {qualifier : Option Wording}
    (origin : ∀ text ∈ qualifier, text.isWhole = true) : (ledger.introduce fresh qualifier).Whole where
  known := List.forall_mem_append.mpr ⟨whole.known, by simpa using known⟩
  qualifiers := List.forall_mem_append.mpr ⟨whole.qualifiers, by simpa using origin⟩

private theorem Whole.foldl_introduce {fresh : List (Variable α)} (known : ∀ one ∈ fresh, one.Whole) :
    (fresh.foldl (fun ledger one => ledger.introduce one none) ledger).Whole := by
  induction fresh generalizing ledger with
  | nil => exact whole
  | cons first rest ih =>
    obtain ⟨first, rest⟩ := List.forall_mem_cons.mp known
    exact ih (whole.introduce first (by simp)) rest

variable [DecidableEq α]

private theorem Whole.carry {node : α} {key : Nat} {qualifier : Wording} (carried : qualifier.isWhole = true) :
    (ledger.carry node key qualifier).Whole := by
  unfold Ledger.carry
  split
  · exact whole
  · exact ⟨whole.known, List.forall_mem_append.mpr ⟨whole.qualifiers, by simpa using carried⟩⟩

private theorem Whole.bind {edge : Edge α} {sourceEnd targetEnd : Endpoint} (source : sourceEnd.Whole)
    (target : targetEnd.Whole) (dependency : DependencyType) :
    (ledger.bind edge sourceEnd targetEnd dependency).Whole := by
  have carried {before : Ledger α} (whole : before.Whole) (key : Nat) :
      (before.carry edge.target key targetEnd.qualifier).Whole := whole.carry target.qualifier
  cases held : ledger.held? edge.source sourceEnd.objectType dependency.quantifiesSet with
  | some key =>
    simp only [Ledger.bind, held]
    exact ⟨(carried whole key).known, (carried whole key).qualifiers⟩
  | none =>
    have fresh : Variable.Whole ⟨sourceEnd.objectType, dependency.quantifiesSet, edge.source, none⟩ :=
      ⟨source.objectType, by simp⟩
    have origin : ∀ text ∈ some sourceEnd.qualifier, text.isWhole = true := by simpa using source.qualifier
    have introduced := whole.introduce fresh origin
    simp only [Ledger.bind, held]
    exact ⟨(carried introduced _).known, (carried introduced _).qualifiers⟩

private theorem Whole.visit {order : List (Node α β)} {edge : Edge α} {next : Ledger α} (ends : edge.WholeEnds)
    (made : ledger.visit order edge = .ok next) : next.Whole := by
  unfold Ledger.visit at made
  cases typed : edge.dependencyType order with
  | error => rw [typed] at made; cases made
  | ok dependency? =>
    rw [typed] at made
    cases atSource : edge.sourceEnd with
    | none => rw [atSource] at made; cases made; exact whole
    | some sourceEnd =>
      cases atTarget : edge.targetEnd with
      | none => rw [atSource, atTarget] at made; cases made; exact whole
      | some targetEnd =>
        rw [atSource, atTarget] at made
        cases dependency? with
        | none => cases made; exact whole
        | some dependency =>
          cases made
          exact whole.bind (ends.source _ atSource) (ends.target _ atTarget) dependency

end Steps

variable [DecidableEq α] {order : List (Node α β)} {edges : List (Edge α)} {ledger : Ledger α}

private theorem whole_settle (declared : ∀ node ∈ order, ∀ fresh ∈ node.declaredVariables, fresh.Whole)
    (ends : ∀ edge ∈ edges, edge.WholeEnds) (settled : Binding.settle order edges = .ok ledger) : ledger.Whole := by
  have start : (Ledger.declare order).Whole := by
    rw [declare_eq]
    exact Whole.foldl_introduce ⟨by simp [empty], by simp [empty]⟩ (List.forall_mem_flatMap.mpr declared)
  have step (done : List (Edge α)) (edge : Edge α) (rest : List (Edge α)) (ledger next : Ledger α)
      (split : visits order edges = done ++ edge :: rest) (whole : ledger.Whole)
      (made : ledger.visit order edge = .ok next) : next.Whole := by
    have member : edge ∈ visits order edges := split ▸ List.mem_append_right _ List.mem_cons_self
    exact whole.visit (ends edge (mem_dependencyEdges.mp (mem_visits.mp member)).1) made
  exact foldlM_keeps step start settled

private theorem Whole.names (whole : ledger.Whole) (width : Int) :
    ∀ name ∈ Binding.names order edges width ledger.known, name.isWhole = true := by
  intro name member
  obtain ⟨key, called⟩ := List.mem_iff_getElem?.mp member
  have short : key < ledger.known.length := by
    rw [← Binding.length_assignNames]
    exact (List.getElem?_eq_some_iff.mp called).1
  have picked := picked_names order edges width (List.getElem?_eq_getElem short)
  have known := whole.known _ (List.getElem_mem short)
  cases declared : ledger.known[key].declared with
  | some stands =>
    cases called.symm.trans (picked.declared stands declared)
    exact known.declared _ declared
  | none =>
    obtain ⟨number, numbered, _⟩ := picked.first declared
    cases called.symm.trans numbered
    exact Binding.isWhole_numbered_stem known.objectType _ _ _

omit [DecidableEq α] in
/-- The two names that an entry of the bindings tells are those of a ledger's variable. -/
private theorem Whole.named {γ : Type} {names : List Wording} (whole : ledger.Whole)
    (called : ∀ name ∈ names, name.isWhole = true) {key : Nat} {show' : Variable α → Wording → γ} {shown : γ}
    (found : (do
      let known ← ledger.known[key]?
      let name ← names[key]?
      return show' known name) = some shown) :
    ∃ known name, show' known name = shown ∧ known.objectType.isWhole = true ∧ name.isWhole = true := by
  obtain ⟨known, listed, found⟩ := Option.bind_eq_some_iff.mp found
  obtain ⟨name, named, found⟩ := Option.bind_eq_some_iff.mp found
  exact ⟨known, name, Option.some.inj found, (whole.known known (List.mem_of_getElem? listed)).objectType,
    called name (List.mem_of_getElem? named)⟩

end Ledger

private theorem Ledger.Whole.texts_ofLedger {ledger : Ledger Wording} (whole : ledger.Whole) {ids names : List Wording}
    (listed : ∀ id ∈ ids, id.isWhole = true) (called : ∀ name ∈ names, name.isWhole = true)
    (arcs : ∀ assigned ∈ ledger.assignments, assigned.edge.source.isWhole = true ∧ assigned.edge.target.isWhole = true) :
    ∀ text ∈ (Bindings.ofLedger ids names ledger).texts, text.isWhole = true := by
  simp only [Bindings.texts, List.forall_mem_append, List.forall_mem_flatMap, List.forall_mem_cons]
  refine ⟨?_, ?_⟩
  · intro shown member
    obtain ⟨assigned, isAssigned, found⟩ := List.mem_filterMap.mp member
    obtain ⟨known, name, rfl, objectType, name⟩ := whole.named called found
    simp [EdgeVariable.texts, arcs assigned isAssigned, name, objectType]
  · intro entry member
    obtain ⟨id, isListed, rfl⟩ := List.mem_map.mp member
    refine ⟨listed id isListed, ?_⟩
    intro shown member
    obtain ⟨holding, isHeld, found⟩ := List.mem_filterMap.mp member
    obtain ⟨known, name, rfl, objectType, name⟩ := whole.named called found
    simpa [HeldVariable.texts, name, objectType] using whole.qualifiers holding (List.mem_of_mem_filter isHeld)

/-- The texts that compilations tell of nodes and edges hold no half letters. -/
structure Graph.Whole (graph : Graph Wording β) : Prop where
  ids : ∀ node ∈ graph.nodes, node.id.isWhole = true
  declared : ∀ node ∈ graph.nodes, ∀ fresh ∈ node.declaredVariables, fresh.Whole
  arcs : ∀ edge ∈ graph.edges, edge.source.isWhole = true ∧ edge.target.isWhole = true
  ends : ∀ edge ∈ graph.edges, edge.WholeEnds

private theorem isWhole_danglingEnd? {nodes : List (Node Wording β)} {side : Side} {id : Wording}
    {endpoint? : Option Endpoint} {reason : DanglingReason Wording} (named : id.isWhole = true)
    (whole : ∀ endpoint ∈ endpoint?, endpoint.Whole) (found : danglingEnd? nodes side id endpoint? = some reason) :
    reason.text.isWhole = true := by
  unfold danglingEnd? at found
  split at found
  next => cases found
  next endpoint =>
    have qualifier := (whole endpoint rfl).qualifier
    split at found
    next => cases found
    next =>
      split at found
      next =>
        cases found
        simp [DanglingReason.text, Wording.isWhole_append, named, qualifier]
      next =>
        split at found
        next => cases found
        next =>
          cases found
          simp [DanglingReason.text, Wording.isWhole_append, named, qualifier]

private theorem Edge.WholeEnds.dangling? {edge : Edge Wording} (ends : edge.WholeEnds)
    (source : edge.source.isWhole = true)
    (target : edge.target.isWhole = true) {nodes : List (Node Wording β)} {reason : DanglingReason Wording}
    (found : edge.dangling? nodes = some reason) : reason.text.isWhole = true := by
  unfold Edge.dangling? at found
  split at found
  next =>
    cases found
    simp [DanglingReason.text, Wording.isWhole_append, source]
  next =>
    split at found
    next =>
      cases found
      simp [DanglingReason.text, Wording.isWhole_append, target]
    next =>
      split at found
      next => cases found; rfl
      next => cases found; rfl
      next => cases found
      next sourceEnd targetEnd atSource atTarget =>
        split at found
        next start => cases found; exact isWhole_danglingEnd? source (atSource ▸ ends.source) start
        next =>
          split at found
          next finish => cases found; exact isWhole_danglingEnd? target (atTarget ▸ ends.target) finish
          next =>
            split at found
            next => cases found
            next =>
              cases found
              simp [DanglingReason.text, Wording.isWhole_append, (ends.source _ atSource).objectType,
                (ends.target _ atTarget).objectType]

namespace Graph

variable {graph : Graph Wording β}

private theorem Whole.propagate {order : List (Node Wording β)} {edges : List (Edge Wording)} {width : Int}
    {bindings : Bindings Wording} (whole : graph.Whole) (nodes : order ⊆ graph.nodes) (within : edges ⊆ graph.edges)
    (bound : propagate order edges width = .ok bindings) : ∀ text ∈ bindings.texts, text.isWhole = true := by
  cases settled : Binding.settle order edges with
  | error => rw [BoxTree.propagate, settled] at bound; cases bound
  | ok ledger =>
    rw [BoxTree.propagate, settled] at bound
    cases bound
    have visited := Ledger.visited_settle settled
    have known : ledger.Whole := Ledger.whole_settle (fun node member => whole.declared node (nodes member))
      (fun edge member => whole.ends edge (within member)) settled
    apply known.texts_ofLedger
    · intro id member
      obtain ⟨node, listed, rfl⟩ := List.mem_map.mp (List.mem_eraseDups.mp member)
      exact whole.ids node (nodes listed)
    · exact known.names width
    · intro assigned member
      exact whole.arcs _ (within (Ledger.mem_dependencyEdges.mp (visited.edge_mem member)).1)

private theorem Whole.dangling {dangling : DanglingEdge Wording} (whole : graph.Whole)
    (member : dangling ∈ graph.dangling) : ∀ text ∈ dangling.message :: dangling.nodes, text.isWhole = true := by
  obtain ⟨edge, listed, found⟩ := List.mem_filterMap.mp member
  obtain ⟨reason, why, rfl⟩ := Option.map_eq_some_iff.mp found
  obtain ⟨source, target⟩ := whole.arcs edge listed
  have told := (whole.ends edge listed).dangling? source target why
  simp [DanglingEdge.message, DanglingEdge.nodes, Edge.describe, Wording.isWhole_append, source, target, told]

private theorem reports_of_compile {settings : CompilerSettings} {compilation : Compilation Wording β}
    (found : graph.compile settings = .ok compilation) :
    compilation.warnings = graph.keyed.dangling ∧ compilation.disconnected ⊆ graph.ids := by
  obtain ⟨outcomes, _, found⟩ := bind_eq_ok_iff.mp found
  cases found
  exact ⟨rfl, List.filter_sublist.subset⟩

private theorem Whole.keyed (whole : graph.Whole) : graph.keyed.Whole where
  ids node member := whole.ids node (latest_subset _ _ member)
  declared node member := whole.declared node (latest_subset _ _ member)
  arcs := whole.arcs
  ends := whole.ends

/-- A compilation without errors tells whole texts of a graph with whole texts. -/
theorem Whole.texts_of_compile {graph : Graph Wording Fields} (whole : graph.Whole) {settings : CompilerSettings}
    {compilation : Compilation Wording Fields} (found : graph.compile settings = .ok compilation)
    (sound : compilation.errors = []) : ∀ text ∈ compilation.texts, text.isWhole = true := by
  obtain ⟨warnings, disconnected⟩ := reports_of_compile found
  simp only [Compilation.texts, sound, List.forall_mem_append, List.forall_mem_flatMap]
  refine ⟨⟨⟨?_, List.forall_mem_nil _⟩, ?_⟩, ?_⟩
  · intro compiled member
    obtain ⟨same, outcomes, again, trees, components⟩ := graph.exists_compile_keyed settings
    obtain rfl := Except.ok.inj (found.symm.trans again)
    obtain ⟨part, isPart, first, order, root, fragment, ordered, isRoot, of⟩ :=
      exists_root_of_mem_trees components (trees ▸ member)
    cases of with
    | compiled _ bound =>
      have inOrder := (ordered.members root).mpr isRoot.touched
      have nodes : Compile.partNodes part.1 part.2 order root ⊆ graph.keyed.nodes :=
        fun node member => fragment.sublist.subset (ordered.partNodes_subset root member)
      have edges : Compile.leaving part.2 order root ⊆ graph.keyed.edges := fun edge leaves =>
        List.mem_of_mem_filter ((Compile.mem_leaving_iff fragment ordered inOrder).mp leaves).1
      obtain ⟨node, listed, named⟩ := List.mem_map.mp (ordered.mem_nodes inOrder)
      refine List.forall_mem_cons.mpr ⟨?_, whole.keyed.propagate nodes edges bound⟩
      exact named ▸ whole.keyed.ids node (fragment.sublist.subset listed)
  · intro dangling member
    exact whole.keyed.dangling (warnings ▸ member)
  · intro id member
    obtain ⟨node, listed, rfl⟩ := List.mem_map.mp (disconnected member)
    exact whole.ids node listed

end Graph
end BoxTree
