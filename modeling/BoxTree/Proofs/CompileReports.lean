import BoxTree.Proofs.CompileSteps
import Mathlib

/-! What a compilation reports. Each component speaks for itself only, so a cycle is reported once and
costs its component all trees, and without one every root has its tree or a faulty gate below it. -/

namespace BoxTree

section Sole

variable {γ δ : Type} {holds : γ → Prop} {item : γ}

/-- An item stands at one place of a list, and no other place holds what has a property of it. -/
def Sole (holds : γ → Prop) (items : List γ) (item : γ) : Prop :=
  ∃ before after, items = before ++ item :: after ∧ holds item ∧ ∀ other ∈ before ++ after, ¬ holds other

private theorem Sole.singleton (has : holds item) : Sole holds [item] item := ⟨[], [], rfl, has, by simp⟩

private theorem Sole.flatMap {f : δ → List γ} {before after : List δ} {source : δ} (sole : Sole holds (f source) item)
    (others : ∀ other ∈ before ++ after, ∀ made ∈ f other, ¬ holds made) :
    Sole holds ((before ++ source :: after).flatMap f) item := by
  obtain ⟨left, right, split, has, none⟩ := sole
  refine ⟨before.flatMap f ++ left, right ++ after.flatMap f, by simp [split], has, ?_⟩
  intro other member
  simp only [List.mem_append, List.mem_flatMap] at member
  rcases member with (⟨made, listed, inside⟩ | inside) | (inside | ⟨made, listed, inside⟩)
  · exact others made (List.mem_append_left _ listed) other inside
  · exact none other (List.mem_append_left _ inside)
  · exact none other (List.mem_append_right _ inside)
  · exact others made (List.mem_append_right _ listed) other inside

private theorem mem_flatMap_split {f : δ → List γ} {before after : List δ} {source : δ}
    (member : item ∈ (before ++ source :: after).flatMap f) :
    item ∈ f source ∨ ∃ other ∈ before ++ after, item ∈ f other := by
  obtain ⟨made, listed, inside⟩ := List.mem_flatMap.mp member
  rcases List.mem_append.mp listed with earlier | later
  · exact .inr ⟨made, List.mem_append_left _ earlier, inside⟩
  · rcases List.mem_cons.mp later with rfl | later
    · exact .inl inside
    · exact .inr ⟨made, List.mem_append_right _ later, inside⟩

/-- Items that are pairwise apart have results of which one is the item's and the others are apart from it. -/
theorem exists_split_of_forall₂ {right : γ → δ → Prop} (apart : γ → δ → Prop) {items : List γ} {results : List δ}
    (beside : List.Forall₂ right items results)
    (pairwise : items.Pairwise fun first second =>
      (∀ made, right first made → apart second made) ∧ ∀ made, right second made → apart first made)
    (member : item ∈ items) :
    ∃ before made after, results = before ++ made :: after ∧ right item made ∧
      ∀ other ∈ before ++ after, apart item other := by
  induction beside with
  | nil => cases member
  | @cons first made rest results holds others ih =>
    obtain ⟨ahead, pairwise⟩ := List.pairwise_cons.mp pairwise
    rcases List.mem_cons.mp member with rfl | later
    · refine ⟨[], made, results, rfl, holds, ?_⟩
      intro other listed
      obtain ⟨second, found, holds⟩ := exists_of_forall₂_right others listed
      exact (ahead second found).2 other holds
    · obtain ⟨before, middle, after, rfl, found, none⟩ := ih pairwise later
      exact ⟨made :: before, middle, after, rfl, found,
        List.forall_mem_cons.mpr ⟨(ahead item later).1 made holds, none⟩⟩

private theorem pairwise_of_forall₂ {right : γ → δ → Prop} {apart : δ → δ → Prop} {items : List γ} {results : List δ}
    (beside : List.Forall₂ right items results)
    (pairwise : items.Pairwise fun first second =>
      ∀ made other, right first made → right second other → apart made other) :
    results.Pairwise apart := by
  induction beside with
  | nil => exact .nil
  | cons holds others ih =>
    obtain ⟨ahead, pairwise⟩ := List.pairwise_cons.mp pairwise
    apply List.pairwise_cons.mpr
    refine ⟨?_, ih pairwise⟩
    intro other listed
    obtain ⟨second, found, also⟩ := exists_of_forall₂_right others listed
    exact ahead second found _ other holds also

end Sole

variable {α β : Type}

/-- Some node that hangs together with a node lies on a cycle. -/
def HoldsCycle (arcs : List (α × α)) (id : α) : Prop := ∃ other, Joined arcs id other ∧ OnCycle arcs other

private theorem HoldsCycle.touched {arcs : List (α × α)} {id : α} (holds : HoldsCycle arcs id) : Touched arcs id := by
  obtain ⟨other, joined, cycle⟩ := holds
  exact cycle.touched.joined joined.symm

private theorem exists_root_of_acyclic {arcs : List (α × α)} {id : α} (touched : Touched arcs id)
    (acyclic : ¬ HoldsCycle arcs id) : ∃ root, IsRoot arcs root ∧ Leads arcs root id :=
  Grounded.exists_root (fun ancestor path cycle => acyclic ⟨ancestor, path.joined.symm, cycle⟩) touched

/-- An error names some node that hangs together with a node. -/
def Concerns (arcs : List (α × α)) (id : α) (error : CompileError α) : Prop :=
  ∃ other ∈ error.nodes, Joined arcs id other

def CompileError.gate? : CompileError α → Option α
  | .order _ => none
  | .arity fault => some fault.gate

def RootOutcome.Elsewhere (root : α) (outcome : RootOutcome α β) : Prop :=
  ∀ tree ∈ outcome.tree?.toList, tree.root ≠ root

/-- What a component comes to names only nodes with a property. -/
structure ComponentOutcome.Names [DecidableEq α] (inside : α → Prop) (outcome : ComponentOutcome α β) : Prop where
  errors : ∀ error ∈ outcome.errors, error.nodes ≠ [] ∧ ∀ id ∈ error.nodes, inside id
  trees : ∀ compiled ∈ outcome.trees, inside compiled.root ∧ ∀ id ∈ compiled.order, inside id

variable [DecidableEq α]

namespace ComponentOutcome

private theorem Names.mono {inside outside : α → Prop} {outcome : ComponentOutcome α β} (names : outcome.Names inside)
    (more : ∀ id, inside id → outside id) : outcome.Names outside := by
  constructor
  · intro error member
    obtain ⟨nonempty, every⟩ := names.errors error member
    exact ⟨nonempty, fun id named => more id (every id named)⟩
  · intro compiled member
    obtain ⟨root, every⟩ := names.trees compiled member
    exact ⟨more _ root, fun id kept => more id (every id kept)⟩

private theorem mem_of_mem_reported {faults : List (ArityFault α)} {fault : ArityFault α}
    (member : fault ∈ reported faults) :
    fault ∈ faults := by
  induction faults with
  | nil => exact member
  | cons first rest ih =>
    rcases List.mem_cons.mp member with rfl | later
    · exact List.mem_cons_self
    · exact List.mem_cons_of_mem _ (ih (List.mem_filter.mp later).1)

private theorem exists_reported {faults : List (ArityFault α)} {fault : ArityFault α} (member : fault ∈ faults) :
    ∃ other ∈ reported faults, other.gate = fault.gate := by
  induction faults with
  | nil => cases member
  | cons first rest ih =>
    by_cases same : first.gate = fault.gate
    · exact ⟨first, List.mem_cons_self, same⟩
    · obtain ⟨other, listed, gate⟩ := ih ((List.mem_cons.mp member).resolve_left fun equal => same (equal ▸ rfl))
      have differs : other.gate ≠ first.gate := fun equal => same (equal.symm.trans gate)
      exact ⟨other, List.mem_cons_of_mem _ (List.mem_filter.mpr ⟨listed, decide_eq_true differs⟩), gate⟩

private theorem nodup_reported (faults : List (ArityFault α)) : ((reported faults).map (·.gate)).Nodup := by
  induction faults with
  | nil => exact .nil
  | cons first rest ih =>
    apply List.nodup_cons.mpr
    constructor
    · intro member
      obtain ⟨other, listed, same⟩ := List.mem_map.mp member
      exact of_decide_eq_true (List.mem_filter.mp listed).2 same
    · exact ih.sublist (List.filter_sublist.map _)

end ComponentOutcome

section Component

variable {nodes partNodes : List (Node α β)} {edges partEdges : List (Edge α)} {settings : CompilerSettings}
  {order : List α} {root first : α}

/-- The gates that keep a root from having a tree are gates that it leads to. -/
theorem Ordered.faulty_gate (ordered : Ordered nodes edges order) (member : root ∈ order)
    {outcome : RootOutcome α β} (of : outcome.Of nodes edges settings order root) {fault : ArityFault α}
    (faulty : fault ∈ outcome.faults) :
    Leads (edges.map (·.arc)) root fault.gate ∧ ∃ node ∈ nodes, node.id = fault.gate ∧ node.isGate = true := by
  cases of with
  | compiled => cases faulty
  | rejected failed =>
    obtain ⟨node, listed, same, isGate⟩ := (build_eq_error failed).2 fault faulty
    refine ⟨(ordered.mem_part member).mp (same ▸ ordered.mem_part_of_mem listed), node, ?_, same, isGate⟩
    exact ordered.partNodes_subset root listed

private theorem RootOutcome.Of.root_of_tree {outcome : RootOutcome α β}
    (of : outcome.Of nodes edges settings order root) :
    ∀ compiled ∈ outcome.tree?.toList, compiled.root = root := by
  cases of <;> simp [RootOutcome.tree?]

private theorem RootOutcome.Of.elsewhere {other : α} {outcome : RootOutcome α β} (differ : root ≠ other)
    (of : outcome.Of nodes edges settings order root) : outcome.Elsewhere other := by
  intro tree member same
  exact differ ((of.root_of_tree tree member).symm.trans same)

private theorem RootOutcome.Of.exists_fault {outcome : RootOutcome α β}
    (of : outcome.Of nodes edges settings order root)
    (none : outcome.tree? = none) : ∃ fault, fault ∈ outcome.faults := by
  cases of with
  | compiled => cases none
  | rejected failed => exact List.exists_mem_of_ne_nil _ (build_eq_error failed).1

/-- Everything that a component comes to is about its own nodes. -/
theorem Fragment.names (fragment : Fragment nodes edges first partNodes partEdges) {outcome : ComponentOutcome α β}
    (of : outcome.Of partNodes partEdges settings) : outcome.Names (Joined (edges.map (·.arc)) first) := by
  constructor
  · intro error member
    cases of with
    | rejected found reported cyclic nonempty touched =>
      cases List.mem_singleton.mp member
      exact ⟨nonempty, fun id waits => fragment.touched_iff.mp (touched id waits)⟩
    | rooted found complete ordered once roots compiled =>
      obtain ⟨fault, reported, rfl⟩ := List.mem_map.mp member
      obtain ⟨made, listed, faulty⟩ := List.mem_flatMap.mp (ComponentOutcome.mem_of_mem_reported reported)
      obtain ⟨root, isRoot, of⟩ := exists_of_forall₂_right compiled listed
      have touched := ((roots root).mp isRoot).touched
      have path := (ordered.faulty_gate ((ordered.members root).mpr touched) of faulty).1
      refine ⟨List.cons_ne_nil _ _, ?_⟩
      intro id same
      cases List.mem_singleton.mp same
      exact fragment.touched_iff.mp (touched.joined path.joined)
  · intro compiled member
    obtain ⟨order, root, ordered, isRoot, of⟩ := of.of_mem_trees member
    cases of with
    | compiled =>
      have placed := (ordered.members root).mpr isRoot.touched
      refine ⟨fragment.touched_iff.mp isRoot.touched, ?_⟩
      intro id kept
      apply fragment.touched_iff.mp
      exact isRoot.touched.joined ((ordered.mem_part placed).mp kept).joined

/-- Without a cycle each root of a component has one tree, or none and a faulty gate below it. -/
theorem ComponentOutcome.Of.exists_tree {outcome : ComponentOutcome α β} (of : outcome.Of nodes edges settings)
    (acyclic : Acyclic (edges.map (·.arc))) (isRoot : IsRoot (edges.map (·.arc)) root) :
    (∃ compiled, Sole (fun tree => tree.root = root) outcome.trees compiled) ∨
      (∀ compiled ∈ outcome.trees, compiled.root ≠ root) ∧
        ∃ fault, .arity fault ∈ outcome.errors ∧ Leads (edges.map (·.arc)) root fault.gate ∧
          ∃ node ∈ nodes, node.id = fault.gate ∧ node.isGate = true := by
  cases of with
  | rejected found reported cyclic => exact False.elim (cyclic acyclic)
  | rooted found complete ordered once roots compiled =>
    obtain ⟨before, made, after, rfl, of, others⟩ :=
      exists_split_of_forall₂ (fun root made => made.Elsewhere root) compiled
        (once.imp fun differ => ⟨fun _ of => of.elsewhere differ, fun _ of => of.elsewhere differ.symm⟩)
        ((roots root).mpr isRoot)
    rw [ComponentOutcome.trees, List.filterMap_eq_flatMap_toList]
    cases isTree : made.tree? with
    | some tree =>
      have listed : made.tree?.toList = [tree] := by rw [isTree, Option.toList_some]
      have same : tree.root = root := of.root_of_tree tree (listed ▸ List.mem_singleton_self tree)
      exact .inl ⟨tree, .flatMap (listed ▸ .singleton same) others⟩
    | none =>
      refine .inr ⟨?_, ?_⟩
      · intro tree member
        rcases mem_flatMap_split member with inside | ⟨made, listed, inside⟩
        · simp [isTree] at inside
        · exact others made listed tree inside
      · obtain ⟨fault, member⟩ := of.exists_fault isTree
        obtain ⟨other, reported, same⟩ := ComponentOutcome.exists_reported
          (List.mem_flatMap.mpr ⟨made, List.mem_append_right before List.mem_cons_self, member⟩)
        refine ⟨other, List.mem_map_of_mem reported, ?_⟩
        rw [same]
        exact ordered.faulty_gate ((ordered.members root).mpr isRoot.touched) of member

private theorem ComponentOutcome.Of.nodup_gates {outcome : ComponentOutcome α β}
    (of : outcome.Of nodes edges settings) :
    (outcome.errors.filterMap CompileError.gate?).Nodup := by
  cases of with
  | rejected => exact .nil
  | rooted =>
    rw [ComponentOutcome.errors, List.filterMap_map]
    exact List.filterMap_eq_map ▸ ComponentOutcome.nodup_reported _

private theorem ComponentOutcome.Of.drained {outcome : ComponentOutcome α β} (of : outcome.Of nodes edges settings)
    (missed : List α) : .order (.unreachable missed) ∉ outcome.errors := by
  cases of with
  | rejected => simp [ComponentOutcome.errors]
  | rooted => simp [ComponentOutcome.errors]

end Component

namespace Compilation

/-- A compilation accounts for every node of a graph. Errors name nodes of one component each. A component
with a cycle has one error, a cycle, and no trees. In one without, no cycle is reported, roots lead to every
node, and each root has one tree, or it has none and leads to a gate that is reported. -/
structure Accounts (graph : Graph α β) (compilation : Compilation α β) : Prop where
  disconnected : compilation.disconnected.Sublist graph.ids ∧
    ∀ id, id ∈ compilation.disconnected ↔ id ∈ graph.ids ∧ ¬ Touched graph.arcs id
  named : ∀ error ∈ compilation.errors, error.nodes ≠ [] ∧
    ∀ left ∈ error.nodes, ∀ right ∈ error.nodes, Joined graph.arcs left right
  cyclic : ∀ id, HoldsCycle graph.arcs id →
    (∃ waiting witness, Sole (Concerns graph.arcs id) compilation.errors (.order (.cycle waiting witness))) ∧
      ∀ compiled ∈ compilation.trees, ∀ other ∈ compiled.order, ¬ Joined graph.arcs id other
  blamed : ∀ waiting witness, .order (.cycle waiting witness) ∈ compilation.errors →
    ∀ id ∈ waiting, HoldsCycle graph.arcs id
  reached : ∀ id, Touched graph.arcs id → ¬ HoldsCycle graph.arcs id →
    ∃ root, IsRoot graph.arcs root ∧ Leads graph.arcs root id
  rooted : ∀ root, IsRoot graph.arcs root → ¬ HoldsCycle graph.arcs root →
    (∃ compiled, Sole (fun tree => tree.root = root) compilation.trees compiled) ∨
      (∀ compiled ∈ compilation.trees, compiled.root ≠ root) ∧
        ∃ fault, .arity fault ∈ compilation.errors ∧ Leads graph.arcs root fault.gate ∧
          ∃ node ∈ graph.nodes, node.id = fault.gate ∧ node.isGate = true
  gates : (compilation.errors.filterMap CompileError.gate?).Nodup
  drained : ∀ missed, .order (.unreachable missed) ∉ compilation.errors

namespace Collects

variable {graph : Graph α β} {settings : CompilerSettings} {compilation : Compilation α β}
  {outcomes : List (ComponentOutcome α β)} (collects : compilation.Collects graph settings outcomes)
include collects

private theorem disconnected_sublist : compilation.disconnected.Sublist graph.ids :=
  collects.disconnected ▸ List.filter_sublist

private theorem mem_disconnected {id : α} :
    id ∈ compilation.disconnected ↔ id ∈ graph.ids ∧ ¬ Touched graph.arcs id := by
  rw [collects.disconnected, List.mem_filter]
  apply and_congr_right
  intro known
  simp [Touched, Edge.touches, Edge.arc]

/-- A node's component comes to something, and what the others come to names no node of it. -/
theorem split {id : α} (touched : Touched graph.arcs id) :
    ∃ nodes edges before outcome after, outcomes = before ++ outcome :: after ∧
      Fragment graph.nodes graph.resolved id nodes edges ∧ outcome.Of nodes edges settings ∧
      ∀ other ∈ before ++ after, other.Names fun node => ¬ Joined graph.arcs id node := by
  obtain ⟨⟨nodes, edges⟩, listed, inside⟩ := Compile.exists_fragment graph.resolved_closed touched
  have apart {part other : List (Node α β) × List (Edge α)} {made : ComponentOutcome α β}
      (away : ∀ first ∈ part.1.map (·.id), ∀ second ∈ other.1.map (·.id), ¬ Joined graph.arcs first second)
      (of : (∃ first, Fragment graph.nodes graph.resolved first other.1 other.2) ∧
        made.Of other.1 other.2 settings) :
      ∀ id ∈ part.1.map (·.id), made.Names fun node => ¬ Joined graph.arcs id node := by
    obtain ⟨⟨first, fragment⟩, of⟩ := of
    intro id inside
    apply (fragment.names of).mono
    intro node within
    exact away id inside node ((fragment.mem_nodes node).mpr within)
  obtain ⟨before, outcome, after, split, ⟨⟨first, fragment⟩, of⟩, others⟩ :=
    exists_split_of_forall₂ _ collects.components ((Compile.fragments_apart graph.resolved_closed).imp fun away =>
      ⟨fun made => apart fun _ second _ first joined => away _ first _ second joined.symm,
        fun made => apart away⟩) listed
  exact ⟨nodes, edges, before, outcome, after, split, fragment.rebase ((fragment.mem_nodes id).mp inside), of,
    fun other member => others other member id inside⟩

private theorem named {error : CompileError α} (member : error ∈ compilation.errors) :
    error.nodes ≠ [] ∧ ∀ left ∈ error.nodes, ∀ right ∈ error.nodes,
      Joined graph.arcs left right := by
  rw [collects.errors] at member
  obtain ⟨outcome, listed, inside⟩ := List.mem_flatMap.mp member
  obtain ⟨part, _, ⟨first, fragment⟩, of⟩ := exists_of_forall₂_right collects.components listed
  obtain ⟨nonempty, within⟩ := (fragment.names of).errors error inside
  refine ⟨nonempty, ?_⟩
  intro left leftNamed right rightNamed
  exact (within left leftNamed).symm.trans (within right rightNamed)

private theorem cyclic {id : α} (holds : HoldsCycle graph.arcs id) :
    (∃ waiting witness, Sole (Concerns graph.arcs id) compilation.errors (.order (.cycle waiting witness))) ∧
      ∀ compiled ∈ compilation.trees, ∀ other ∈ compiled.order, ¬ Joined graph.arcs id other := by
  obtain ⟨nodes, edges, before, outcome, after, rfl, fragment, of, others⟩ := collects.split holds.touched
  rw [collects.errors, collects.trees]
  have cyclic : ¬ Acyclic (edges.map (·.arc)) := fun acyclic => by
    obtain ⟨other, joined, cycle⟩ := holds
    exact fragment.acyclic_iff.mp acyclic other joined cycle
  cases of with
  | rooted _ _ ordered => exact False.elim (cyclic fun _ => ordered.not_onCycle)
  | @rejected _ waiting witness _ _ _ nonempty touched =>
    have concerns : Concerns graph.arcs id (.order (.cycle waiting witness)) := by
      obtain ⟨first, waits⟩ := List.exists_mem_of_ne_nil waiting nonempty
      exact ⟨first, waits, fragment.touched_iff.mp (touched first waits)⟩
    constructor
    · refine ⟨waiting, witness, .flatMap (.singleton concerns) ?_⟩
      rintro other listed error inside ⟨node, named, joined⟩
      exact ((others other listed).errors error inside).2 node named joined
    · intro compiled member
      rcases mem_flatMap_split member with inside | ⟨other, listed, inside⟩
      · cases inside
      · exact ((others other listed).trees compiled inside).2

private theorem blamed {waiting witness : List α} (member : .order (.cycle waiting witness) ∈ compilation.errors) :
    ∀ id ∈ waiting, HoldsCycle graph.arcs id := by
  rw [collects.errors] at member
  obtain ⟨outcome, listed, inside⟩ := List.mem_flatMap.mp member
  obtain ⟨part, _, ⟨first, fragment⟩, of⟩ := exists_of_forall₂_right collects.components listed
  intro id waits
  have within := ((fragment.names of).errors _ inside).2 id waits
  cases of with
  | rooted => simp [ComponentOutcome.errors] at inside
  | rejected _ _ cyclic =>
    by_contra none
    exact cyclic ((fragment.rebase within).acyclic_iff.mpr fun other joined cycle => none ⟨other, joined, cycle⟩)

private theorem rooted {root : α} (isRoot : IsRoot graph.arcs root)
    (acyclic : ¬ HoldsCycle graph.arcs root) :
    (∃ compiled, Sole (fun tree => tree.root = root) compilation.trees compiled) ∨
      (∀ compiled ∈ compilation.trees, compiled.root ≠ root) ∧
        ∃ fault, .arity fault ∈ compilation.errors ∧ Leads graph.arcs root fault.gate ∧
          ∃ node ∈ graph.nodes, node.id = fault.gate ∧ node.isGate = true := by
  obtain ⟨nodes, edges, before, outcome, after, rfl, fragment, of, others⟩ := collects.split isRoot.touched
  rw [collects.errors, collects.trees]
  have away : ∀ other ∈ before ++ after, ∀ compiled ∈ other.trees, compiled.root ≠ root := by
    intro other listed compiled inside same
    exact ((others other listed).trees compiled inside).1 (same ▸ .refl)
  have free : Acyclic (edges.map (·.arc)) :=
    fragment.acyclic_iff.mpr fun other joined cycle => acyclic ⟨other, joined, cycle⟩
  rcases of.exists_tree free (fragment.partOf.isRoot_iff.mpr ⟨isRoot, .refl⟩) with
    ⟨compiled, sole⟩ | ⟨none, fault, reported, path, node, listed, gate⟩
  · exact .inl ⟨compiled, sole.flatMap away⟩
  · refine .inr ⟨fun compiled member => ?_, fault, ?_, path.mono fragment.partOf.subset, node,
      fragment.sublist.subset listed, gate⟩
    · rcases mem_flatMap_split member with inside | ⟨other, listed, inside⟩
      · exact none compiled inside
      · exact away other listed compiled inside
    · exact List.mem_flatMap.mpr ⟨outcome, List.mem_append_right _ List.mem_cons_self, reported⟩

/-- No gate is reported twice: within a component it is listed once, and it belongs to one component. -/
theorem nodup_gates : (compilation.errors.filterMap CompileError.gate?).Nodup := by
  rw [collects.errors, List.filterMap_flatMap, List.nodup_flatMap]
  constructor
  · intro outcome listed
    obtain ⟨_, _, _, of⟩ := exists_of_forall₂_right collects.components listed
    exact of.nodup_gates
  · apply pairwise_of_forall₂ collects.components
    apply (Compile.fragments_apart graph.resolved_closed).imp
    rintro left right away made other ⟨⟨first, fragment⟩, of⟩ ⟨⟨second, otherFragment⟩, otherOf⟩ gate here there
    have within {part : List (Node α β) × List (Edge α)} {first : α} {made : ComponentOutcome α β}
        (fragment : Fragment graph.nodes graph.resolved first part.1 part.2) (of : made.Of part.1 part.2 settings)
        (reported : gate ∈ made.errors.filterMap CompileError.gate?) : gate ∈ part.1.map (·.id) := by
      obtain ⟨error, listed, isGate⟩ := List.mem_filterMap.mp reported
      apply (fragment.mem_nodes gate).mpr
      apply ((fragment.names of).errors error listed).2 gate
      cases error with
      | order => cases isGate
      | arity fault => exact Option.some.inj isGate ▸ List.mem_singleton_self _
    exact away gate (within fragment of here) gate (within otherFragment otherOf there) .refl

private theorem drained (missed : List α) : .order (.unreachable missed) ∉ compilation.errors := by
  rw [collects.errors, List.mem_flatMap]
  intro given
  obtain ⟨outcome, listed, inside⟩ := given
  obtain ⟨_, _, _, of⟩ := exists_of_forall₂_right collects.components listed
  exact of.drained missed inside

end Collects
end Compilation

/-- Compiling a graph with distinct ids always gives a result, and it accounts for every node. -/
theorem compile_accounts (graph : Graph α β) (settings : CompilerSettings) (unique : graph.ids.Nodup) :
    ∃ compilation, graph.compile settings = .ok compilation ∧
      compilation.Accounts graph := by
  obtain ⟨compilation, outcomes, found, collects⟩ := graph.exists_compile unique settings
  exact ⟨compilation, found, {
    disconnected := ⟨collects.disconnected_sublist, fun _ => collects.mem_disconnected⟩
    named := fun _ => collects.named
    cyclic := fun _ => collects.cyclic
    blamed := fun _ _ => collects.blamed
    reached := fun _ => exists_root_of_acyclic
    rooted := fun _ => collects.rooted
    gates := collects.nodup_gates
    drained := collects.drained }⟩

/-- A node by itself, a loop, two roots over a gate without a child, and an edge between two boxes. -/
def mixedParts : Graph Nat Nat where
  nodes := [⟨0, .gate .and⟩, ⟨1, .box ⟨"loop", [], [], 10⟩⟩, ⟨2, .box ⟨"left", [], [], 20⟩⟩,
    ⟨3, .box ⟨"right", [], [], 30⟩⟩, ⟨4, .gate .not⟩, ⟨5, .box ⟨"parent", [], [], 50⟩⟩,
    ⟨6, .box ⟨"child", [], [], 60⟩⟩]
  edges := [⟨1, 1, none, none, none⟩, ⟨2, 4, none, none, none⟩, ⟨3, 4, none, none, none⟩, ⟨5, 6, none, none, none⟩]

theorem compile_accounts_mixedParts :
    ∃ compilation, mixedParts.compile {} = .ok compilation ∧ compilation.trees.map (·.order) = [[5, 6]] ∧
      compilation.errors = [.order (.cycle [1] [1]), .arity ⟨4, 1, 0⟩] ∧ compilation.disconnected = [0] ∧
      compilation.Accounts mixedParts := by
  obtain ⟨compilation, found, accounts⟩ := compile_accounts mixedParts {} (by decide)
  have run : (mixedParts.compile {}).toOption.map
      (fun compilation => (compilation.trees.map (·.order), compilation.errors, compilation.disconnected)) =
      some ([[5, 6]], [.order (.cycle [1] [1]), .arity ⟨4, 1, 0⟩], [0]) := by cbv
  rw [found] at run
  obtain ⟨trees, rest⟩ := Prod.mk.inj (Option.some.inj run)
  obtain ⟨errors, disconnected⟩ := Prod.mk.inj rest
  exact ⟨compilation, found, trees, errors, disconnected, accounts⟩

end BoxTree
