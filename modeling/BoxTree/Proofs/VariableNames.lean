import BoxTree.Proofs.Regions
import BoxTree.Proofs.VariableLedger
import Mathlib

/-! Names of variables. Whenever some node could see two variables and one of them was named here, their
names differ, and a number goes unused only if another name with that number is in the way. -/

namespace BoxTree

variable {α β : Type}

namespace Ledger

/-- Some node can see what both nodes introduce: both lead to it within the given ids. -/
def Meet (ids : List α) (arcs : List (α × α)) (left right : α) : Prop :=
  ∃ node, LeadsWithin ids arcs left node ∧ LeadsWithin ids arcs right node

private theorem Meet.symm {ids : List α} {arcs : List (α × α)} {left right : α} (meet : Meet ids arcs left right) :
    Meet ids arcs right left :=
  meet.imp fun _ => And.symm

/-- Declared variables have the first keys, and each variable is held unbound once, by its introducer. -/
structure Introduces (order : List (Node α β)) (ledger : Ledger α) : Prop where
  known : ∃ generated, ledger.known = order.flatMap (·.declaredVariables) ++ generated ∧
    ∀ fresh ∈ generated, fresh.declared = none
  held : ∀ holding ∈ ledger.holdings, holding.key < ledger.known.length
  once : ∀ key known, ledger.known[key]? = some known →
    ∃ first ∈ ledger.holdings, first.node = known.introducer ∧ first.key = key ∧
      ∀ holding ∈ ledger.holdings, holding.key = key → (holding.bound = false ↔ holding = first)

/-- Each variable has a name. Names of variables that a node can see together differ unless both are
declared. A generated name has the first number such that no variable that is declared, or came up before,
and can be seen together with it has that name. -/
structure Named (ids : List α) (arcs : List (α × α)) (width : Int) (ledger : Ledger α) (names : List Wording) :
    Prop where
  length : names.length = ledger.known.length
  declared : ∀ (key : Nat) known name, ledger.known[key]? = some known → known.declared = some name →
    names[key]? = some name
  generated : ∀ (key : Nat) known, ledger.known[key]? = some known → known.declared = none →
    ∃ number, names[key]? = some (Binding.numbered (Binding.stem known.objectType known.quantifiesSet width) number)
  apart : ∀ (left right : Nat) first second, left ≠ right →
    ledger.known[left]? = some first → ledger.known[right]? = some second →
    first.declared = none ∨ second.declared = none →
    Meet ids arcs first.introducer second.introducer → names[left]? ≠ names[right]?
  tight : ∀ (key : Nat) known base number, ledger.known[key]? = some known → known.declared = none →
    names[key]? = some (Binding.numbered base number) → ∀ smaller < number,
      ∃ (other : Nat) (before : Variable α), ledger.known[other]? = some before ∧
        names[other]? = some (Binding.numbered base smaller) ∧
        (before.declared ≠ none ∨ other < key) ∧ Meet ids arcs known.introducer before.introducer
  shared : ∀ left ∈ ledger.holdings, ∀ right ∈ ledger.holdings, left.node = right.node → left.key ≠ right.key →
    names[left.key]? = names[right.key]? →
    ∀ key ∈ [left.key, right.key], ∃ known, ledger.known[key]? = some known ∧ known.declared ≠ none

variable [DecidableEq α] {order : List (Node α β)} {edges : List (Edge α)} {width : Int} {ledger : Ledger α}

private theorem mem_regionOf {source node : α} (member : source ∈ order.map (·.id)) :
    node ∈ Binding.regionOf order edges source ↔ LeadsWithin (order.map (·.id)) (edges.map (·.arc)) source node := by
  rw [Binding.regionOf, region, mem_spread]
  simp only [List.mem_singleton, exists_eq_left, member, true_and]

private theorem meet_iff {left right : α} (leftMember : left ∈ order.map (·.id))
    (rightMember : right ∈ order.map (·.id)) :
    (∃ node ∈ Binding.regionOf order edges left, node ∈ Binding.regionOf order edges right) ↔
      Meet (order.map (·.id)) (edges.map (·.arc)) left right := by
  simp only [mem_regionOf leftMember, mem_regionOf rightMember, Meet]

def sights (order : List (Node α β)) (edges : List (Edge α)) (all : List (Variable α)) : List (Binding.Sight α) :=
  all.filterMap fun known => known.declared.map fun name => ⟨name, Binding.regionOf order edges known.introducer⟩

private theorem mem_sights {all : List (Variable α)} {sight : Binding.Sight α} :
    sight ∈ sights order edges all ↔ ∃ (key : Nat) (known : Variable α), all[key]? = some known ∧
      known.declared = some sight.name ∧ Binding.regionOf order edges known.introducer = sight.nodes := by
  simp only [sights, List.mem_filterMap, Option.map_eq_some_iff]
  constructor
  · rintro ⟨known, listed, name, declared, rfl⟩
    obtain ⟨key, found⟩ := List.mem_iff_getElem?.mp listed
    exact ⟨key, known, found, declared, rfl⟩
  · rintro ⟨key, known, found, declared, same⟩
    exact ⟨known, List.mem_of_getElem? found, _, declared, by rw [same]⟩

theorem picked_names (order : List (Node α β)) (edges : List (Edge α)) (width : Int) {key : Nat}
    {known : Variable α} (found : ledger.known[key]? = some known) :
    Binding.Picked (Binding.regionOf order edges) width (sights order edges ledger.known) ledger.known
      (Binding.names order edges width ledger.known) key known :=
  Binding.picked_assignNames found

section Names

variable (visited : ledger.Visited order (visits order edges))
include visited

private theorem Visited.taken_iff {key : Nat} {known : Variable α} (found : ledger.known[key]? = some known)
    {name : Wording} :
    Binding.Taken (Binding.regionOf order edges) (sights order edges ledger.known) ledger.known
      (Binding.names order edges width ledger.known) key known name ↔
      ∃ (other : Nat) (before : Variable α), ledger.known[other]? = some before ∧
        (Binding.names order edges width ledger.known)[other]? = some name ∧
        (before.declared ≠ none ∨ other < key) ∧
        Meet (order.map (·.id)) (edges.map (·.arc)) known.introducer before.introducer := by
  have inside := visited.introducer_mem found
  constructor
  · intro taken
    rcases taken with seen | ⟨other, earlier, before, listed, _, named, meets⟩
    · obtain ⟨sight, listed, rfl, meets⟩ := Binding.mem_seenFrom.mp seen
      obtain ⟨other, before, listed, declared, same⟩ := mem_sights.mp listed
      refine ⟨other, before, listed, (picked_names order edges width listed).declared _ declared, .inl ?_, ?_⟩
      · exact declared ▸ Option.some_ne_none _
      · rw [← meet_iff inside (visited.introducer_mem listed), same]
        exact meets
    · exact ⟨other, before, listed, named, .inr earlier, (meet_iff inside (visited.introducer_mem listed)).mp meets⟩
  · intro given
    obtain ⟨other, before, listed, named, earlier, meet⟩ := given
    have meets := (meet_iff inside (visited.introducer_mem listed)).mpr meet
    cases declared : before.declared with
    | some stands =>
      have same := (picked_names order edges width listed).declared stands declared
      rw [named, Option.some.injEq] at same
      obtain rfl := same
      have seen : ⟨name, _⟩ ∈ sights order edges ledger.known := mem_sights.mpr ⟨other, before, listed, declared, rfl⟩
      exact .inl (Binding.mem_seenFrom.mpr ⟨_, seen, rfl, meets⟩)
    | none =>
      have later := earlier.resolve_left fun stands => stands declared
      exact .inr ⟨other, later, before, listed, declared, named, meets⟩

private theorem Visited.name_ne {key other : Nat} {known before : Variable α} (found : ledger.known[key]? = some known)
    (generated : known.declared = none) (listed : ledger.known[other]? = some before)
    (earlier : before.declared ≠ none ∨ other < key)
    (meet : Meet (order.map (·.id)) (edges.map (·.arc)) known.introducer before.introducer) :
    (Binding.names order edges width ledger.known)[other]? ≠ (Binding.names order edges width ledger.known)[key]? := by
  obtain ⟨number, named, free, _⟩ := (picked_names order edges width found).first generated
  intro same
  exact free ((visited.taken_iff found).mpr ⟨other, before, listed, same.trans named, earlier, meet⟩)

private theorem Visited.leadsWithin {key : Nat} {source target : α}
    (path : Relation.ReflTransGen (ledger.Passes key) source target) :
    LeadsWithin (order.map (·.id)) (edges.map (·.arc)) source target := by
  refine Relation.ReflTransGen.mono ?_ _ _ path
  intro left right passes
  obtain ⟨assigned, member, _, rfl, rfl⟩ := passes
  obtain ⟨listed, _, _, inside, _⟩ := mem_dependencyEdges.mp (visited.edge_mem member)
  exact ⟨List.mem_map_of_mem listed, inside⟩

private theorem Visited.named :
    ledger.Named (order.map (·.id)) (edges.map (·.arc)) width (Binding.names order edges width ledger.known) := by
  have apart (left right : Nat) (first second : Variable α) (differ : left ≠ right)
      (leftFound : ledger.known[left]? = some first) (rightFound : ledger.known[right]? = some second)
      (generated : first.declared = none ∨ second.declared = none)
      (meet : Meet (order.map (·.id)) (edges.map (·.arc)) first.introducer second.introducer) :
      (Binding.names order edges width ledger.known)[left]? ≠
        (Binding.names order edges width ledger.known)[right]? := by
    by_cases undeclared : second.declared = none
    · by_cases earlier : first.declared ≠ none ∨ left < right
      · exact visited.name_ne rightFound undeclared leftFound earlier meet.symm
      · rw [not_or, not_not] at earlier
        exact (visited.name_ne leftFound earlier.1 rightFound (.inr (by omega)) meet).symm
    · exact (visited.name_ne leftFound (generated.resolve_right undeclared) rightFound (.inl undeclared) meet).symm
  refine ⟨Binding.length_assignNames, ?_, ?_, apart, ?_, ?_⟩
  · exact fun key known name found declared => (picked_names order edges width found).declared name declared
  · intro key known found undeclared
    obtain ⟨number, named, _⟩ := (picked_names order edges width found).first undeclared
    exact ⟨number, named⟩
  · intro key known base number found undeclared called smaller less
    obtain ⟨first, named, _, taken⟩ := (picked_names order edges width found).first undeclared
    rw [called, Option.some.injEq, Binding.numbered_inj] at named
    obtain ⟨rfl, rfl⟩ := named
    exact (visited.taken_iff found).mp (taken smaller less)
  · intro left leftMember right rightMember atNode differ same
    obtain ⟨first, leftFound, leftPath, _⟩ := visited.coherent.traced left leftMember
    obtain ⟨second, rightFound, rightPath, _⟩ := visited.coherent.traced right rightMember
    have meet : Meet (order.map (·.id)) (edges.map (·.arc)) first.introducer second.introducer :=
      ⟨left.node, visited.leadsWithin leftPath, atNode ▸ visited.leadsWithin rightPath⟩
    have both : ¬ (first.declared = none ∨ second.declared = none) :=
      fun generated => apart left.key right.key first second differ leftFound rightFound generated meet same
    rw [not_or] at both
    simp only [List.forall_mem_cons, List.not_mem_nil, false_imp_iff, implies_true, and_true]
    exact ⟨⟨first, leftFound, both.1⟩, second, rightFound, both.2⟩

end Names

private theorem Visited.introduces {done : List (Edge α)} (visited : ledger.Visited order done) :
    ledger.Introduces order where
  known := visited.known
  held holding member := by
    obtain ⟨known, found, _⟩ := visited.coherent.traced holding member
    exact (List.getElem?_eq_some_iff.mp found).1
  once _ _ := visited.coherent.exists_unbound

end Ledger

variable [DecidableEq α]

/-- Variables can be settled along any edges whose dependencies are resolved, and what is shown of them has
names that tell them apart. -/
theorem propagate_named (order : List (Node α β)) (edges : List (Edge α)) (width : Int)
    (unique : (order.map (·.id)).Nodup)
    (resolved : ∀ edge ∈ Binding.dependencyEdges order edges, edge.dangling? order = none) :
    ∃ ledger bindings, Binding.settle order edges = .ok ledger ∧ propagate order edges width = .ok bindings ∧
      ledger.Introduces order ∧
      ledger.Shows (order.map (·.id)) (Binding.names order edges width ledger.known) bindings ∧
      ledger.Named (order.map (·.id)) (edges.map (·.arc)) width (Binding.names order edges width ledger.known) := by
  obtain ⟨ledger, settled⟩ := exists_settle fun edge member => usable_of_dangling? (resolved edge member)
  have visited := Ledger.visited_settle settled
  obtain ⟨bindings, found, shows'⟩ := Ledger.exists_shows width unique settled
  exact ⟨ledger, bindings, settled, found, visited.introduces, shows', visited.named⟩

/-- Two boxes depend on a third one. The first of them declares the name that both variables would get. -/
def sharedTarget : List (Node Nat Nat) × List (Edge Nat) :=
  let box (id : Nat) (declared : List ObjectVariable) : Node Nat Nat :=
    ⟨id, .box ⟨"event", [("one", ⟨"one", false, ["order"]⟩)], declared, id⟩⟩
  let depends (source target : Nat) : Edge Nat := ⟨source, target, some ⟨"one", "order"⟩, some ⟨"one", "order"⟩, none⟩
  ([box 0 [⟨"or_0", "customer"⟩], box 1 [], box 2 []], [depends 0 2, depends 1 2])

theorem propagate_named_sharedTarget :
    ∃ ledger bindings, Binding.settle sharedTarget.1 sharedTarget.2 = .ok ledger ∧
      propagate sharedTarget.1 sharedTarget.2 2 = .ok bindings ∧
      bindings.nodes.map (fun held => (held.1, held.2.map (·.name))) =
        ([(0, ["or_0", "or_1"]), (1, ["or_2"]), (2, ["or_1", "or_2"])] : List (Nat × List Wording)) ∧
      ledger.Introduces sharedTarget.1 ∧
      ledger.Named [0, 1, 2] [(0, 2), (1, 2)] 2 (Binding.names sharedTarget.1 sharedTarget.2 2 ledger.known) := by
  obtain ⟨ledger, bindings, settled, found, introduces, _, named⟩ :=
    propagate_named sharedTarget.1 sharedTarget.2 2 (by decide) (by decide)
  have run : (propagate sharedTarget.1 sharedTarget.2 2).toOption.map
      (·.nodes.map fun held => (held.1, held.2.map (·.name))) =
      some ([(0, ["or_0", "or_1"]), (1, ["or_2"]), (2, ["or_1", "or_2"])] : List (Nat × List Wording)) := by cbv
  rw [found] at run
  exact ⟨ledger, bindings, settled, found, Option.some.inj run, introduces, named⟩

end BoxTree
