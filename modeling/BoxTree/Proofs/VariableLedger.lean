import BoxTree.Proofs.LinkFacts
import BoxTree.Proofs.Lookups
import BoxTree.Proofs.NamePicks
import Mathlib.Data.List.Infix

/-! The ledger of variables at every point while dependency edges are visited. Each variable is held
unbound where it was introduced, and from there it passes along edges that carry it. -/

namespace BoxTree

variable {α β : Type}

def Node.declaredVariables (node : Node α β) : List (Variable α) :=
  match node.body with
  | .gate _ => []
  | .box event =>
    event.boundVariables.map fun declared =>
      ⟨declared.objectType, Binding.declaredQuantifiesSet declared.name, node.id, some declared.name⟩

theorem Node.of_mem_declaredVariables {node : Node α β} {fresh : Variable α} (member : fresh ∈ node.declaredVariables) :
    fresh.introducer = node.id ∧ fresh.declared ≠ none := by
  unfold declaredVariables at member
  split at member
  next => cases member
  next =>
    obtain ⟨declared, _, rfl⟩ := List.mem_map.mp member
    exact ⟨rfl, Option.some_ne_none _⟩

namespace Ledger

def Holds (ledger : Ledger α) (node : α) (key : Nat) : Prop :=
  ∃ holding ∈ ledger.holdings, holding.node = node ∧ holding.key = key

/-- A dependency edge between two nodes carries the variable. -/
def Passes (ledger : Ledger α) (key : Nat) (source target : α) : Prop :=
  ∃ assigned ∈ ledger.assignments, assigned.key = key ∧ assigned.edge.source = source ∧ assigned.edge.target = target

def Fits (ledger : Ledger α) (objectType : Wording) (quantifiesSet : Bool) (key : Nat) : Prop :=
  ∃ known, ledger.known[key]? = some known ∧ known.objectType = objectType ∧ known.quantifiesSet = quantifiesSet

/-- Nothing that was settled changes any more. -/
structure Extends (ledger next : Ledger α) : Prop where
  known : ledger.known <+: next.known
  holdings : ledger.holdings <+: next.holdings
  assignments : ledger.assignments <+: next.assignments

theorem Extends.refl (ledger : Ledger α) : ledger.Extends ledger := ⟨List.prefix_rfl, List.prefix_rfl, List.prefix_rfl⟩

section Extends

variable {ledger next last : Ledger α} (extends' : Extends ledger next)
include extends'

theorem Extends.trans (more : Extends next last) : Extends ledger last where
  known := extends'.known.trans more.known
  holdings := extends'.holdings.trans more.holdings
  assignments := extends'.assignments.trans more.assignments

theorem Extends.known_eq {key : Nat} {known : Variable α} (found : ledger.known[key]? = some known) :
    next.known[key]? = some known := by
  obtain ⟨more, same⟩ := extends'.known
  rw [← same, List.getElem?_append_left (List.getElem?_eq_some_iff.mp found).1, found]

private theorem Extends.holds {node : α} {key : Nat} (holds : ledger.Holds node key) : next.Holds node key := by
  obtain ⟨holding, member, same⟩ := holds
  exact ⟨holding, extends'.holdings.subset member, same⟩

private theorem Extends.passes {key : Nat} {source target : α}
    (path : Relation.ReflTransGen (ledger.Passes key) source target) :
    Relation.ReflTransGen (next.Passes key) source target := by
  refine Relation.ReflTransGen.mono ?_ _ _ path
  intro left right passes
  obtain ⟨assigned, member, same⟩ := passes
  exact ⟨assigned, extends'.assignments.subset member, same⟩

theorem Extends.fits_iff {objectType : Wording} {quantifiesSet : Bool} {key : Nat} {known : Variable α}
    (found : ledger.known[key]? = some known) :
    next.Fits objectType quantifiesSet key ↔ ledger.Fits objectType quantifiesSet key := by
  simp only [Fits, found, extends'.known_eq found]

end Extends

/-- What holds of the ledger at every point: no node holds a variable twice, each variable is held unbound
by its introducer, any other holder is reached from there along edges that carry the variable, and both
ends of an edge hold what it carries. -/
structure Coherent (ledger : Ledger α) : Prop where
  once : (ledger.holdings.map fun holding => (holding.node, holding.key)).Nodup
  introduced : ∀ key known, ledger.known[key]? = some known →
    ∃ qualifier, ⟨known.introducer, key, qualifier, false⟩ ∈ ledger.holdings
  traced : ∀ holding ∈ ledger.holdings, ∃ known, ledger.known[holding.key]? = some known ∧
    Relation.ReflTransGen (ledger.Passes holding.key) known.introducer holding.node ∧
    (holding.bound = false → holding.node = known.introducer)
  ends : ∀ assigned ∈ ledger.assignments,
    ledger.Holds assigned.edge.source assigned.key ∧ ledger.Holds assigned.edge.target assigned.key

theorem coherent_empty : (empty : Ledger α).Coherent where
  once := .nil
  introduced key known found := by cases found
  traced holding member := by cases member
  ends assigned member := by cases member

private theorem Coherent.unheld {ledger : Ledger α} (coherent : ledger.Coherent) {node : α} :
    ¬ ledger.Holds node ledger.known.length := by
  rintro ⟨holding, member, _, same⟩
  obtain ⟨known, found, _⟩ := coherent.traced holding member
  rw [same] at found
  exact Nat.lt_irrefl _ (List.getElem?_eq_some_iff.mp found).1

private theorem Coherent.once_concat {ledger : Ledger α} (coherent : ledger.Coherent) {holding : Holding α}
    (unheld : ¬ ledger.Holds holding.node holding.key) :
    ((ledger.holdings ++ [holding]).map fun holding => (holding.node, holding.key)).Nodup := by
  rw [List.map_append, List.nodup_append]
  refine ⟨coherent.once, List.nodup_singleton _, ?_⟩
  rintro _ old _ new rfl
  obtain ⟨other, member, same⟩ := List.mem_map.mp old
  rw [List.map_singleton, List.mem_singleton] at new
  rw [new] at same
  exact unheld ⟨other, member, congrArg Prod.fst same, congrArg Prod.snd same⟩

theorem Coherent.holding_eq {ledger : Ledger α} (coherent : ledger.Coherent) {left right : Holding α}
    (leftMember : left ∈ ledger.holdings) (rightMember : right ∈ ledger.holdings) (node : left.node = right.node)
    (key : left.key = right.key) : left = right :=
  List.inj_on_of_nodup_map coherent.once leftMember rightMember (Prod.ext node key)

theorem Coherent.exists_unbound {ledger : Ledger α} (coherent : ledger.Coherent) {key : Nat} {known : Variable α}
    (found : ledger.known[key]? = some known) :
    ∃ first ∈ ledger.holdings, first.node = known.introducer ∧ first.key = key ∧
      ∀ holding ∈ ledger.holdings, holding.key = key → (holding.bound = false ↔ holding = first) := by
  obtain ⟨qualifier, member⟩ := coherent.introduced key known found
  refine ⟨_, member, rfl, rfl, ?_⟩
  intro holding other same
  obtain ⟨another, listed, _, origin⟩ := coherent.traced holding other
  obtain rfl : another = known := Option.some.inj ((same ▸ listed).symm.trans found)
  exact ⟨fun unbound => coherent.holding_eq other member (origin unbound) same, fun equal => equal ▸ rfl⟩

theorem extends_introduce (ledger : Ledger α) (fresh : Variable α) (qualifier : Option Wording) :
    Extends ledger (ledger.introduce fresh qualifier) where
  known := List.prefix_append _ _
  holdings := List.prefix_append _ _
  assignments := List.prefix_rfl

theorem known_introduce {ledger : Ledger α} {fresh known : Variable α} {qualifier : Option Wording} {key : Nat}
    (found : (ledger.introduce fresh qualifier).known[key]? = some known) :
    ledger.known[key]? = some known ∨ key = ledger.known.length ∧ known = fresh := by
  simp only [Ledger.introduce] at found
  rcases Nat.lt_trichotomy key ledger.known.length with old | rfl | beyond
  · exact .inl (List.getElem?_append_left old ▸ found)
  · rw [List.getElem?_concat_length] at found
    exact .inr ⟨rfl, (Option.some.inj found).symm⟩
  · have short : (ledger.known ++ [fresh]).length ≤ key := by
      rw [List.length_append, List.length_singleton]
      exact beyond
    rw [List.getElem?_eq_none short] at found
    cases found

theorem Coherent.introduce {ledger : Ledger α} (coherent : ledger.Coherent) (fresh : Variable α)
    (qualifier : Option Wording) : (ledger.introduce fresh qualifier).Coherent where
  once := coherent.once_concat coherent.unheld
  introduced key known found := by
    simp only [Ledger.introduce, List.mem_append, List.mem_singleton]
    rcases known_introduce found with old | ⟨rfl, rfl⟩
    · obtain ⟨qualifier, member⟩ := coherent.introduced key known old
      exact ⟨qualifier, .inl member⟩
    · exact ⟨qualifier, .inr rfl⟩
  traced holding member := by
    simp only [Ledger.introduce, List.mem_append, List.mem_singleton] at member
    rcases member with old | rfl
    · obtain ⟨known, found, path, unbound⟩ := coherent.traced holding old
      exact ⟨known, (ledger.extends_introduce fresh qualifier).known_eq found, path, unbound⟩
    · exact ⟨fresh, List.getElem?_concat_length, .refl, fun _ => rfl⟩
  ends assigned member :=
    (coherent.ends assigned member).imp (ledger.extends_introduce fresh qualifier).holds
      (ledger.extends_introduce fresh qualifier).holds

/-- Variables introduced one after the other. -/
theorem Coherent.foldl_introduce {ledger : Ledger α} (coherent : ledger.Coherent) (fresh : List (Variable α)) :
    let last := fresh.foldl (fun ledger fresh => ledger.introduce fresh none) ledger
    last.Coherent ∧ last.known = ledger.known ++ fresh ∧ last.assignments = ledger.assignments ∧
      ledger.Extends last := by
  induction fresh generalizing ledger with
  | nil => exact ⟨coherent, (List.append_nil _).symm, rfl, .refl ledger⟩
  | cons first rest ih =>
    obtain ⟨holds, known, assignments, more⟩ := ih (coherent.introduce first none)
    exact ⟨holds, known.trans (List.append_assoc _ _ _), assignments, (extends_introduce _ _ _).trans more⟩

variable [DecidableEq α]

section Pass

def pass (ledger : Ledger α) (edge : Edge α) (key : Nat) (qualifier : Wording) (dependency : DependencyType) :
    Ledger α :=
  { ledger.carry edge.target key qualifier with assignments := ledger.assignments ++ [⟨edge, key, dependency⟩] }

variable {ledger : Ledger α} {edge : Edge α} {key : Nat} {qualifier : Wording} {dependency : DependencyType}

@[simp] theorem pass_known : (ledger.pass edge key qualifier dependency).known = ledger.known := by
  unfold pass carry
  split <;> rfl

@[simp] theorem pass_assignments :
    (ledger.pass edge key qualifier dependency).assignments = ledger.assignments ++ [⟨edge, key, dependency⟩] := rfl

theorem pass_holdings (ledger : Ledger α) (edge : Edge α) (key : Nat) (qualifier : Wording)
    (dependency : DependencyType) :
    ledger.Holds edge.target key ∧ (ledger.pass edge key qualifier dependency).holdings = ledger.holdings ∨
      ¬ ledger.Holds edge.target key ∧ (ledger.pass edge key qualifier dependency).holdings =
        ledger.holdings ++ [⟨edge.target, key, some qualifier, true⟩] := by
  unfold pass carry
  split
  next held =>
    obtain ⟨holding, member, same⟩ := List.any_eq_true.mp held
    exact .inl ⟨⟨holding, member, of_decide_eq_true same⟩, rfl⟩
  next unheld =>
    refine .inr ⟨?_, rfl⟩
    rintro ⟨holding, member, same⟩
    exact unheld (List.any_eq_true.mpr ⟨holding, member, decide_eq_true same⟩)

theorem extends_pass (ledger : Ledger α) (edge : Edge α) (key : Nat) (qualifier : Wording)
    (dependency : DependencyType) : Extends ledger (ledger.pass edge key qualifier dependency) where
  known := by rw [pass_known]
  holdings := by
    rcases ledger.pass_holdings edge key qualifier dependency with ⟨_, same⟩ | ⟨_, more⟩
    · rw [same]
    · exact more ▸ List.prefix_append _ _
  assignments := List.prefix_append _ _

private theorem holds_target_pass : (ledger.pass edge key qualifier dependency).Holds edge.target key := by
  rcases ledger.pass_holdings edge key qualifier dependency with ⟨held, _⟩ | ⟨_, more⟩
  · exact (ledger.extends_pass edge key qualifier dependency).holds held
  · exact ⟨⟨edge.target, key, some qualifier, true⟩, more ▸ List.mem_append_right _ List.mem_cons_self, rfl, rfl⟩

private theorem Coherent.pass (coherent : ledger.Coherent) (held : ledger.Holds edge.source key) :
    (ledger.pass edge key qualifier dependency).Coherent := by
  have more := ledger.extends_pass edge key qualifier dependency
  have last : (ledger.pass edge key qualifier dependency).Passes key edge.source edge.target :=
    ⟨⟨edge, key, dependency⟩, List.mem_append_right _ List.mem_cons_self, rfl, rfl, rfl⟩
  have old (holding : Holding α) (member : holding ∈ ledger.holdings) :
      ∃ known, ledger.known[holding.key]? = some known ∧
        Relation.ReflTransGen ((ledger.pass edge key qualifier dependency).Passes holding.key) known.introducer
          holding.node ∧
        (holding.bound = false → holding.node = known.introducer) := by
    obtain ⟨known, found, path, unbound⟩ := coherent.traced holding member
    exact ⟨known, found, more.passes path, unbound⟩
  refine ⟨?_, ?_, ?_, ?_⟩
  · rcases ledger.pass_holdings edge key qualifier dependency with ⟨_, same⟩ | ⟨unheld, added⟩
    · rw [same]
      exact coherent.once
    · rw [added]
      exact coherent.once_concat unheld
  · intro other known found
    rw [pass_known] at found
    obtain ⟨origin, member⟩ := coherent.introduced other known found
    exact ⟨origin, more.holdings.subset member⟩
  · intro holding member
    rw [pass_known]
    rcases ledger.pass_holdings edge key qualifier dependency with ⟨_, same⟩ | ⟨unheld, added⟩
    · exact old holding (same ▸ member)
    · rw [added, List.mem_append, List.mem_singleton] at member
      rcases member with before | rfl
      · exact old holding before
      · obtain ⟨source, member, atSource, rfl⟩ := held
        obtain ⟨known, found, path, _⟩ := old source member
        exact ⟨known, found, (atSource ▸ path).tail last, fun bound => by cases bound⟩
  · intro assigned member
    rcases List.mem_append.mp member with before | new
    · exact (coherent.ends assigned before).imp more.holds more.holds
    · rw [List.mem_singleton.mp new]
      exact ⟨more.holds held, holds_target_pass⟩

end Pass

section Bind

variable {ledger : Ledger α} {node : α} {objectType : Wording} {quantifiesSet : Bool} {key : Nat}

theorem held?_eq_some_iff :
    ledger.held? node objectType quantifiesSet = some key ↔
      ∃ before holding after, ledger.holdings = before ++ holding :: after ∧ holding.node = node ∧ holding.key = key ∧
        ledger.Fits objectType quantifiesSet key ∧
        ∀ earlier ∈ before, earlier.node = node → ¬ ledger.Fits objectType quantifiesSet earlier.key := by
  have fits (holding : Holding α) :
      decide (holding.node = node ∧ ((ledger.known[holding.key]?).any fun known =>
        known.objectType = objectType ∧ known.quantifiesSet = quantifiesSet) = true) = true ↔
      holding.node = node ∧ ledger.Fits objectType quantifiesSet holding.key := by
    rw [decide_eq_true_iff, Option.any_eq_true]
    simp only [Fits, decide_eq_true_iff]
  simp only [held?, Option.map_eq_some_iff, List.find?_eq_some_iff_append, Bool.not_eq_eq_eq_not, Bool.not_true]
  constructor
  · rintro ⟨holding, ⟨found, before, after, split, none⟩, rfl⟩
    obtain ⟨same, fit⟩ := (fits holding).mp found
    refine ⟨before, holding, after, split, same, rfl, fit, ?_⟩
    intro earlier member atNode other
    have found := (fits earlier).mpr ⟨atNode, other⟩
    rw [none earlier member] at found
    cases found
  · rintro ⟨before, holding, after, split, same, rfl, fit, none⟩
    refine ⟨holding, ⟨(fits holding).mpr ⟨same, fit⟩, before, after, split, ?_⟩, rfl⟩
    intro earlier member
    rw [← Bool.not_eq_true, fits]
    exact fun found => none earlier member found.1 found.2

theorem held?_eq_none_iff :
    ledger.held? node objectType quantifiesSet = none ↔
      ∀ holding ∈ ledger.holdings, holding.node = node → ¬ ledger.Fits objectType quantifiesSet holding.key := by
  simp only [held?, Option.map_eq_none_iff, List.find?_eq_none, decide_eq_true_iff, Option.any_eq_true, Fits, not_and]

theorem Extends.held? {next : Ledger α} (more : Extends ledger next) (coherent : ledger.Coherent)
    (found : ledger.held? node objectType quantifiesSet = some key) :
    next.held? node objectType quantifiesSet = some key := by
  rw [held?_eq_some_iff] at found ⊢
  obtain ⟨before, holding, after, split, same, rfl, fit, none⟩ := found
  obtain ⟨rest, whole⟩ := more.holdings
  have fits {other : Holding α} (member : other ∈ ledger.holdings) :
      next.Fits objectType quantifiesSet other.key ↔ ledger.Fits objectType quantifiesSet other.key := by
    obtain ⟨known, found, _⟩ := coherent.traced other member
    exact more.fits_iff found
  refine ⟨before, holding, after ++ rest, by rw [← whole, split]; simp, same, rfl, ?_, ?_⟩
  · exact (fits (split ▸ List.mem_append_right _ List.mem_cons_self)).mpr fit
  · intro earlier member atNode
    rw [fits (split ▸ List.mem_append_left _ member)]
    exact none earlier member atNode

private theorem held?_pass (edge : Edge α) (qualifier : Wording) (dependency : DependencyType)
    (coherent : ledger.Coherent)
    (found : ledger.held? node objectType quantifiesSet = some key) (other : Nat) :
    (ledger.pass edge other qualifier dependency).held? node objectType quantifiesSet = some key :=
  (ledger.extends_pass edge other qualifier dependency).held? coherent found

theorem held?_introduce (coherent : ledger.Coherent) (none : ledger.held? node objectType quantifiesSet = none)
    (declared qualifier : Option Wording) :
    (ledger.introduce ⟨objectType, quantifiesSet, node, declared⟩ qualifier).held? node objectType quantifiesSet =
      some ledger.known.length := by
  rw [held?_eq_some_iff]
  refine ⟨ledger.holdings, _, [], rfl, rfl, rfl, ⟨_, List.getElem?_concat_length, rfl, rfl⟩, ?_⟩
  intro earlier member atNode
  obtain ⟨known, found, _⟩ := coherent.traced earlier member
  rw [(extends_introduce _ _ _).fits_iff found]
  exact held?_eq_none_iff.mp none earlier member atNode

private theorem holds_of_held? (found : ledger.held? node objectType quantifiesSet = some key) :
    ledger.Holds node key := by
  obtain ⟨before, holding, after, split, atNode, same, _⟩ := held?_eq_some_iff.mp found
  exact ⟨holding, split ▸ List.mem_append_right _ List.mem_cons_self, atNode, same⟩

/-- What binding the variable of an edge does: the source holds a fitting variable, or a new one is
introduced there, and the edge carries it. -/
inductive Binds (ledger : Ledger α) (edge : Edge α) (sourceEnd : Endpoint) (dependency : DependencyType) :
    Ledger α → Prop where
  | reused {key : Nat} {qualifier : Wording}
      (found : ledger.held? edge.source sourceEnd.objectType dependency.quantifiesSet = some key) :
      Binds ledger edge sourceEnd dependency (ledger.pass edge key qualifier dependency)
  | fresh {origin qualifier : Wording}
      (none : ledger.held? edge.source sourceEnd.objectType dependency.quantifiesSet = none) :
      Binds ledger edge sourceEnd dependency
        ((ledger.introduce ⟨sourceEnd.objectType, dependency.quantifiesSet, edge.source, .none⟩ (some origin)).pass edge
          ledger.known.length qualifier dependency)

private theorem binds_bind (ledger : Ledger α) (edge : Edge α) (sourceEnd targetEnd : Endpoint)
    (dependency : DependencyType) :
    ledger.Binds edge sourceEnd dependency (ledger.bind edge sourceEnd targetEnd dependency) := by
  cases held : ledger.held? edge.source sourceEnd.objectType dependency.quantifiesSet with
  | some key =>
    have made : ledger.bind edge sourceEnd targetEnd dependency =
        ledger.pass edge key targetEnd.qualifier dependency := by
      simp only [Ledger.bind, held, pass, carry]
      split <;> rfl
    exact made ▸ .reused held
  | none =>
    have made : ledger.bind edge sourceEnd targetEnd dependency =
        (ledger.introduce ⟨sourceEnd.objectType, dependency.quantifiesSet, edge.source, .none⟩
          (some sourceEnd.qualifier)).pass edge ledger.known.length targetEnd.qualifier dependency := by
      simp only [Ledger.bind, held, pass, carry]
      split <;> rfl
    exact made ▸ .fresh held

end Bind

/-- An edge carries the first fitting variable of its source. -/
structure Chosen (order : List (Node α β)) (ledger : Ledger α) (assigned : Assignment α) : Prop where
  typed : assigned.edge.dependencyType order = .ok (some assigned.dependency)
  first : ∃ sourceEnd, assigned.edge.sourceEnd = some sourceEnd ∧
    ledger.held? assigned.edge.source sourceEnd.objectType assigned.dependency.quantifiesSet = some assigned.key

structure Visited (order : List (Node α β)) (done : List (Edge α)) (ledger : Ledger α) : Prop where
  coherent : ledger.Coherent
  edges : ledger.assignments.map (·.edge) = done
  chosen : ∀ assigned ∈ ledger.assignments, ledger.Chosen order assigned
  known : ∃ generated, ledger.known = order.flatMap (·.declaredVariables) ++ generated ∧
    ∀ fresh ∈ generated, fresh.declared = none
  used : ∀ key known, ledger.known[key]? = some known → known.declared = none →
    ∃ assigned ∈ ledger.assignments, assigned.key = key ∧ assigned.edge.source = known.introducer

private theorem Chosen.extend {order : List (Node α β)} {ledger next : Ledger α} {assigned : Assignment α}
    (chosen : ledger.Chosen order assigned) (coherent : ledger.Coherent) (more : Extends ledger next) :
    next.Chosen order assigned := by
  obtain ⟨sourceEnd, same, first⟩ := chosen.first
  exact ⟨chosen.typed, sourceEnd, same, more.held? coherent first⟩

/-- The variable that an edge carries has the edge's object type and class. -/
theorem Visited.fits {order : List (Node α β)} {done : List (Edge α)} {ledger : Ledger α}
    (visited : ledger.Visited order done) {assigned : Assignment α} (member : assigned ∈ ledger.assignments)
    {known : Variable α} (found : ledger.known[assigned.key]? = some known) :
    assigned.edge.objectType? = some known.objectType ∧ assigned.dependency.quantifiesSet = known.quantifiesSet := by
  obtain ⟨_, sourceEnd, atSource, first⟩ := visited.chosen assigned member
  obtain ⟨_, _, _, _, _, _, ⟨other, again, type, class'⟩, _⟩ := held?_eq_some_iff.mp first
  obtain rfl : known = other := Option.some.inj (found.symm.trans again)
  exact ⟨by rw [Edge.objectType?, atSource, type]; rfl, class'.symm⟩

omit [DecidableEq α] in
theorem declare_eq (order : List (Node α β)) :
    declare order =
      (order.flatMap (·.declaredVariables)).foldl (fun ledger fresh => ledger.introduce fresh none) empty := by
  rw [List.foldl_flatMap, declare]
  congr 1
  funext ledger node
  obtain ⟨id, body⟩ := node
  cases body with
  | gate kind => rfl
  | box event => rw [Node.declaredVariables, List.foldl_map]

theorem visited_declare (order : List (Node α β)) : (declare order).Visited order [] := by
  obtain ⟨coherent, split, assignments, _⟩ :=
    coherent_empty.foldl_introduce (order.flatMap (·.declaredVariables))
  rw [declare_eq]
  refine ⟨coherent, by rw [assignments]; rfl, ?_, ⟨[], split.trans (List.append_nil _).symm, by simp⟩, ?_⟩
  · intro assigned member
    rw [assignments] at member
    cases member
  · intro key known found undeclared
    rw [split] at found
    obtain ⟨node, _, member⟩ := List.mem_flatMap.mp (List.mem_of_getElem? found)
    exact False.elim ((Node.of_mem_declaredVariables member).2 undeclared)

theorem Visited.step {order : List (Node α β)} {done : List (Edge α)} {ledger next : Ledger α} {edge : Edge α}
    {sourceEnd : Endpoint} {dependency : DependencyType} (visited : ledger.Visited order done)
    (atSource : edge.sourceEnd = some sourceEnd) (typed : edge.dependencyType order = .ok (some dependency))
    (binds : ledger.Binds edge sourceEnd dependency next) : next.Visited order (done ++ [edge]) := by
  obtain ⟨generated, split, undeclared⟩ := visited.known
  have coherent := visited.coherent
  cases binds with
  | @reused key qualifier found =>
    have more := ledger.extends_pass edge key qualifier dependency
    refine ⟨coherent.pass (holds_of_held? found), ?_, ?_, ⟨generated, pass_known.trans split, undeclared⟩, ?_⟩
    · rw [pass_assignments, List.map_append, visited.edges]
      rfl
    · intro assigned member
      rcases List.mem_append.mp member with before | new
      · exact (visited.chosen assigned before).extend coherent more
      · rw [List.mem_singleton.mp new]
        exact ⟨typed, sourceEnd, atSource, more.held? coherent found⟩
    · intro other known listed fresh
      rw [pass_known] at listed
      obtain ⟨assigned, member, same⟩ := visited.used other known listed fresh
      exact ⟨assigned, List.mem_append_left _ member, same⟩
  | @fresh origin qualifier none =>
    let fresh : Variable α := ⟨sourceEnd.objectType, dependency.quantifiesSet, edge.source, .none⟩
    have more := (ledger.extends_introduce fresh (some origin)).trans
      ((ledger.introduce fresh (some origin)).extends_pass edge ledger.known.length qualifier dependency)
    have introduced := coherent.introduce fresh (some origin)
    have found := held?_introduce coherent none .none (some origin)
    refine ⟨introduced.pass (holds_of_held? found), ?_, ?_, ?_, ?_⟩
    · rw [pass_assignments, List.map_append]
      exact congrArg (· ++ [edge]) visited.edges
    · intro assigned member
      rcases List.mem_append.mp member with before | new
      · exact (visited.chosen assigned before).extend coherent more
      · rw [List.mem_singleton.mp new]
        exact ⟨typed, sourceEnd, atSource, held?_pass _ _ _ introduced found _⟩
    · refine ⟨generated ++ [fresh], ?_, List.forall_mem_append.mpr ⟨undeclared, by simp [fresh]⟩⟩
      rw [pass_known, Ledger.introduce, split, List.append_assoc]
    · intro other known listed undeclared
      rw [pass_known] at listed
      rcases known_introduce listed with old | ⟨rfl, rfl⟩
      · obtain ⟨assigned, member, same⟩ := visited.used other known old undeclared
        exact ⟨assigned, List.mem_append_left _ member, same⟩
      · exact ⟨_, List.mem_append_right _ List.mem_cons_self, rfl, rfl⟩

section Run

variable {order : List (Node α β)} {edges : List (Edge α)}

def visits (order : List (Node α β)) (edges : List (Edge α)) : List (Edge α) :=
  order.flatMap fun node => (Binding.dependencyEdges order edges).filter fun edge => edge.source = node.id

theorem mem_dependencyEdges {edge : Edge α} :
    edge ∈ Binding.dependencyEdges order edges ↔ edge ∈ edges ∧ edge.isDependency = true ∧
      edge.source ∈ order.map (·.id) ∧ edge.target ∈ order.map (·.id) ∧ edge.source ≠ edge.target := by
  simp [Binding.dependencyEdges, and_assoc]

theorem mem_visits {edge : Edge α} : edge ∈ visits order edges ↔ edge ∈ Binding.dependencyEdges order edges := by
  simp only [visits, List.mem_flatMap, List.mem_filter, decide_eq_true_iff]
  constructor
  · rintro ⟨_, _, member, _⟩
    exact member
  · intro member
    obtain ⟨_, _, source, _⟩ := mem_dependencyEdges.mp member
    obtain ⟨node, listed, same⟩ := List.mem_map.mp source
    exact ⟨node, listed, member, same.symm⟩

theorem binds_visit {ledger next : Ledger α} {edge : Edge α} (member : edge ∈ visits order edges)
    (made : visit order ledger edge = .ok next) :
    ∃ sourceEnd dependency, edge.sourceEnd = some sourceEnd ∧ edge.dependencyType order = .ok (some dependency) ∧
      ledger.Binds edge sourceEnd dependency next := by
  obtain ⟨_, dependency, _⟩ := mem_dependencyEdges.mp (mem_visits.mp member)
  simp only [Edge.isDependency, Bool.and_eq_true, Option.isSome_iff_exists] at dependency
  obtain ⟨⟨sourceEnd, atSource⟩, targetEnd, atTarget⟩ := dependency
  unfold visit at made
  cases found : edge.dependencyType order with
  | error => rw [found] at made; cases made
  | ok dependency? =>
    cases dependency? with
    | none =>
      simp only [Edge.dependencyType, atSource, atTarget] at found
      cases source : isMultiple order edge.source sourceEnd <;> rw [source] at found <;> try cases found
      cases target : isMultiple order edge.target targetEnd <;> rw [target] at found <;> cases found
    | some dependency =>
      rw [found, atSource, atTarget] at made
      cases made
      exact ⟨sourceEnd, dependency, atSource, rfl, ledger.binds_bind edge sourceEnd targetEnd dependency⟩

/-- The ledger at the end, when every dependency edge is visited. -/
theorem visited_settle {ledger : Ledger α} (settled : Binding.settle order edges = .ok ledger) :
    ledger.Visited order (visits order edges) := by
  refine foldlM_keeps ?_ (visited_declare order) settled
  intro done edge rest ledger next split visited made
  have member : edge ∈ visits order edges := by
    rw [split]
    exact List.mem_append_right _ List.mem_cons_self
  obtain ⟨sourceEnd, dependency, atSource, typed, binds⟩ := binds_visit member made
  exact visited.step atSource typed binds

theorem Visited.edge_mem {ledger : Ledger α} (visited : ledger.Visited order (visits order edges))
    {assigned : Assignment α} (member : assigned ∈ ledger.assignments) :
    assigned.edge ∈ Binding.dependencyEdges order edges := by
  rw [← mem_visits, ← visited.edges]
  exact List.mem_map_of_mem member

theorem Visited.introducer_mem {ledger : Ledger α} (visited : ledger.Visited order (visits order edges)) {key : Nat}
    {known : Variable α} (found : ledger.known[key]? = some known) : known.introducer ∈ order.map (·.id) := by
  obtain ⟨generated, split, undeclared⟩ := visited.known
  have listed := List.mem_of_getElem? found
  rw [split, List.mem_append, List.mem_flatMap] at listed
  rcases listed with ⟨node, member, declared⟩ | fresh
  · rw [(Node.of_mem_declaredVariables declared).1]
    exact List.mem_map_of_mem member
  · obtain ⟨assigned, member, _, source⟩ := visited.used key known found (undeclared known fresh)
    obtain ⟨_, _, inside, _⟩ := mem_dependencyEdges.mp (visited.edge_mem member)
    exact source ▸ inside

end Run

section Shows

variable {ids : List α} {names : List Wording} {ledger : Ledger α} {bindings : Bindings α}

def Names (ledger : Ledger α) (names : List Wording) (key : Nat) (name objectType : Wording) : Prop :=
  names[key]? = some name ∧ ∃ known, ledger.known[key]? = some known ∧ known.objectType = objectType

/-- The bindings list the variable of each assignment and those that each node holds, each under its name. -/
structure Shows (ids : List α) (names : List Wording) (ledger : Ledger α) (bindings : Bindings α) : Prop where
  edges : List.Forall₂
    (fun assigned shown => shown.edge = assigned.edge ∧ shown.dependency = assigned.dependency ∧
      ledger.Names names assigned.key shown.name shown.objectType)
    ledger.assignments bindings.edges
  nodes : List.Forall₂
    (fun id shown => shown.1 = id ∧ List.Forall₂
      (fun holding held => held.qualifier = holding.qualifier ∧ held.bound = holding.bound ∧
        ledger.Names names holding.key held.name held.objectType)
      (ledger.holdings.filter (·.node = id)) shown.2)
    ids bindings.nodes

private theorem Coherent.shows_ofLedger (coherent : ledger.Coherent) (named : names.length = ledger.known.length) :
    ledger.Shows ids names (Bindings.ofLedger ids names ledger) := by
  have listed {node : α} {key : Nat} (holds : ledger.Holds node key) :
      ∃ known name, ledger.known[key]? = some known ∧ names[key]? = some name := by
    obtain ⟨holding, member, _, rfl⟩ := holds
    obtain ⟨known, found, _⟩ := coherent.traced holding member
    have short := (List.getElem?_eq_some_iff.mp found).1
    exact ⟨known, _, found, List.getElem?_eq_getElem (named ▸ short)⟩
  refine ⟨?_, ?_⟩
  · apply forall₂_filterMap
    intro assigned member
    obtain ⟨known, name, found, called⟩ := listed (coherent.ends assigned member).1
    exact ⟨_, by rw [found, called]; rfl, rfl, rfl, called, known, found, rfl⟩
  · rw [Bindings.ofLedger, List.forall₂_map_right_iff, List.forall₂_same]
    refine fun id _ => ⟨rfl, forall₂_filterMap ?_⟩
    intro holding member
    obtain ⟨known, name, found, called⟩ := listed ⟨holding, (List.mem_filter.mp member).1, rfl, rfl⟩
    exact ⟨_, by rw [found, called]; rfl, rfl, rfl, called, known, found, rfl⟩

theorem exists_shows {order : List (Node α β)} {edges : List (Edge α)} (width : Int)
    (unique : (order.map (·.id)).Nodup) (settled : Binding.settle order edges = .ok ledger) :
    ∃ bindings, propagate order edges width = .ok bindings ∧
      ledger.Shows (order.map (·.id)) (Binding.names order edges width ledger.known) bindings := by
  refine ⟨_, by rw [propagate, settled]; rfl, ?_⟩
  rw [eraseDups_eq_self unique]
  exact (visited_settle settled).coherent.shows_ofLedger Binding.length_assignNames

end Shows

end Ledger
end BoxTree
