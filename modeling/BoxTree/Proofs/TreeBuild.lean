import BoxTree.Proofs.LinkFacts
import BoxTree.Proofs.TreeValidity
import BoxTree.Tree.Build
import Mathlib.Data.List.Forall2

/-! Building a tree from a linear order. Every node that some other node of the order points at hangs
below one parent, so an order whose edges all point forward gives a well-formed tree. -/

namespace BoxTree

variable {α β : Type}

/-- A tree node that stands for a graph node: a box with its content, or a gate of its kind. -/
inductive Carries : Node α β → TreeNode β → Prop where
  | box {id : α} {event : EventBox β} {children : List Int} :
      Carries ⟨id, .box event⟩ (.box event.content children)
  | and {id : α} {left right : Int} : Carries ⟨id, .gate .and⟩ (.and left right)
  | or {id : α} {left right : Int} : Carries ⟨id, .gate .or⟩ (.or left right)
  | not {id : α} {child : Int} : Carries ⟨id, .gate .not⟩ (.not child)

/-- An arc between two different places of an order leads to the later one. -/
def Forward (arcs : List (α × α)) (order : List α) : Prop :=
  order.Pairwise fun earlier later => ¬ Arc arcs later earlier

theorem Forward.lt {arcs : List (α × α)} {order : List α} (forward : Forward arcs order) {source target : α}
    {from' to' : Nat} (atSource : order[from']? = some source) (atTarget : order[to']? = some target)
    (arc : Arc arcs source target) (other : source ≠ target) : from' < to' := by
  obtain ⟨below, rfl⟩ := List.getElem?_eq_some_iff.mp atSource
  obtain ⟨below', rfl⟩ := List.getElem?_eq_some_iff.mp atTarget
  rcases Nat.lt_trichotomy from' to' with less | rfl | more
  · exact less
  · exact False.elim (other rfl)
  · exact False.elim (List.pairwise_iff_getElem.mp forward to' from' below' below more arc)

namespace Build

variable [DecidableEq α] {order : List (Node α β)} {edges : List (Edge α)} {id : α}

theorem place?_isSome_iff : (place? id order).isSome = true ↔ id ∈ order.map (·.id) := by
  induction order with
  | nil => simp [place?]
  | cons node rest ih =>
    rw [place?, List.map_cons, List.mem_cons, ← ih]
    split
    next place found => simp [found]
    next none =>
      split
      next same => simp [same]
      next differs => simp [none, Ne.symm differs]

theorem place?_eq_some_iff (unique : (order.map (·.id)).Nodup) {place : Nat} :
    place? id order = some place ↔ (order.map (·.id))[place]? = some id := by
  induction order generalizing place with
  | nil => simp [place?]
  | cons node rest ih =>
    obtain ⟨absent, unique⟩ := List.nodup_cons.mp unique
    rw [place?, List.map_cons]
    split
    next found other =>
      have later := (ih unique).mp other
      have differs : node.id ≠ id := fun same => absent (by simpa only [same] using List.mem_of_getElem? later)
      cases place with
      | zero => simp [differs]
      | succ place => simpa [other, Nat.succ.injEq] using ih unique
    next none =>
      have nowhere (place : Nat) : (rest.map (·.id))[place]? ≠ some id := by
        intro found
        rw [(ih unique).mpr found] at none
        cases none
      cases place with
      | zero => split <;> simp_all
      | succ place =>
        constructor
        · intro found
          split at found <;> simp at found
        · intro found
          exact False.elim (nowhere place found)

private theorem place?_inj (unique : (order.map (·.id)).Nodup) {other : α} {place : Nat}
    (left : place? id order = some place) (right : place? other order = some place) : id = other :=
  Option.some.inj (((place?_eq_some_iff unique).mp left).symm.trans ((place?_eq_some_iff unique).mp right))

theorem isInner_iff {edge : Edge α} :
    isInner order edge = true ↔
      edge.source ∈ order.map (·.id) ∧ edge.target ∈ order.map (·.id) ∧ edge.source ≠ edge.target := by
  simp only [isInner, Bool.and_eq_true, place?_isSome_iff, decide_eq_true_iff, and_assoc, ne_eq]

private theorem above_irrefl (rank : Bool × Nat) : above rank rank = false := by simp [above]

private theorem above_asymm {left right : Bool × Nat} (wins : above left right = true) : above right left = false := by
  obtain ⟨leftGate, left⟩ := left
  obtain ⟨rightGate, right⟩ := right
  cases leftGate <;> cases rightGate <;> simp_all [above] <;> omega

/-- What is above a rank is above every other rank, or that one is above the first. -/
theorem above_or {left right : Bool × Nat} (wins : above left right = true) (other : Bool × Nat) :
    above left other = true ∨ above other right = true := by
  obtain ⟨leftGate, left⟩ := left
  obtain ⟨rightGate, right⟩ := right
  obtain ⟨gate, other⟩ := other
  cases leftGate <;> cases rightGate <;> cases gate <;> simp_all [above] <;> omega

def preferred (order : List (Node α β)) (best : Option α) (edge : Edge α) : Option α :=
  match best with
  | none => some edge.source
  | some parent => if above (rank order edge.source) (rank order parent) then some edge.source else some parent

/-- The preferred one of a parent and the sources of some edges: none of them ranks above it. -/
theorem foldl_preferred (order : List (Node α β)) (first : α) (candidates : List (Edge α)) :
    ∃ parent, candidates.foldl (preferred order) (some first) = some parent ∧
      (parent = first ∨ ∃ edge ∈ candidates, edge.source = parent) ∧
      above (rank order first) (rank order parent) = false ∧
      ∀ edge ∈ candidates, above (rank order edge.source) (rank order parent) = false := by
  induction candidates generalizing first with
  | nil => exact ⟨first, rfl, .inl rfl, above_irrefl _, by simp⟩
  | cons edge rest ih =>
    have step : ∃ next, preferred order (some first) edge = some next ∧ (next = first ∨ next = edge.source) ∧
        above (rank order first) (rank order next) = false ∧
        above (rank order edge.source) (rank order next) = false := by
      cases wins : above (rank order edge.source) (rank order first) with
      | false => exact ⟨first, by simp [preferred, wins], .inl rfl, above_irrefl _, wins⟩
      | true => exact ⟨edge.source, by simp [preferred, wins], .inr rfl, above_asymm wins, above_irrefl _⟩
    obtain ⟨next, picked, isNext, overFirst, overEdge⟩ := step
    obtain ⟨parent, found, member, overNext, overRest⟩ := ih next
    have beaten {other : α} (less : above (rank order other) (rank order next) = false) :
        above (rank order other) (rank order parent) = false := by
      rw [← Bool.not_eq_true] at less overNext ⊢
      exact fun wins => (above_or wins (rank order next)).elim less overNext
    refine ⟨parent, by rw [List.foldl_cons, picked, found], ?_, beaten overFirst, ?_⟩
    · rcases member with rfl | ⟨other, inside, same⟩
      · exact isNext.imp_right fun same => ⟨edge, List.mem_cons_self, same.symm⟩
      · exact .inr ⟨other, List.mem_cons_of_mem _ inside, same⟩
    · exact List.forall_mem_cons.mpr ⟨beaten overEdge, overRest⟩

private theorem treeParent?_eq (order : List (Node α β)) (edges : List (Edge α)) (id : α) :
    treeParent? order edges id =
      (edges.filter fun edge => isInner order edge && edge.target = id).foldl (preferred order) none := rfl

structure Enters (order : List (Node α β)) (edges : List (Edge α)) (id : α) (edge : Edge α) : Prop where
  member : edge ∈ edges
  inner : isInner order edge = true
  target : edge.target = id

/-- A node that some edge enters has a parent, and no source of an edge into the node ranks above it. -/
theorem exists_treeParent {edge : Edge α} (enters : Enters order edges id edge) :
    ∃ parent, treeParent? order edges id = some parent ∧ (∃ edge, Enters order edges id edge ∧ edge.source = parent) ∧
      ∀ edge, Enters order edges id edge → above (rank order edge.source) (rank order parent) = false := by
  have listed (edge : Edge α) :
      edge ∈ edges.filter (fun edge => isInner order edge && edge.target = id) ↔ Enters order edges id edge := by
    rw [List.mem_filter, Bool.and_eq_true, decide_eq_true_iff]
    constructor
    · intro given
      obtain ⟨member, inner, target⟩ := given
      exact ⟨member, inner, target⟩
    · intro given
      obtain ⟨member, inner, target⟩ := given
      exact ⟨member, inner, target⟩
  rw [treeParent?_eq]
  cases candidates : edges.filter fun edge => isInner order edge && edge.target = id with
  | nil =>
    have impossible := (listed edge).mpr enters
    rw [candidates] at impossible
    cases impossible
  | cons first rest =>
    obtain ⟨parent, found, member, overFirst, overRest⟩ := foldl_preferred order first.source rest
    refine ⟨parent, found, ?_, ?_⟩
    · rcases member with rfl | ⟨edge, inside, same⟩
      · exact ⟨first, (listed first).mp (candidates ▸ List.mem_cons_self), rfl⟩
      · exact ⟨edge, (listed edge).mp (candidates ▸ List.mem_cons_of_mem _ inside), same⟩
    · intro edge enters
      rcases List.mem_cons.mp (candidates ▸ (listed edge).mpr enters) with rfl | inside
      · exact overFirst
      · exact overRest edge inside

theorem enters_of_treeParent {parent : α} (found : treeParent? order edges id = some parent) :
    ∃ edge, Enters order edges id edge ∧ edge.source = parent := by
  cases candidates : edges.filter fun edge => isInner order edge && edge.target = id with
  | nil =>
    rw [treeParent?_eq, candidates] at found
    cases found
  | cons first rest =>
    have member : first ∈ edges.filter fun edge => isInner order edge && edge.target = id :=
      candidates ▸ List.mem_cons_self
    rw [List.mem_filter, Bool.and_eq_true, decide_eq_true_iff] at member
    obtain ⟨chosen, same, enters, _⟩ := exists_treeParent ⟨member.1, member.2.1, member.2.2⟩
    rw [found] at same
    cases same
    exact enters

theorem mem_treeEdges {edge : Edge α} :
    edge ∈ treeEdges order edges ↔ edge ∈ edges ∧ treeParent? order edges edge.target = some edge.source := by
  rw [treeEdges, List.mem_filter, decide_eq_true_iff]

theorem inner_of_treeParent {edge : Edge α} (found : treeParent? order edges edge.target = some edge.source) :
    isInner order edge = true := by
  obtain ⟨other, enters, same⟩ := enters_of_treeParent found
  have inner := isInner_iff.mp enters.inner
  rw [enters.target, same] at inner
  exact isInner_iff.mpr inner

theorem mem_childPlaces {joined : List (Edge α)} {place : Nat} :
    place ∈ childPlaces order joined id ↔
      ∃ edge ∈ joined, edge.source = id ∧ place? edge.target order = some place := by
  simp only [childPlaces, List.mem_eraseDups, List.mem_filterMap, List.mem_filter, decide_eq_true_iff, and_assoc]

private theorem mem_edgeNames {joined : List (Edge α)} {entry : EdgeKey × Wording}
    (member : entry ∈ edgeNames order joined) :
    ∃ edge ∈ joined, ∃ parent child : Nat, place? edge.source order = some parent ∧
      place? edge.target order = some child ∧ entry.1 = ((parent : Int), (child : Int)) := by
  simp only [edgeNames, List.mem_filterMap, List.mem_eraseDups, List.mem_map] at member
  obtain ⟨key, ⟨named, ⟨edge, inside, keyed⟩, rfl⟩, found⟩ := member
  obtain ⟨name, _, rfl⟩ := Option.map_eq_some_iff.mp found
  simp only [Option.bind_eq_bind, Option.bind_eq_some_iff, Option.pure_def, Option.some.injEq] at keyed
  obtain ⟨name, _, parent, atParent, child, atChild, rfl⟩ := keyed
  exact ⟨edge, inside, parent, child, atParent, atChild, rfl⟩

def fault? : Except (ArityFault α) (TreeNode β) → Option (ArityFault α)
  | .error fault => some fault
  | .ok _ => none

def collected (made : List (Except (ArityFault α) (TreeNode β))) (names : List (EdgeKey × Wording)) :
    Except (List (ArityFault α)) (LinearTree β) :=
  match made.filterMap fault? with
  | [] => .ok ⟨made.filterMap Except.toOption, names⟩
  | faults => .error faults

theorem build_eq_collected (order : List (Node α β)) (edges : List (Edge α)) :
    build order edges = collected
      (order.map fun node => treeNode node (childPlaces order (treeEdges order edges) node.id))
      (edgeNames order (treeEdges order edges)) := rfl

end Build

section Result

theorem carries_treeNode {node : Node α β} {places : List Nat} {made : TreeNode β}
    (built : Build.treeNode node places = .ok made) : Carries node made ∧ made.children = places.map Int.ofNat := by
  obtain ⟨id, body⟩ := node
  unfold Build.treeNode at built
  split at built <;> cases built
  all_goals
    rename_i same
    obtain rfl := same
    exact ⟨by constructor, rfl⟩

private theorem gate_treeNode {node : Node α β} {places : List Nat} {fault : ArityFault α}
    (failed : Build.treeNode node places = .error fault) : node.id = fault.gate ∧ node.isGate = true := by
  obtain ⟨id, body⟩ := node
  unfold Build.treeNode at failed
  split at failed <;> cases failed
  rename_i isGate _ _ _
  obtain rfl := isGate
  exact ⟨rfl, rfl⟩

private theorem forall₂_toOption {ε γ δ : Type} {f : γ → Except ε δ} {right : γ → δ → Prop} {items : List γ}
    (every : ∀ item ∈ items, ∃ made, f item = .ok made ∧ right item made) :
    List.Forall₂ right items ((items.map f).filterMap Except.toOption) := by
  induction items with
  | nil => exact .nil
  | cons item rest ih =>
    obtain ⟨⟨made, found, holds⟩, every⟩ := List.forall_mem_cons.mp every
    rw [List.map_cons, found]
    exact .cons holds (ih every)

variable [DecidableEq α] {order : List (Node α β)} {edges : List (Edge α)} {tree : LinearTree β}

theorem build_eq_ok (built : build order edges = .ok tree) :
    List.Forall₂ (fun node made => node ∈ order ∧
        Build.treeNode node (Build.childPlaces order (Build.treeEdges order edges) node.id) = .ok made)
      order tree.nodes ∧
      tree.edgeNames = Build.edgeNames order (Build.treeEdges order edges) := by
  unfold build at built
  dsimp only at built
  split at built
  next none =>
    cases built
    refine ⟨?_, rfl⟩
    apply forall₂_toOption
    intro node member
    have faultless := List.filterMap_eq_nil_iff.mp none _ (List.mem_map_of_mem member)
    split at faultless
    next => cases faultless
    next made found => exact ⟨made, found, member, found⟩
  next => cases built

theorem build_eq_error {faults : List (ArityFault α)} (failed : build order edges = .error faults) :
    faults ≠ [] ∧ ∀ fault ∈ faults, ∃ node ∈ order, node.id = fault.gate ∧ node.isGate = true := by
  unfold build at failed
  dsimp only at failed
  split at failed
  next => cases failed
  next some =>
    cases failed
    refine ⟨fun none => some none, ?_⟩
    intro fault member
    obtain ⟨result, inside, isFault⟩ := List.mem_filterMap.mp member
    obtain ⟨node, listed, rfl⟩ := List.mem_map.mp inside
    split at isFault
    next error made =>
      cases isFault
      exact ⟨node, listed, gate_treeNode made⟩
    next => cases isFault

/-- The edges of a built tree join each node to its one parent. -/
theorem mem_links_build (unique : (order.map (·.id)).Nodup) (built : build order edges = .ok tree)
    {parent child : Int} :
    (parent, child) ∈ tree.links ↔ ∃ edge ∈ edges, Build.treeParent? order edges edge.target = some edge.source ∧
      ∃ from' to' : Nat, Build.place? edge.source order = some from' ∧ Build.place? edge.target order = some to' ∧
        parent = from' ∧ child = to' := by
  have nodes := (build_eq_ok built).1
  rw [LinearTree.mem_links]
  constructor
  · intro given
    obtain ⟨index, made, found, rfl, inside⟩ := given
    obtain ⟨below, rfl⟩ := List.getElem?_eq_some_iff.mp found
    have above : index < order.length := nodes.length_eq ▸ below
    have made := (carries_treeNode (nodes.get above below).2).2
    rw [List.get_eq_getElem] at made
    rw [made, List.mem_map] at inside
    obtain ⟨place, listed, rfl⟩ := inside
    obtain ⟨edge, joined, source, target⟩ := Build.mem_childPlaces.mp listed
    obtain ⟨member, parent⟩ := Build.mem_treeEdges.mp joined
    refine ⟨edge, member, parent, index, place, ?_, target, rfl, rfl⟩
    rw [Build.place?_eq_some_iff unique, List.getElem?_map, source, List.getElem?_eq_getElem above]
    rfl
  · intro given
    obtain ⟨edge, member, parent, index, place, source, target, rfl, rfl⟩ := given
    have atSource := (Build.place?_eq_some_iff unique).mp source
    rw [List.getElem?_map, Option.map_eq_some_iff] at atSource
    obtain ⟨node, found, same⟩ := atSource
    obtain ⟨above, rfl⟩ := List.getElem?_eq_some_iff.mp found
    have below : index < tree.nodes.length := nodes.length_eq ▸ above
    refine ⟨index, tree.nodes[index], List.getElem?_eq_getElem below, rfl, ?_⟩
    have made := (carries_treeNode (nodes.get above below).2).2
    rw [List.get_eq_getElem] at made
    rw [made, List.mem_map]
    exact ⟨place, Build.mem_childPlaces.mpr ⟨edge, Build.mem_treeEdges.mpr ⟨member, parent⟩, same.symm, target⟩, rfl⟩

/-- An order that makes a tree: its nodes differ, edges between them lead forward, and every node but the
first is entered from within. -/
structure Sorted (order : List (Node α β)) (edges : List (Edge α)) : Prop where
  unique : (order.map (·.id)).Nodup
  forward : Forward (edges.map (·.arc)) (order.map (·.id))
  entered : ∀ node ∈ order.tail, ∃ edge, Build.Enters order edges node.id edge

variable (sorted : Sorted order edges) (built : build order edges = .ok tree)
include sorted built

theorem Sorted.lt_of_mem_links {parent child : Int} (link : (parent, child) ∈ tree.links) :
    0 ≤ parent ∧ parent < child ∧ child < tree.length := by
  obtain ⟨edge, member, found, from', to', source, target, rfl, rfl⟩ := (mem_links_build sorted.unique built).mp link
  have atSource := (Build.place?_eq_some_iff sorted.unique).mp source
  have atTarget := (Build.place?_eq_some_iff sorted.unique).mp target
  have differs := (Build.isInner_iff.mp (Build.inner_of_treeParent found)).2.2
  have later : from' < to' :=
    sorted.forward.lt atSource atTarget (List.mem_map.mpr ⟨edge, member, rfl⟩) differs
  obtain ⟨below, _⟩ := List.getElem?_eq_some_iff.mp atTarget
  rw [List.length_map, (build_eq_ok built).1.length_eq] at below
  exact ⟨Int.natCast_nonneg from', Int.ofNat_lt.mpr later, Int.ofNat_lt.mpr below⟩

private theorem Sorted.exists_parent {place : Nat} (inner : 0 < place) (below : place < tree.length) :
    ∃ earlier < place, ((earlier : Int), (place : Int)) ∈ tree.links := by
  have within : place < order.length := (build_eq_ok built).1.length_eq ▸ below
  have member : order[place] ∈ order.tail := by
    obtain ⟨earlier, rfl⟩ := Nat.exists_eq_succ_of_ne_zero (Nat.pos_iff_ne_zero.mp inner)
    rw [← List.getElem_tail (by rw [List.length_tail]; exact Nat.lt_sub_of_add_lt within)]
    exact List.getElem_mem _
  obtain ⟨_, enters⟩ := sorted.entered _ member
  obtain ⟨parent, found, ⟨edge, enters, rfl⟩, _⟩ := Build.exists_treeParent enters
  obtain ⟨earlier, atSource⟩ := Option.isSome_iff_exists.mp
    (Build.place?_isSome_iff.mpr (Build.isInner_iff.mp enters.inner).1)
  have atTarget : Build.place? edge.target order = some place := by
    rw [Build.place?_eq_some_iff sorted.unique, List.getElem?_map, List.getElem?_eq_getElem within, enters.target]
    rfl
  have link : ((earlier : Int), (place : Int)) ∈ tree.links :=
    (mem_links_build sorted.unique built).mpr
      ⟨edge, enters.member, enters.target.symm ▸ found, earlier, place, atSource, atTarget, rfl, rfl⟩
  exact ⟨earlier, Int.ofNat_lt.mp (sorted.lt_of_mem_links built link).2.1, link⟩

private theorem Sorted.leads_from_root {place : Nat} (below : place < tree.length) : Leads tree.links 0 place := by
  induction place using Nat.strong_induction_on with
  | _ place ih =>
    rcases Nat.eq_zero_or_pos place with rfl | inner
    · exact .refl
    · obtain ⟨earlier, less, link⟩ := sorted.exists_parent built inner below
      exact (ih earlier less (Nat.lt_trans less below)).tail link

theorem Sorted.wellFormed : tree.WellFormed where
  inside link member := by
    obtain ⟨lower, less, upper⟩ := sorted.lt_of_mem_links built member
    exact ⟨by omega, upper, by omega, by omega⟩
  single left leftMember right rightMember same := by
    obtain ⟨first, _, leftParent, _, place, leftSource, leftTarget, leftFrom, leftTo⟩ :=
      (mem_links_build sorted.unique built).mp leftMember
    obtain ⟨second, _, rightParent, _, other, rightSource, rightTarget, rightFrom, rightTo⟩ :=
      (mem_links_build sorted.unique built).mp rightMember
    have samePlace : place = other := by omega
    have sameTarget := Build.place?_inj sorted.unique leftTarget (samePlace ▸ rightTarget)
    have sameSource : first.source = second.source :=
      Option.some.inj (leftParent.symm.trans (sameTarget ▸ rightParent))
    rw [sameSource, rightSource] at leftSource
    rw [leftFrom, rightFrom, Option.some.inj leftSource]
  reached _ below := sorted.leads_from_root built below
  named entry member := by
    rw [(build_eq_ok built).2] at member
    obtain ⟨edge, joined, parent, child, source, target, same⟩ := Build.mem_edgeNames member
    obtain ⟨listed, found⟩ := Build.mem_treeEdges.mp joined
    rw [same]
    exact (mem_links_build sorted.unique built).mpr ⟨edge, listed, found, parent, child, source, target, rfl, rfl⟩

end Result
end BoxTree
