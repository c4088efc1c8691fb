import BoxTree.Binding.Propagate
import BoxTree.Graph.Dangling
import BoxTree.Proofs.Duplicates

/-! Lookups that cannot fail. An edge that does not dangle joins known nodes and can be classified, and
then the variables of its dependency can be settled. -/

namespace BoxTree

section Traversal

variable {ε γ δ : Type}

theorem bind_eq_ok_iff {step : Except ε γ} {next : γ → Except ε δ} {result : δ} :
    step >>= next = .ok result ↔ ∃ value, step = .ok value ∧ next value = .ok result := by
  cases step <;> simp [bind, Except.bind]

theorem exists_mapM_eq_ok {f : γ → Except ε δ} {right : γ → δ → Prop} {items : List γ}
    (every : ∀ item ∈ items, ∃ made, f item = .ok made ∧ right item made) :
    ∃ results, items.mapM f = .ok results ∧ List.Forall₂ right items results := by
  induction items with
  | nil => exact ⟨[], rfl, .nil⟩
  | cons item rest ih =>
    obtain ⟨⟨made, found, holds⟩, every⟩ := List.forall_mem_cons.mp every
    obtain ⟨results, collected, hold⟩ := ih every
    exact ⟨made :: results, by rw [List.mapM_cons, found, collected]; rfl, .cons holds hold⟩

theorem exists_of_forall₂_right {right : γ → δ → Prop} {items : List γ} {results : List δ}
    (beside : List.Forall₂ right items results) {made : δ} (member : made ∈ results) :
    ∃ item ∈ items, right item made := by
  induction beside with
  | nil => cases member
  | cons holds _ ih =>
    rcases List.mem_cons.mp member with rfl | later
    · exact ⟨_, List.mem_cons_self, holds⟩
    · obtain ⟨item, listed, holds⟩ := ih later
      exact ⟨item, List.mem_cons_of_mem _ listed, holds⟩

theorem exists_of_forall₂_left {right : γ → δ → Prop} {items : List γ} {results : List δ}
    (beside : List.Forall₂ right items results) {item : γ} (member : item ∈ items) :
    ∃ made ∈ results, right item made := by
  have turned : List.Forall₂ (flip right) results items := beside.flip
  exact exists_of_forall₂_right turned member

theorem forall₂_filterMap_filterMap {ι : Type} {f : ι → Option γ} {g : ι → Option δ} {right : γ → δ → Prop}
    {items : List ι} (every : ∀ item ∈ items, ∃ one other, f item = some one ∧ g item = some other ∧ right one other) :
    List.Forall₂ right (items.filterMap f) (items.filterMap g) := by
  induction items with
  | nil => exact .nil
  | cons item rest ih =>
    obtain ⟨⟨one, other, first, second, holds⟩, every⟩ := List.forall_mem_cons.mp every
    rw [List.filterMap_cons_some first, List.filterMap_cons_some second]
    exact .cons holds (ih every)

theorem forall₂_filterMap {f : γ → Option δ} {right : γ → δ → Prop} {items : List γ}
    (every : ∀ item ∈ items, ∃ made, f item = some made ∧ right item made) :
    List.Forall₂ right items (items.filterMap f) := by
  have beside : List.Forall₂ right (items.filterMap some) (items.filterMap f) := by
    apply forall₂_filterMap_filterMap
    intro item member
    obtain ⟨made, found⟩ := every item member
    exact ⟨item, made, rfl, found⟩
  rwa [List.filterMap_some] at beside

private theorem exists_foldlM_eq_ok {f : δ → γ → Except ε δ} {items : List γ}
    (every : ∀ item ∈ items, ∀ state, ∃ next, f state item = .ok next) (state : δ) :
    ∃ last, items.foldlM f state = .ok last := by
  induction items generalizing state with
  | nil => exact ⟨state, rfl⟩
  | cons item rest ih =>
    obtain ⟨step, every⟩ := List.forall_mem_cons.mp every
    obtain ⟨next, found⟩ := step state
    rw [List.foldlM_cons, found]
    exact ih every next

/-- What holds at first and is kept by every step holds at the end, of the items done so far. -/
theorem foldlM_keeps {f : δ → γ → Except ε δ} {items : List γ} {kept : List γ → δ → Prop}
    (step : ∀ done item rest state next, items = done ++ item :: rest → kept done state → f state item = .ok next →
      kept (done ++ [item]) next)
    {first last : δ} (start : kept [] first) (found : items.foldlM f first = .ok last) : kept items last := by
  have onwards (done rest : List γ) (state : δ) (split : items = done ++ rest) (holds : kept done state)
      (found : rest.foldlM f state = .ok last) : kept items last := by
    induction rest generalizing done state with
    | nil =>
      rw [List.append_nil] at split
      cases found
      exact split ▸ holds
    | cons item rest ih =>
      rw [List.foldlM_cons] at found
      cases made : f state item with
      | error => rw [made] at found; cases found
      | ok next =>
        rw [made] at found
        exact ih (done ++ [item]) next (by simpa using split) (step done item rest state next split holds made) found
  exact onwards [] items first rfl start found

/-- Items grouped by key are the same items. -/
theorem perm_flatMap_filter {key : γ → δ} [DecidableEq δ] {keys : List δ} (once : keys.Nodup) {items : List γ}
    (within : ∀ item ∈ items, key item ∈ keys) :
    (keys.flatMap fun one => items.filter fun item => key item = one).Perm items := by
  induction keys generalizing items with
  | nil =>
    rw [List.eq_nil_iff_forall_not_mem.mpr fun item member => List.not_mem_nil (within item member)]
    exact .nil
  | cons first rest ih =>
    obtain ⟨absent, once⟩ := List.nodup_cons.mp once
    have others : (rest.flatMap fun one => items.filter fun item => key item = one) =
        rest.flatMap fun one =>
          (items.filter fun item => !decide (key item = first)).filter fun item => key item = one := by
      apply List.flatMap_congr
      intro one member
      rw [List.filter_filter]
      apply List.filter_congr
      intro item _
      by_cases same : key item = one
      · simp [same, ne_of_mem_of_not_mem member absent]
      · simp [same]
    have later : ∀ item ∈ items.filter fun item => !decide (key item = first), key item ∈ rest := by
      intro item member
      obtain ⟨listed, other⟩ := List.mem_filter.mp member
      exact (List.mem_cons.mp (within item listed)).resolve_left (by simpa using other)
    rw [List.flatMap_cons, others]
    exact ((ih once later).append_left _).trans (List.filter_append_perm _ items)

end Traversal

variable {α β : Type} [DecidableEq α] {nodes : List (Node α β)}

theorem Graph.keyed_eq_self {graph : Graph α β} (unique : graph.ids.Nodup) : graph.keyed = graph := by
  rw [Graph.keyed, (latest_eq_self_iff _).mpr unique]

theorem findNode?_eq_some_iff (unique : (nodes.map (·.id)).Nodup) {id : α} {node : Node α β} :
    findNode? nodes id = some node ↔ node ∈ nodes ∧ node.id = id := by
  constructor
  · intro found
    exact ⟨List.mem_of_find?_eq_some found, by simpa using List.find?_some found⟩
  · intro given
    obtain ⟨member, rfl⟩ := given
    obtain ⟨other, found⟩ : ∃ other, findNode? nodes node.id = some other :=
      Option.isSome_iff_exists.mp (List.find?_isSome.mpr ⟨node, member, decide_eq_true rfl⟩)
    have same : other.id = node.id := by simpa using List.find?_some found
    rw [found, List.inj_on_of_nodup_map unique (List.mem_of_find?_eq_some found) member same]

theorem exists_findNode? {id : α} (member : id ∈ nodes.map (·.id)) : ∃ node, findNode? nodes id = some node := by
  obtain ⟨node, listed, rfl⟩ := List.mem_map.mp member
  exact Option.isSome_iff_exists.mp (List.find?_isSome.mpr ⟨node, listed, decide_eq_true rfl⟩)

theorem findNode?_eq_of_subset {fewer : List (Node α β)} (unique : (nodes.map (·.id)).Nodup)
    (uniqueFewer : (fewer.map (·.id)).Nodup) (subset : fewer ⊆ nodes) {id : α} (member : id ∈ fewer.map (·.id)) :
    findNode? fewer id = findNode? nodes id := by
  obtain ⟨node, found⟩ := exists_findNode? member
  obtain ⟨listed, same⟩ := (findNode?_eq_some_iff uniqueFewer).mp found
  rw [found, (findNode?_eq_some_iff unique).mpr ⟨subset listed, same⟩]

/-- An edge between known nodes that declare the qualifiers of its ends. -/
structure Usable (nodes : List (Node α β)) (edge : Edge α) : Prop where
  source : edge.source ∈ nodes.map (·.id)
  target : edge.target ∈ nodes.map (·.id)
  typed : ∃ dependency, edge.dependencyType nodes = .ok dependency

private theorem exists_isMultiple {side : Side} {id : α} {endpoint : Endpoint} (known : id ∈ nodes.map (·.id))
    (fine : danglingEnd? nodes side id (some endpoint) = none) :
    ∃ multiple, isMultiple nodes id endpoint = .ok multiple := by
  obtain ⟨node, found⟩ := exists_findNode? known
  simp only [danglingEnd?, found] at fine
  cases body : node.body with
  | gate kind => simp [body] at fine
  | box event =>
    cases declared : event.qualifiers.lookup endpoint.qualifier with
    | none => simp [body, declared] at fine
    | some qualifier => exact ⟨qualifier.multiple, by simp [isMultiple, found, body, declared]⟩

theorem usable_of_dangling? {edge : Edge α} (fine : edge.dangling? nodes = none) : Usable nodes edge := by
  have known {id : α} (found : ¬ (findNode? nodes id).isNone = true) : id ∈ nodes.map (·.id) := by
    obtain ⟨node, found⟩ := Option.ne_none_iff_exists'.mp (mt Option.isNone_iff_eq_none.mpr found)
    exact List.mem_map.mpr ⟨node, List.mem_of_find?_eq_some found, by simpa using List.find?_some found⟩
  unfold Edge.dangling? at fine
  split at fine
  next => cases fine
  next source =>
    split at fine
    next => cases fine
    next target =>
      refine ⟨known source, known target, ?_⟩
      unfold Edge.dependencyType
      cases atSource : edge.sourceEnd with
      | none => exact ⟨none, rfl⟩
      | some sourceEnd =>
        cases atTarget : edge.targetEnd with
        | none => exact ⟨none, rfl⟩
        | some targetEnd =>
          simp only [atSource, atTarget] at fine
          split at fine
          next => cases fine
          next sourceFine =>
            split at fine
            next => cases fine
            next targetFine =>
              obtain ⟨sourceMultiple, fromSource⟩ := exists_isMultiple (known source) sourceFine
              obtain ⟨targetMultiple, fromTarget⟩ := exists_isMultiple (known target) targetFine
              exact ⟨_, by simp only [fromSource, fromTarget]; rfl⟩

theorem dangling?_of_link {edge : Edge α} (source : edge.source ∈ nodes.map (·.id))
    (target : edge.target ∈ nodes.map (·.id)) (atSource : edge.sourceEnd = none) (atTarget : edge.targetEnd = none) :
    edge.dangling? nodes = none := by
  obtain ⟨_, sourceFound⟩ := exists_findNode? source
  obtain ⟨_, targetFound⟩ := exists_findNode? target
  simp [Edge.dangling?, sourceFound, targetFound, atSource, atTarget]

theorem usable_of_resolved {graph : Graph α β} {edge : Edge α} (member : edge ∈ graph.resolved) :
    Usable graph.nodes edge :=
  usable_of_dangling? (Option.isNone_iff_eq_none.mp (List.mem_filter.mp member).2)

theorem dependencyType_congr {others : List (Node α β)} {edge : Edge α}
    (source : findNode? others edge.source = findNode? nodes edge.source)
    (target : findNode? others edge.target = findNode? nodes edge.target) :
    edge.dependencyType others = edge.dependencyType nodes := by
  simp only [Edge.dependencyType, isMultiple, source, target]

theorem Usable.transfer {others : List (Node α β)} {edge : Edge α} (usable : Usable nodes edge)
    (source : findNode? others edge.source = findNode? nodes edge.source)
    (target : findNode? others edge.target = findNode? nodes edge.target) : Usable others edge := by
  have known {id : α} (member : id ∈ nodes.map (·.id)) (same : findNode? others id = findNode? nodes id) :
      id ∈ others.map (·.id) := by
    obtain ⟨node, found⟩ := exists_findNode? member
    rw [← same] at found
    exact List.mem_map.mpr ⟨node, List.mem_of_find?_eq_some found, by simpa using List.find?_some found⟩
  refine ⟨known usable.source source, known usable.target target, ?_⟩
  obtain ⟨dependency, typed⟩ := usable.typed
  exact ⟨dependency, (dependencyType_congr source target).trans typed⟩

theorem exists_settle {order : List (Node α β)} {edges : List (Edge α)}
    (usable : ∀ edge ∈ Binding.dependencyEdges order edges, Usable order edge) :
    ∃ ledger, Binding.settle order edges = .ok ledger := by
  apply exists_foldlM_eq_ok
  intro edge member ledger
  obtain ⟨node, _, visited⟩ := List.mem_flatMap.mp member
  obtain ⟨dependency, typed⟩ := (usable edge (List.mem_filter.mp visited).1).typed
  unfold Ledger.visit
  rw [typed]
  cases edge.sourceEnd <;> cases edge.targetEnd <;> cases dependency <;> exact ⟨_, rfl⟩

theorem exists_propagate {order : List (Node α β)} {edges : List (Edge α)} (width : Int)
    (usable : ∀ edge ∈ edges, Usable order edge) : ∃ bindings, propagate order edges width = .ok bindings := by
  obtain ⟨ledger, settled⟩ := exists_settle fun edge member => usable edge (List.mem_filter.mp member).1
  exact ⟨_, by rw [propagate, settled]; rfl⟩

end BoxTree
