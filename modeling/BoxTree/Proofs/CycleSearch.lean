import BoxTree.Proofs.CycleTrail

/-! The search for a cycle is sound: what it returns is a cycle among the ancestors of its sources. It is
also complete: if it returns nothing, no ancestor of a source lies on a cycle. -/

namespace BoxTree

variable {α : Type} {arcs unused : List (α × α)} {stack explored : List α} {trail : Trail α}

/-- A set of nodes that holds all of its ancestors, none of which lies on a cycle. -/
structure Clear (arcs : List (α × α)) (done : α → Prop) : Prop where
  parents : ∀ parent id, Arc arcs parent id → done id → done parent
  free : ∀ id, done id → ¬ OnCycle arcs id

namespace Clear

variable {done other : α → Prop}

private theorem congr (clear : Clear arcs done) (same : ∀ id, other id ↔ done id) : Clear arcs other where
  parents parent id arc member := (same parent).mpr (clear.parents parent id arc ((same id).mp member))
  free id member := clear.free id ((same id).mp member)

private theorem ancestor (clear : Clear arcs done) {ancestor id : α} (path : Leads arcs ancestor id)
    (member : done id) :
    done ancestor := by
  induction path with
  | refl => exact member
  | tail _ arc ih => exact ih (clear.parents _ _ arc member)

private theorem grounded (clear : Clear arcs done) {id : α} (member : done id) : Grounded arcs id :=
  fun _ path => clear.free _ (clear.ancestor path member)

private theorem add (clear : Clear arcs done) {id : α} (parents : ∀ parent, Arc arcs parent id → done parent) :
    Clear arcs fun other => done other ∨ other = id where
  parents parent other arc := by
    intro given
    rcases given with member | rfl
    · exact .inl (clear.parents parent other arc member)
    · exact .inl (parents parent arc)
  free other := by
    rintro (member | rfl) cycle
    · exact clear.free other member cycle
    · obtain ⟨parent, path, arc⟩ := Relation.TransGen.tail'_iff.mp cycle
      exact clear.free other (clear.ancestor path (parents parent arc)) cycle

end Clear

/-- A depth-first walk with some arcs used: a node left behind is done, and from a node on the stack the
used arcs lead to nodes that are done or above it. -/
structure Visits (arcs : List (α × α)) (done : α → Prop) (stack : List α) (unused : List (α × α)) : Prop where
  clear : Clear arcs done
  used : ∀ parent id, Arc arcs parent id → (id, parent) ∉ unused → done id ∨ id ∈ stack
  waits : ∀ before id after, stack = before ++ id :: after →
    ∀ parent, Arc arcs parent id → (id, parent) ∉ unused → done parent ∨ parent ∈ before

namespace Visits

variable {done : α → Prop} {top : α}

private theorem start {searched : List (α × α)} (known : Clear arcs (· ∈ explored))
    (all : ∀ parent id, Arc arcs parent id → (id, parent) ∈ searched) (source : α) :
    Visits arcs (· ∈ explored) [source] searched where
  clear := known
  used parent id arc spent := False.elim (spent (all parent id arc))
  waits _ id _ _ parent arc spent := False.elim (spent (all parent id arc))

private theorem pop (visits : Visits arcs done (top :: stack) unused) (none : ∀ arc ∈ unused, arc.1 ≠ top) :
    Visits arcs (fun id => done id ∨ id = top) stack unused where
  clear := visits.clear.add fun parent arc => by
    have spent : (top, parent) ∉ unused := fun member => none _ member rfl
    exact (visits.waits [] top stack rfl parent arc spent).resolve_right List.not_mem_nil
  used parent id arc spent := by
    rcases visits.used parent id arc spent with member | member
    · exact .inl (.inl member)
    · exact (List.mem_cons.mp member).imp_left .inr
  waits before id after same parent arc spent := by
    rcases visits.waits (top :: before) id after (by rw [same]; rfl) parent arc spent with member | member
    · exact .inl (.inl member)
    · exact (List.mem_cons.mp member).imp_left .inr

private theorem push [DecidableEq α] (visits : Visits arcs done (top :: stack) unused) {next : α}
    (fresh : done next ∨ next ∉ top :: stack) :
    Visits arcs done (next :: top :: stack) (unused.erase (top, next)) := by
  have spent {parent id : α} (used : (id, parent) ∉ unused.erase (top, next)) :
      (id, parent) ∉ unused ∨ id = top ∧ parent = next := by
    by_cases same : (id, parent) = (top, next)
    · exact .inr (Prod.mk.inj same)
    · exact .inl fun member => used ((List.mem_erase_of_ne same).mpr member)
  refine ⟨visits.clear, ?_, ?_⟩
  · intro parent id arc used
    rcases spent used with used | ⟨rfl, _⟩
    · exact (visits.used parent id arc used).imp_right (List.mem_cons_of_mem _)
    · exact .inr (by simp)
  · intro before id after shape parent arc used
    cases before with
    | nil =>
      obtain ⟨rfl, _⟩ := List.cons.inj shape
      by_cases member : done next
      · exact .inl (visits.clear.parents parent next arc member)
      · have off := fresh.resolve_left member
        rcases spent used with used | ⟨rfl, _⟩
        · exact False.elim ((visits.used parent next arc used).elim member off)
        · exact False.elim (off List.mem_cons_self)
    | cons first before =>
      obtain ⟨rfl, below⟩ := List.cons.inj shape
      rcases spent used with used | ⟨_, rfl⟩
      · exact (visits.waits before id after below parent arc used).imp_right (List.mem_cons_of_mem _)
      · exact .inr List.mem_cons_self

end Visits

/-- The path of a search goes up the stack, except for explored nodes on top, which it does not enter. -/
structure Follows (arcs : List (α × α)) (explored stack : List α) (trail : Trail α) : Prop where
  grown : trail.Grown arcs
  path : ∃ seen live, stack = seen ++ live ∧ (∀ id ∈ seen, id ∈ explored) ∧ live <:+ trail.stops

namespace Follows

variable {top : α}

private theorem start (explored : List α) (id : α) : Follows arcs explored [id] ⟨id, []⟩ :=
  ⟨.start id, [], [id], rfl, by simp, List.suffix_refl _⟩

private theorem pop (follows : Follows arcs explored (top :: stack) trail) : Follows arcs explored stack trail := by
  obtain ⟨grown, seen, live, split, known, on⟩ := follows
  refine ⟨grown, ?_⟩
  cases seen with
  | nil =>
    obtain rfl := split
    exact ⟨[], stack, rfl, by simp, (List.suffix_cons top stack).trans on⟩
  | cons first seen =>
    obtain ⟨rfl, rfl⟩ := List.cons.inj split
    exact ⟨seen, live, rfl, fun id member => known id (List.mem_cons_of_mem _ member), on⟩

private theorem skip (follows : Follows arcs explored stack trail) {next : α} (known : next ∈ explored) :
    Follows arcs explored (next :: stack) trail := by
  obtain ⟨grown, seen, live, rfl, seenKnown, on⟩ := follows
  refine ⟨grown, next :: seen, live, rfl, ?_, on⟩
  intro id member
  rcases List.mem_cons.mp member with rfl | member
  · exact known
  · exact seenKnown id member

variable [DecidableEq α]

private theorem stops_backTo (follows : Follows arcs explored (top :: stack) trail) (outside : top ∉ explored) :
    (trail.backTo top).stops = top :: stack := by
  obtain ⟨grown, seen, live, split, known, on⟩ := follows
  cases seen with
  | nil =>
    obtain rfl := split
    exact Trail.stops_backTo grown.once on
  | cons first seen =>
    obtain ⟨rfl, _⟩ := List.cons.inj split
    exact False.elim (outside (known top List.mem_cons_self))

private theorem push (follows : Follows arcs explored (top :: stack) trail) (outside : top ∉ explored) {next : α}
    (back : Arc arcs next top) (fresh : next ∉ (trail.backTo top).nodes) :
    Follows arcs explored (next :: top :: stack)
      ⟨(trail.backTo top).start, (top, next) :: (trail.backTo top).arcs⟩ := by
  refine ⟨.push (follows.grown.backTo top) back (Trail.head_backTo _ _ _).symm fresh, [], _, rfl, by simp, ?_⟩
  change _ <:+ next :: (trail.backTo top).stops
  rw [follows.stops_backTo outside]

end Follows

variable [DecidableEq α]

private theorem closeCycle?_cons (explored : List α) (trail : Trail α) (arc : α × α) (rest : List (α × α)) :
    closeCycle? explored trail (arc :: rest) =
      if arc.2 ∈ explored then closeCycle? explored trail rest
      else if arc.2 ∈ (trail.backTo arc.1).nodes then some ((trail.backTo arc.1).closing arc)
      else closeCycle? explored ⟨(trail.backTo arc.1).start, arc :: (trail.backTo arc.1).arcs⟩ rest := by
  have turn : (if arc.1 = trail.head then trail else trail.backTo arc.1) = trail.backTo arc.1 := by
    split
    next same => rw [same, trail.backTo_head]
    next => rfl
  simp only [closeCycle?, turn]

private theorem mem_of_mem_backTo {id : α} {arc : α × α} (member : arc ∈ (trail.backTo id).arcs) :
    arc ∈ trail.arcs := by
  unfold Trail.backTo at member
  split at member
  next => cases member
  next => exact (List.dropWhile_sublist _).subset member

private theorem closeCycle?_sound {taken : List (α × α)} {cycle : List (α × α)}
    (back : ∀ arc ∈ taken, Arc arcs arc.2 arc.1) (grown : trail.Grown arcs)
    (found : closeCycle? explored trail taken = some cycle) :
    IsCycle arcs (cycle.map (·.1)).reverse ∧ ∀ arc ∈ cycle, arc ∈ trail.arcs ∨ arc ∈ taken := by
  induction taken generalizing trail with
  | nil => cases found
  | cons arc rest ih =>
    have backRest : ∀ other ∈ rest, Arc arcs other.2 other.1 := fun _ member => back _ (List.mem_cons_of_mem _ member)
    rw [closeCycle?_cons] at found
    split at found
    next =>
      obtain ⟨isCycle, members⟩ := ih backRest grown found
      exact ⟨isCycle, fun other member => (members other member).imp_right (List.mem_cons_of_mem _)⟩
    next =>
      split at found
      next returns =>
        cases found
        refine ⟨(grown.backTo arc.1).closes (back arc List.mem_cons_self) (Trail.head_backTo _ _ _).symm returns, ?_⟩
        intro other member
        have closing : other ∈ arc :: (trail.backTo arc.1).arcs :=
          List.mem_reverse.mp ((List.dropWhile_sublist _).subset member)
        rcases List.mem_cons.mp closing with rfl | old
        · exact .inr List.mem_cons_self
        · exact .inl (mem_of_mem_backTo old)
      next fresh =>
        have pushed := Trail.Grown.push (grown.backTo arc.1) (back arc List.mem_cons_self)
          (Trail.head_backTo _ _ _).symm fresh
        obtain ⟨isCycle, members⟩ := ih backRest pushed found
        refine ⟨isCycle, ?_⟩
        intro other member
        rcases members other member with old | new
        · rcases List.mem_cons.mp old with rfl | old
          · exact .inr List.mem_cons_self
          · exact .inl (mem_of_mem_backTo old)
        · exact .inr (List.mem_cons_of_mem _ new)

/-- A walk takes unused arcs only, and only from ancestors of the node it started at. -/
theorem leads_of_mem_walk {goal : α} (back : ∀ arc ∈ unused, Arc arcs arc.2 arc.1)
    (behind : ∀ id ∈ stack, Leads arcs id goal) {arc : α × α} (member : arc ∈ walk stack unused) :
    arc ∈ unused ∧ Leads arcs arc.1 goal := by
  induction stack, unused using walk.induct with
  | case1 unused => simp [walk] at member
  | case2 top stack unused found ih =>
    rw [walk, found] at member
    exact ih back (fun id member => behind id (List.mem_cons_of_mem _ member)) member
  | case3 top stack unused taken found ih =>
    have inside : taken ∈ unused := List.mem_of_find?_eq_some found
    have leaves : taken.1 = top := by simpa using List.find?_some found
    have path : Leads arcs taken.1 goal := leaves ▸ behind top List.mem_cons_self
    rw [walk, found] at member
    rcases List.mem_cons.mp member with rfl | member
    · exact ⟨inside, path⟩
    · have rest := ih (fun other member => back other (List.mem_of_mem_erase member)) ?_ member
      · exact ⟨List.mem_of_mem_erase rest.1, rest.2⟩
      · intro id stacked
        rcases List.mem_cons.mp stacked with rfl | stacked
        · exact .head (back taken inside) path
        · exact behind id stacked

/-- A walk on which no cycle is closed clears every node that it comes to. -/
theorem clear_of_walk {done : α → Prop} (back : ∀ arc ∈ unused, Arc arcs arc.2 arc.1)
    (known : Clear arcs (· ∈ explored)) (old : ∀ id ∈ explored, done id) (visits : Visits arcs done stack unused)
    (follows : Follows arcs explored stack trail) (none : closeCycle? explored trail (walk stack unused) = none) :
    Clear arcs fun id => done id ∨ id ∈ stack ∨ id ∈ (walk stack unused).map (·.2) := by
  induction stack, unused using walk.induct generalizing done trail with
  | case1 unused => exact visits.clear.congr (by simp [walk])
  | case2 top stack unused found ih =>
    rw [walk, found] at none ⊢
    have spent : ∀ arc ∈ unused, arc.1 ≠ top := by simpa using List.find?_eq_none.mp found
    have clear := ih back (fun id member => .inl (old id member)) (visits.pop spent) follows.pop none
    apply clear.congr
    intro id
    simp only [List.mem_cons, or_assoc]
  | case3 top stack unused taken found ih =>
    have inside : taken ∈ unused := List.mem_of_find?_eq_some found
    have leaves : taken.1 = top := by simpa using List.find?_some found
    obtain ⟨_, next⟩ := taken
    obtain rfl := leaves
    rename_i top
    rw [walk, found] at none ⊢
    rw [closeCycle?_cons] at none
    have backRest : ∀ arc ∈ unused.erase (top, next), Arc arcs arc.2 arc.1 :=
      fun arc member => back arc (List.mem_of_mem_erase member)
    have same : ∀ id, (done id ∨ id ∈ top :: stack ∨
          id ∈ ((top, next) :: walk (next :: top :: stack) (unused.erase (top, next))).map (·.2)) ↔
        (done id ∨ id ∈ next :: top :: stack ∨
          id ∈ (walk (next :: top :: stack) (unused.erase (top, next))).map (·.2)) := by
      intro id
      simp only [List.mem_cons, List.map_cons]
      tauto
    split at none
    next explored =>
      exact (ih backRest old (visits.push (.inl (old next explored))) (follows.skip explored) none).congr same
    next unexplored =>
      have outside : top ∉ explored :=
        fun member => unexplored (known.parents next top (back _ inside) member)
      split at none
      next => cases none
      next fresh =>
        have off : next ∉ top :: stack := by
          rw [Trail.mem_nodes, follows.stops_backTo outside] at fresh
          exact fresh
        exact (ih backRest old (visits.push (.inr off)) (follows.push outside (back _ inside) fresh) none).congr same

/-- If the search returns nothing, none of its sources has a cycle behind it. -/
theorem grounded_of_findCycle? {searched : List (α × α)} (reversed : ∀ arc, arc ∈ searched ↔ Arc arcs arc.2 arc.1)
    {sources : List α} (known : Clear arcs (· ∈ explored)) (none : findCycle? searched explored sources = none) :
    ∀ source ∈ sources, Grounded arcs source := by
  induction sources generalizing explored with
  | nil => simp
  | cons source sources ih =>
    simp only [findCycle?] at none
    split at none
    next member =>
      exact List.forall_mem_cons.mpr ⟨known.grounded member, ih known none⟩
    next =>
      split at none
      next => cases none
      next walked =>
        have clear := clear_of_walk (fun arc member => (reversed arc).mp member) known (fun _ member => member)
          (Visits.start known (fun _ _ arc => (reversed _).mpr arc) source) (.start explored source) walked
        rw [List.forall_mem_cons]
        constructor
        · exact clear.grounded (.inr (.inl (List.mem_singleton.mpr rfl)))
        · apply ih _ none
          apply clear.congr
          intro id
          simp only [List.mem_append, List.mem_cons, List.not_mem_nil, or_false]

/-- What the search returns is a cycle that leads to one of its sources. -/
theorem isCycle_of_findCycle? {searched : List (α × α)} (reversed : ∀ arc, arc ∈ searched ↔ Arc arcs arc.2 arc.1)
    {sources : List α} {cycle : List (α × α)} (found : findCycle? searched explored sources = some cycle) :
    IsCycle arcs (cycle.map (·.1)).reverse ∧
      ∀ id ∈ (cycle.map (·.1)).reverse, ∃ source ∈ sources, Leads arcs id source := by
  have back : ∀ arc ∈ searched, Arc arcs arc.2 arc.1 := fun arc member => (reversed arc).mp member
  induction sources generalizing explored with
  | nil => cases found
  | cons source sources ih =>
    simp only [findCycle?] at found
    have later (behind : ∀ id ∈ (cycle.map (·.1)).reverse, ∃ other ∈ sources, Leads arcs id other) :
        ∀ id ∈ (cycle.map (·.1)).reverse, ∃ other ∈ source :: sources, Leads arcs id other := by
      intro id member
      obtain ⟨other, inside, path⟩ := behind id member
      exact ⟨other, List.mem_cons_of_mem _ inside, path⟩
    split at found
    next => exact (ih found).imp_right later
    next =>
      split at found
      next closed walked =>
        cases found
        have taken {arc : α × α} (member : arc ∈ walk [source] searched) : arc ∈ searched ∧ Leads arcs arc.1 source :=
          leads_of_mem_walk back (by simp [Relation.ReflTransGen.refl]) member
        obtain ⟨isCycle, members⟩ := closeCycle?_sound (fun arc member => back arc (taken member).1)
          (.start source) walked
        refine ⟨isCycle, ?_⟩
        intro id member
        refine ⟨source, List.mem_cons_self, ?_⟩
        obtain ⟨arc, inside, rfl⟩ := List.mem_map.mp (List.mem_reverse.mp member)
        exact (taken ((members arc inside).resolve_left List.not_mem_nil)).2
      next => exact (ih found).imp_right later

end BoxTree
