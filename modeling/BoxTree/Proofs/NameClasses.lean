import BoxTree.Proofs.LetterCases
import BoxTree.Proofs.VariableNames

/-! Which class a generated name is read back with when a node declares it, and which edges then reuse the variable. The
class is told by letter case alone, so it comes back only if the letters at the start of the object type have case to
show. -/

namespace BoxTree

namespace Binding

private theorem stemOf_numbered (base : Wording) (number : Nat) : stemOf (numbered base number) = base := by
  have digits : ∀ letter ∈ ((Nat.toDigits 10 number).map Letter.char).reverse, decide (letter ≠ .char '_') = true := by
    intro letter member
    exact decide_eq_true (ne_of_mem_of_not_mem (List.mem_reverse.mp member) (underscore_not_mem_digits number))
  have backwards : (numbered base number).letters.reverse =
      ((Nat.toDigits 10 number).map Letter.char).reverse ++ .char '_' :: base.letters.reverse := by
    simp [letters_numbered]
  rw [stemOf, backwards, List.dropWhile_append_of_pos digits]
  simp

/-- Letters that show a class. Upper case shows a set if some letter is upper case or becomes so and no letter stays in
lower case. Lower case shows a single object unless upper-case letters stay among letters of which none is lower case or
becomes so. -/
def ShowsClass (start : List Char) : Bool → Prop
  | true => (∃ c ∈ start, Text.isUpperLetter c ∨ Text.upperLetter c ≠ [c]) ∧
      ∀ c ∈ start, Text.isLowerLetter c → Text.upperLetter c ≠ [c]
  | false => (∃ c ∈ start, Text.isUpperLetter c) → ∃ c ∈ start, Text.isLowerLetter c ∨ Text.lowerLetter c ≠ [c]

private theorem standIns_start (objectType : Wording) (width : Int) :
    (Wording.ofLetters (takeTo width objectType.letters)).standIns = takeTo width objectType.standIns := by
  rw [Wording.standIns_eq, Wording.letters_ofLetters, Wording.standIns_eq, takeTo, takeTo, apply_ite (List.map _),
    List.map_take, List.map_take, List.length_map]

private theorem isUpper_stem (objectType : Wording) (quantifiesSet : Bool) (width : Int) :
    (stem objectType quantifiesSet width).isUpper = quantifiesSet ↔
      ShowsClass (takeTo width objectType.standIns) quantifiesSet := by
  cases quantifiesSet with
  | true =>
    have told := Text.isUpper_upper (String.ofList (takeTo width objectType.standIns))
    rw [Text.upper, String.toList_ofList] at told
    rw [stem, if_pos rfl, Wording.isUpper, Wording.standIns_upper, standIns_start]
    exact told
  | false =>
    have told := Text.isUpper_lower (String.ofList (takeTo width objectType.standIns))
    rw [Text.lower, String.toList_ofList] at told
    rw [stem, if_neg Bool.false_ne_true, Wording.isUpper, Wording.standIns_lower, standIns_start, ← Bool.not_eq_true,
      told, ShowsClass, not_and]
    refine imp_congr_right fun _ => ?_
    push Not
    simp only [imp_iff_not_or, not_not]

end Binding

variable {α β : Type}

/-- A node declares a variable, and none of its type and class before it. -/
def Node.DeclaresFirst (node : Node α β) (fresh : Variable α) : Prop :=
  ∃ before after, node.declaredVariables = before ++ fresh :: after ∧
    ∀ earlier ∈ before, ¬ (earlier.objectType = fresh.objectType ∧ earlier.quantifiesSet = fresh.quantifiesSet)

private theorem Node.DeclaresFirst.introducer_eq {node : Node α β} {fresh : Variable α}
    (declares : node.DeclaresFirst fresh) :
    fresh.introducer = node.id := by
  obtain ⟨before, after, split, _⟩ := declares
  exact (Node.of_mem_declaredVariables (split ▸ List.mem_append_right _ List.mem_cons_self)).1

namespace Ledger

/-- The edges that leave a variable's introducer carry it exactly if they have its type and class, and so has every edge
that carries it. -/
structure Reuses (ledger : Ledger α) (key : Nat) (fresh : Variable α) : Prop where
  known : ledger.known[key]? = some fresh
  leaving : ∀ assigned ∈ ledger.assignments, assigned.edge.source = fresh.introducer →
    (assigned.key = key ↔ assigned.edge.objectType? = some fresh.objectType ∧
      assigned.dependency.quantifiesSet = fresh.quantifiesSet)
  carrying : ∀ assigned ∈ ledger.assignments, assigned.key = key →
    assigned.edge.objectType? = some fresh.objectType ∧ assigned.dependency.quantifiesSet = fresh.quantifiesSet

variable [DecidableEq α] {order : List (Node α β)} {edges : List (Edge α)} {ledger : Ledger α}

/-- While no edge is visited, a node holds only what it introduces. -/
theorem Coherent.held?_eq_none (coherent : ledger.Coherent) (unvisited : ledger.assignments = []) {node : α}
    {objectType : Wording} {quantifiesSet : Bool} (others : ∀ known ∈ ledger.known, known.introducer = node →
      ¬ (known.objectType = objectType ∧ known.quantifiesSet = quantifiesSet)) :
    ledger.held? node objectType quantifiesSet = none := by
  rw [held?_eq_none_iff]
  rintro holding held rfl ⟨known, found, fits⟩
  obtain ⟨same, again, path, _⟩ := coherent.traced holding held
  obtain rfl : known = same := Option.some.inj (found.symm.trans again)
  refine others known (List.mem_of_getElem? found) ?_ fits
  rcases Relation.ReflTransGen.cases_tail path with here | ⟨_, _, assigned, listed, _⟩
  · exact here.symm
  · rw [unvisited] at listed
    cases listed

private theorem held?_declare (unique : (order.map (·.id)).Nodup) {node : Node α β} (member : node ∈ order)
    {fresh : Variable α} (declares : node.DeclaresFirst fresh) :
    ∃ key, (declare order).known[key]? = some fresh ∧
      (declare order).held? node.id fresh.objectType fresh.quantifiesSet = some key := by
  obtain ⟨objectType, quantifiesSet, introducer, declared⟩ := fresh
  obtain rfl : introducer = node.id := declares.introducer_eq
  obtain ⟨before, after, split, first⟩ := declares
  obtain ⟨nodesBefore, nodesAfter, rfl⟩ := List.append_of_mem member
  let earlier := nodesBefore.flatMap (·.declaredVariables) ++ before
  let later := after ++ nodesAfter.flatMap (·.declaredVariables)
  have all : (nodesBefore ++ node :: nodesAfter).flatMap (·.declaredVariables) =
      earlier ++ ⟨objectType, quantifiesSet, node.id, declared⟩ :: later := by
    simp [earlier, later, split]
  obtain ⟨coherent, known, unvisited, _⟩ := coherent_empty.foldl_introduce earlier
  have others : ∀ known ∈ earlier, known.introducer = node.id →
      ¬ (known.objectType = objectType ∧ known.quantifiesSet = quantifiesSet) := by
    intro other listed atNode
    rcases List.mem_append.mp listed with elsewhere | here
    · obtain ⟨another, isNode, declares⟩ := List.mem_flatMap.mp elsewhere
      have sameId : another.id = node.id := (Node.of_mem_declaredVariables declares).1.symm.trans atNode
      rw [List.map_append, List.map_cons, List.nodup_append] at unique
      exact False.elim (unique.2.2 _ (List.mem_map_of_mem isNode) _ List.mem_cons_self sameId)
    · exact first other here
  have none := coherent.held?_eq_none unvisited (by rw [known]; exact others)
  have introduced := held?_introduce coherent none declared .none
  obtain ⟨_, _, _, more⟩ :=
    (coherent.introduce ⟨objectType, quantifiesSet, node.id, declared⟩ .none).foldl_introduce later
  rw [declare_eq, all, List.foldl_append, List.foldl_cons]
  exact ⟨_, more.known_eq List.getElem?_concat_length, more.held? (coherent.introduce _ _) introduced⟩

private theorem Binds.extends {edge : Edge α} {sourceEnd : Endpoint} {dependency : DependencyType} {next : Ledger α}
    (binds : ledger.Binds edge sourceEnd dependency next) : ledger.Extends next := by
  cases binds with
  | reused found => exact extends_pass _ _ _ _ _
  | fresh none => exact (extends_introduce _ _ _).trans (extends_pass _ _ _ _ _)

/-- What is declared stands when every edge is visited. -/
theorem extends_settle (settled : Binding.settle order edges = .ok ledger) : (declare order).Extends ledger := by
  have step (done : List (Edge α)) (edge : Edge α) (rest : List (Edge α)) (ledger next : Ledger α)
      (split : visits order edges = done ++ edge :: rest) (extended : (declare order).Extends ledger)
      (made : visit order ledger edge = .ok next) : (declare order).Extends next := by
    have member : edge ∈ visits order edges := split ▸ List.mem_append_right _ List.mem_cons_self
    obtain ⟨sourceEnd, dependency, _, _, binds⟩ := binds_visit member made
    exact extended.trans binds.extends
  exact foldlM_keeps step (.refl _) settled

private theorem reuses_of_declaresFirst (unique : (order.map (·.id)).Nodup)
    (settled : Binding.settle order edges = .ok ledger) {node : Node α β} (member : node ∈ order) {fresh : Variable α}
    (declares : node.DeclaresFirst fresh) : ∃ key, ledger.Reuses key fresh := by
  have visited := visited_settle settled
  have more := extends_settle settled
  obtain ⟨key, known, held⟩ := held?_declare unique member declares
  have known := more.known_eq known
  have held := more.held? (visited_declare order).coherent held
  have carrying (assigned : Assignment α) (listed : assigned ∈ ledger.assignments) (same : assigned.key = key) :
      assigned.edge.objectType? = some fresh.objectType ∧ assigned.dependency.quantifiesSet = fresh.quantifiesSet :=
    visited.fits listed (same ▸ known)
  refine ⟨key, known, ?_, carrying⟩
  intro assigned listed atNode
  refine ⟨carrying assigned listed, ?_⟩
  rintro ⟨type, class'⟩
  obtain ⟨_, sourceEnd, atSource, first⟩ := visited.chosen assigned listed
  have sameType : sourceEnd.objectType = fresh.objectType := by simpa [Edge.objectType?, atSource] using type
  rw [sameType, class', atNode, declares.introducer_eq, held] at first
  exact (Option.some.inj first).symm

end Ledger

/-- A name made for a dependency is read back with its class exactly if the letters it begins with show that class.
Whichever class is read, a node that declares the name reuses the variable for exactly those of its edges that have its
object type and that class, under the same name. -/
theorem generated_name_reused {α β : Type} [DecidableEq α] (objectType : Wording) (dependency : DependencyType)
    (width : Int) (number : Nat) :
    let name := Binding.numbered (Binding.baseName objectType dependency width) number
    (Binding.declaredQuantifiesSet name = dependency.quantifiesSet ↔
      Binding.ShowsClass (Binding.takeTo width objectType.standIns) dependency.quantifiesSet) ∧
    ∀ (order : List (Node α β)) (edges : List (Edge α)) (otherWidth : Int), (order.map (·.id)).Nodup →
      (∀ edge ∈ Binding.dependencyEdges order edges, edge.dangling? order = none) →
      ∀ node ∈ order, node.DeclaresFirst ⟨objectType, Binding.declaredQuantifiesSet name, node.id, some name⟩ →
      ∃ ledger bindings key, Binding.settle order edges = .ok ledger ∧
        propagate order edges otherWidth = .ok bindings ∧
        ledger.Shows (order.map (·.id)) (Binding.names order edges otherWidth ledger.known) bindings ∧
        (Binding.names order edges otherWidth ledger.known)[key]? = some name ∧
        ledger.Reuses key ⟨objectType, Binding.declaredQuantifiesSet name, node.id, some name⟩ := by
  refine ⟨?_, ?_⟩
  · rw [Binding.declaredQuantifiesSet, Binding.stemOf_numbered]
    exact Binding.isUpper_stem objectType dependency.quantifiesSet width
  · intro order edges otherWidth unique resolved node member declares
    obtain ⟨ledger, settled⟩ := exists_settle fun edge member => usable_of_dangling? (resolved edge member)
    obtain ⟨bindings, found, shows'⟩ := Ledger.exists_shows otherWidth unique settled
    obtain ⟨key, reuses⟩ := Ledger.reuses_of_declaresFirst unique settled member declares
    have named := (Ledger.picked_names order edges otherWidth reuses.known).declared _ rfl
    exact ⟨ledger, bindings, key, settled, found, shows', named, reuses⟩

/-- A box that declares a variable and has two dependencies of its object type on a second box: one between single
objects and one between sets. -/
def redeclared (name objectType : Wording) : List (Node Nat Nat) × List (Edge Nat) :=
  let box (id : Nat) (declared : List ObjectVariable) : Node Nat Nat :=
    ⟨id, .box ⟨"event", [("one", ⟨"one", false, [objectType]⟩), ("many", ⟨"many", true, [objectType]⟩)], declared, id⟩⟩
  let depends (qualifier : Wording) : Edge Nat :=
    ⟨0, 1, some ⟨qualifier, objectType⟩, some ⟨qualifier, objectType⟩, none⟩
  ([box 0 [⟨name, objectType⟩], box 1 []], [depends "one", depends "many"])

set_option maxRecDepth 4000 in
theorem generated_name_reused_order :
    Binding.ShowsClass ['o', 'r'] true ∧
      ∃ ledger bindings key, Binding.settle (redeclared "OR_7" "order").1 (redeclared "OR_7" "order").2 = .ok ledger ∧
        propagate (redeclared "OR_7" "order").1 (redeclared "OR_7" "order").2 2 = .ok bindings ∧
        bindings.edges.map (fun shown => (shown.dependency, shown.name)) =
          ([(.simple, "or_0"), (.all, "OR_7")] : List (DependencyType × Wording)) ∧
        ledger.Reuses key ⟨"order", true, 0, some "OR_7"⟩ := by
  have named : Binding.numbered (Binding.baseName "order" .all 2) 7 = "OR_7" := by cbv
  have read : Binding.declaredQuantifiesSet "OR_7" = true := by cbv
  obtain ⟨readBack, reused⟩ := generated_name_reused (α := Nat) (β := Nat) "order" .all 2 7
  rw [named, read] at readBack reused
  obtain ⟨ledger, bindings, key, settled, found, _, _, reuses⟩ :=
    reused (redeclared "OR_7" "order").1 (redeclared "OR_7" "order").2 2 (by decide) (by decide) _ List.mem_cons_self
      ⟨[], [], by decide +kernel, by simp⟩
  have run : (propagate (redeclared "OR_7" "order").1 (redeclared "OR_7" "order").2 2).toOption.map
      (·.edges.map fun shown => (shown.dependency, shown.name)) =
        some ([(.simple, "or_0"), (.all, "OR_7")] : List (DependencyType × Wording)) := by cbv
  rw [found] at run
  exact ⟨readBack.mp rfl, ledger, bindings, key, settled, found, Option.some.inj run, reuses⟩

set_option maxRecDepth 4000 in
/-- A name made for a set of an object type without letters is read as that of a single object: the edge between single
objects takes the declared variable, and the edge between sets, whose name it was, gets a new one. -/
theorem caseless_name_misread :
    Binding.numbered (Binding.baseName "42" .all 2) 0 = "42_0" ∧
      Binding.declaredQuantifiesSet "42_0" ≠ DependencyType.all.quantifiesSet ∧
      (propagate (redeclared "42_0" "42").1 (redeclared "42_0" "42").2 2).toOption.map
        (·.edges.map fun shown => (shown.dependency, shown.name)) =
          some ([(.simple, "42_0"), (.all, "42_1")] : List (DependencyType × Wording)) := by
  refine ⟨by cbv, by decide +kernel, by cbv⟩

/-- The other way round, a letter that stays upper case is read as that of a set. -/
example : Binding.baseName "𝐀" .simple 2 = "𝐀" ∧ Binding.declaredQuantifiesSet "𝐀_0" = true := by
  decide +kernel

end BoxTree
