import BoxTree.Graph.Cycle

/-! Linear orders: starting from the roots, a node is taken once all of its parents are, so every node
comes after its parents. The work is a fold over the nodes that wait and the nodes already taken. -/

namespace BoxTree

/-- Which waiting node is looked at first. -/
inductive QueueOrder where
  /-- More parents first; nodes with equally many keep their order. -/
  | parentCount
  /-- The order in which nodes began to wait. -/
  | insertion
deriving DecidableEq

namespace QueueOrder

def all : List QueueOrder := [parentCount, insertion]

def name : QueueOrder → String
  | parentCount => "parent_count"
  | insertion => "insertion"

def ofName? (name : String) : Option QueueOrder := all.find? (·.name = name)

def unknownMessage (shown : String) : String := s!"{shown} is not a valid QueueOrder"

end QueueOrder

/-- One point of the fold: nodes that wait, and nodes taken so far. -/
structure Work (α : Type) where
  queue : List α
  reached : List α
deriving DecidableEq

def Work.isDone {α : Type} (work : Work α) : Bool := work.queue.isEmpty

inductive OrderError (α : Type) where
  /-- The nodes left waiting, and one cycle that they wait on. -/
  | cycle (waiting witness : List α)
  /-- Connected nodes that no root leads to. -/
  | unreachable (nodes : List α)
deriving DecidableEq

structure Linearization (α : Type) where
  order : List α
  roots : List α
  disconnected : List α
  error : Option (OrderError α)
deriving DecidableEq

variable {α β : Type} [DecidableEq α]

namespace Links

def parentCount (links : Links α) (id : α) : Nat := (links.parents id).length

/-- The nodes that wait, in the order in which a step looks at them. -/
def arrange (links : Links α) (order : QueueOrder) (queue : List α) : List α :=
  match order with
  | .insertion => queue
  | .parentCount =>
    let counted := queue.map fun id => (links.parentCount id, id)
    (counted.mergeSort fun a b => decide (b.1 ≤ a.1)).map (·.2)

/-- Counting parents once for each node gives the order of a stable sort by their number. -/
theorem arrange_parentCount (links : Links α) (queue : List α) :
    links.arrange .parentCount queue =
      queue.mergeSort fun a b => decide (links.parentCount b ≤ links.parentCount a) := by
  simp only [arrange]
  rw [← List.map_mergeSort
      (f := fun id => (links.parentCount id, id))
      (r := fun a b => decide (links.parentCount b ≤ links.parentCount a)) (fun _ _ _ _ => rfl),
    List.map_map]
  exact List.map_id _

def isReady (links : Links α) (reached : List α) (id : α) : Bool :=
  (links.parents id).all (· ∈ reached)

/-- Take the first waiting node whose parents are all taken; its children that neither wait nor are
taken begin to wait. Without such a node the work is stuck. -/
def step (links : Links α) (order : QueueOrder) (work : Work α) : Option (Work α) :=
  let queue := links.arrange order work.queue
  match queue.find? (links.isReady work.reached) with
  | none => none
  | some id =>
    let waiting := queue.erase id
    let reached := work.reached ++ [id]
    some ⟨waiting ++ (links.children id).filter (· ∉ waiting ++ reached), reached⟩

/-- The first waiting node that a step looks at and that is none of the ids. -/
def stranger? (links : Links α) (order : QueueOrder) (work : Work α) : Option α :=
  let looked :=
    match order with
    | .parentCount => work.queue
    | .insertion =>
      work.queue.takeWhile (fun id => id ∈ links.ids && !links.isReady work.reached id) ++
        (work.queue.dropWhile fun id => id ∈ links.ids && !links.isReady work.reached id).take 1
  looked.find? (· ∉ links.ids)

/-- The points of the fold from one on, until the work is done, or up to a number of steps; stuck work
ends them with `none`. A waiting node that is no id ends the fold when a step looks at it. -/
def points (links : Links α) (order : QueueOrder) : Nat → Work α → Except α (List (Option (Work α)))
  | 0, work => .ok [some work]
  | bound + 1, work =>
    if work.isDone then .ok [some work]
    else
      match links.stranger? order work, links.step order work with
      | some id, _ => .error id
      | none, none => .ok [some work, none]
      | none, some next => (some work :: ·) <$> points links order bound next

def unlisted (links : Links α) (work : Work α) : List α :=
  links.ids.filter (· ∉ work.queue ++ work.reached)

/-- An upper bound on the steps that are left: each step takes a node that waits or has yet to wait. -/
def remaining (links : Links α) (work : Work α) : Nat :=
  work.queue.length + (links.unlisted work).length

/-- Steps until the work is done or stuck, no more than a bound. -/
def advance (links : Links α) (order : QueueOrder) : Nat → Work α → Work α
  | 0, work => work
  | bound + 1, work =>
    if work.isDone then work
    else
      match links.step order work with
      | none => work
      | some next => advance links order bound next

def run (links : Links α) (order : QueueOrder) (work : Work α) : Work α :=
  links.advance order (links.remaining work) work

/-- Connected nodes without a root hold a cycle, and so does work that is stuck. Once the work is done,
the nodes it did not reach hang off no root. -/
def linearize (links : Links α) (order : QueueOrder) : Linearization α :=
  if links.roots.isEmpty && !links.connected.isEmpty then
    ⟨[], [], links.disconnected, some (.cycle links.connected (links.cycleBehind links.connected))⟩
  else
    let final := links.run order ⟨links.roots, []⟩
    let missed := links.connected.filter (· ∉ final.reached)
    let error :=
      if !final.isDone then some (.cycle final.queue (links.cycleBehind final.queue))
      else if missed.isEmpty then none
      else some (.unreachable missed)
    ⟨final.reached, links.roots, links.disconnected, error⟩

end Links

def linearize (nodes : List (Node α β)) (edges : List (Edge α)) (order : QueueOrder) :
    Except (LookupError α) (Linearization α) := do
  return (← Links.ofFragment nodes edges).linearize order

end BoxTree
