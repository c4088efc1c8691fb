import BoxTree.Graph.Basic

/-! The quantifier of a dependency edge, which follows from whether its two qualifiers are multiple. -/

namespace BoxTree

inductive DependencyType where
  /-- One object on either side. -/
  | simple
  /-- Sets on both sides, and every object has a match. -/
  | all
  /-- A set at the source only. -/
  | existsInSource
  /-- A set at the target only. -/
  | existsInTarget
deriving DecidableEq

namespace DependencyType

def name : DependencyType → String
  | simple => "simple"
  | all => "all"
  | existsInSource => "existsInSource"
  | existsInTarget => "existsInTarget"

/-- Whether the bound variable ranges over a set. -/
def quantifiesSet : DependencyType → Bool
  | all | existsInSource => true
  | simple | existsInTarget => false

def ofMultiple (source target : Bool) : DependencyType :=
  match source, target with
  | true, true => all
  | true, false => existsInSource
  | false, true => existsInTarget
  | false, false => simple

end DependencyType

inductive LookupError (α : Type) where
  | unknownNode (id : α)
  | gateWithQualifier (id : α)
  | undeclaredQualifier (name : Wording)
deriving DecidableEq

def LookupError.message : LookupError Wording → Wording
  | unknownNode id => id
  | gateWithQualifier id => "Node '" ++ id ++ "' is a gate and declares no qualifiers"
  | undeclaredQualifier name => name

variable {α β : Type} [DecidableEq α]

def isMultiple (nodes : List (Node α β)) (id : α) (endpoint : Endpoint) : Except (LookupError α) Bool :=
  match findNode? nodes id with
  | none => .error (.unknownNode id)
  | some node =>
    match node.body with
    | .gate _ => .error (.gateWithQualifier id)
    | .box event =>
      match event.qualifiers.lookup endpoint.qualifier with
      | none => .error (.undeclaredQualifier endpoint.qualifier)
      | some qualifier => .ok qualifier.multiple

/-- The dependency type of an edge; a structural link has none. -/
def Edge.dependencyType (edge : Edge α) (nodes : List (Node α β)) :
    Except (LookupError α) (Option DependencyType) :=
  match edge.sourceEnd, edge.targetEnd with
  | some sourceEnd, some targetEnd => do
    let source ← isMultiple nodes edge.source sourceEnd
    let target ← isMultiple nodes edge.target targetEnd
    return some (.ofMultiple source target)
  | _, _ => .ok none

end BoxTree
