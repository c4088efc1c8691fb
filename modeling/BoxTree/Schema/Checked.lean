import BoxTree.Schema.Issue

/-! Results of checking a document. Independent checks report all of their issues, in order; a check
that needs an earlier result is made only if that result is good. -/

namespace BoxTree.Schema

inductive Checked (α : Type) where
  | good (value : α)
  | bad (issues : List Issue)

namespace Checked

variable {α β : Type}

def issues : Checked α → List Issue
  | good _ => []
  | bad issues => issues

def fail (cause : Cause) : Checked α := bad [⟨[], cause⟩]

protected def map (f : α → β) : Checked α → Checked β
  | good value => good (f value)
  | bad issues => bad issues

protected def seq (f : Checked (α → β)) (x : Checked α) : Checked β :=
  match f, x with
  | good f, good value => good (f value)
  | f, x => bad (f.issues ++ x.issues)

instance : Functor Checked where
  map := Checked.map

instance : Applicative Checked where
  pure := good
  seq f x := Checked.seq f (x ())

def andThen (x : Checked α) (check : α → Checked β) : Checked β :=
  match x with
  | good value => check value
  | bad issues => bad issues

def under (step : Step) : Checked α → Checked α
  | good value => good value
  | bad issues => bad (issues.map (·.under step))

def all : List (Checked α) → Checked (List α)
  | [] => good []
  | first :: rest => List.cons <$> first <*> all rest

def toExcept : Checked α → Except (List Issue) α
  | good value => .ok value
  | bad issues => .error issues

end Checked
end BoxTree.Schema
