import BoxTree.Proofs.CommandResults

/-! A command that does not succeed leaves all files alone: only its last but one step writes a file, and the line that
it puts out after that cannot fail. Left out are a write that breaks off half-way and a stream that takes no more. -/

namespace BoxTree.Command

def Output.isFile : Output → Bool
  | file _ _ => true
  | _ => false

/-- Whether an output comes beside the result of a command. -/
def Output.isAside : Output → Bool
  | notice _ | panel _ | log _ => true
  | line _ | table _ | file _ _ => false

def Unwritten (outputs : List Output) : Prop := ∀ output ∈ outputs, output.isFile = false

private theorem Unwritten.filesAfter {outputs : List Output} {ending : Ending} (unwritten : Unwritten outputs)
    (files : Files) :
    (Outcome.mk ending outputs).filesAfter files = files := by
  unfold Outcome.filesAfter
  induction outputs with
  | nil => rfl
  | cons output rest ih =>
    have noFile := unwritten output List.mem_cons_self
    cases output with
    | file path text => cases noFile
    | _ => exact ih fun output member => unwritten output (List.mem_cons_of_mem _ member)

namespace Run

variable {α β : Type}

abbrev WritesNothing (step : Run α) : Prop := step.Adds fun output => output.isFile = false

abbrev PutsAside (step : Run α) : Prop := step.Adds fun output => output.isAside = true

/-- A step that writes no file if it ends the command. -/
def WritesOnSuccess (step : Run α) : Prop := step.Ensures (fun _ _ => True) fun _ added => Unwritten added

section Rules

variable {step : Run α} {next : α → Run β}

private theorem WritesOnSuccess.bind (first : WritesNothing step) (rest : ∀ value, WritesOnSuccess (next value)) :
    WritesOnSuccess (step >>= next) := by
  have followed (value : α) (added : List Output) (unwritten : Unwritten added) : (next value).Ensures
      (fun _ _ => True) fun _ more => Unwritten (added ++ more) :=
    Ensures.weaken (rest value) (fun _ _ => id) fun _ more noMore => List.forall_mem_append.mpr ⟨unwritten, noMore⟩
  exact Ensures.bind first followed fun _ _ => id

end Rules

section Steps

theorem put_aside {output : Output} (aside : output.isAside = true) : PutsAside (put output) := .put aside

theorem putAll_aside {ι : Type} {shown : ι → Output} (aside : ∀ item, (shown item).isAside = true) (items : List ι) :
    PutsAside (putAll (items.map shown)) := .putAllMap aside items

private theorem refuse_aside (panel : Panel) : PutsAside (refuse panel : Run α) := by
  apply Adds.bind (put_aside rfl)
  intro _
  exact .throw .refused

private theorem orTell_aside {ε : Type} (told : ε → Told) (result : Except ε α) :
    PutsAside (orTell told result) := by
  unfold orTell
  split
  · exact .pure _
  · split
    · exact refuse_aside _
    · exact .throw _

variable (surroundings : Surroundings) (general : General)

private theorem expanded_aside (path : Path) : PutsAside (expanded surroundings path) := by
  unfold expanded
  split
  · exact .pure _
  · exact .throw _

private theorem settings_aside (path : Option Path) : PutsAside (Run.settings surroundings general path) := by
  cases path with
  | none => exact .pure _
  | some path =>
    apply Adds.bind (expanded_aside surroundings path)
    intro place
    apply Adds.bind (orTell_aside _ _)
    intro settings
    apply Adds.bind (.configure _)
    intro _
    exact .pure settings

private theorem graph_aside (path : Path) : PutsAside (Run.graph surroundings path) := by
  apply Adds.bind (expanded_aside surroundings path)
  intro place
  exact orTell_aside _ _

theorem tree_aside (path : Path) : PutsAside (Run.tree surroundings path) := by
  apply Adds.bind (expanded_aside surroundings path)
  intro place
  apply Adds.bind (orTell_aside _ _)
  intro tree
  split
  · exact refuse_aside _
  · exact .pure tree

theorem compilation_aside (path : Path) (settings : Option Path) :
    PutsAside (compilation surroundings general path settings) := by
  apply Adds.bind (settings_aside surroundings general settings)
  intro settings
  apply Adds.bind (graph_aside surroundings path)
  intro graph
  apply Adds.bind (.ofExcept _ _)
  intro result
  apply Adds.bind .get
  intro trace
  apply Adds.bind (putAll_aside (fun _ => rfl) _)
  intro _
  exact .pure _

/-- Reading a file of variables comes to notices and lines of the log. -/
theorem withVariables_adds {allowed : Output → Prop} (notices : ∀ text, allowed (.notice text))
    (logs : ∀ line, allowed (.log line)) : Adds allowed (withVariables surroundings general) := by
  unfold withVariables
  split
  · exact .pure surroundings
  · apply Adds.bind (.put (notices _))
    intro _
    exact .pure surroundings
  · apply Adds.bind (.ofExcept _ _)
    intro holds
    simp only [throw_bind]
    split
    · split
      · exact .pure surroundings
      · apply Adds.bind .get
        intro trace
        apply Adds.bind (.putAllMap logs _)
        intro _
        apply Adds.bind (.ofExcept _ _)
        intro environment
        exact .pure _
    · apply Adds.bind (.put (notices _))
      intro _
      exact .throw .refused

end Steps

end Run

end BoxTree.Command
