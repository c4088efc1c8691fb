import BoxTree.Proofs.FailedCommands

/-! Steps of commands that show no panel. What is said of the panels of a command is then said of the steps after them. -/

namespace BoxTree.Command

def Output.panel? : Output → Option Panel
  | panel shown => some shown
  | _ => none

def panels (outputs : List Output) : List Panel := outputs.filterMap Output.panel?

theorem panels_append_of_quiet {quiet : List Output} (none : panels quiet = []) (outputs : List Output) :
    panels (quiet ++ outputs) = panels outputs := by
  rw [panels, List.filterMap_append, ← panels, none, List.nil_append, ← panels]

/-- What holds of outputs after others without a panel too. -/
def Lasting (post : List Output → Prop) : Prop :=
  ∀ quiet outputs, panels quiet = [] → post outputs → post (quiet ++ outputs)

theorem lasting_quiet (also : Prop) : Lasting fun outputs => also ∧ panels outputs = [] := by
  rintro quiet outputs none ⟨holds, noPanel⟩
  exact ⟨holds, (panels_append_of_quiet none outputs).trans noPanel⟩

namespace Run

variable {α β : Type} {step : Run α} {next : α → Run β} {given : α → Prop} {reached : β → List Output → Prop}
  {ended : Ending → List Output → Prop}

theorem quiet_bind (first : Ensures step (fun value added => given value ∧ panels added = []) ended)
    (rest : ∀ value, given value → Ensures (next value) reached ended)
    (reachedLasts : ∀ value, Lasting (reached value)) (endedLasts : ∀ ending, Lasting (ended ending)) :
    Ensures (step >>= next) reached ended := by
  refine Ensures.bind first ?_ fun _ _ => id
  rintro value added ⟨holds, quiet⟩
  exact (rest value holds).weaken (fun value more => reachedLasts value added more quiet)
    fun ending more => endedLasts ending added more quiet

/-- A step for each item, up to the first one that ends the command. -/
theorem quiet_forM {ι : Type} {each : ι → Run Unit} {good : ι → Prop} {bad : ι → Ending → Prop}
    (ensures : ∀ item, Ensures (each item) (fun _ added => good item ∧ panels added = [])
      fun ending added => bad item ending ∧ panels added = []) (items : List ι) :
    Ensures (items.forM each) (fun _ added => (∀ item ∈ items, good item) ∧ panels added = [])
      fun ending added => (∃ item ∈ items, bad item ending) ∧ panels added = [] := by
  induction items with
  | nil => exact Ensures.pure ⟨List.forall_mem_nil _, rfl⟩
  | cons item rest ih =>
    have first := (ensures item).weaken (fun _ _ => id) fun _ _ ⟨failed, quiet⟩ =>
      (⟨⟨item, List.mem_cons_self, failed⟩, quiet⟩ : (∃ other ∈ item :: rest, bad other _) ∧ _)
    change Ensures (each item >>= fun _ => rest.forM each) _ _
    refine quiet_bind first ?_ (fun _ => lasting_quiet _) fun _ => lasting_quiet _
    intro _ holds
    refine ih.weaken (fun _ _ ⟨others, quiet⟩ => ⟨List.forall_mem_cons.mpr ⟨holds, others⟩, quiet⟩) ?_
    rintro ending added ⟨⟨other, listed, failed⟩, quiet⟩
    exact ⟨⟨other, List.mem_cons_of_mem _ listed, failed⟩, quiet⟩

theorem ofExcept_ensures {ε : Type} (explain : ε → Failure) (result : Except ε α) :
    Ensures (ofExcept explain result) (fun value added => result = .ok value ∧ panels added = [])
      fun ending added => (∃ error, result = .error error ∧ ending = .failed (explain error)) ∧ panels added = [] := by
  cases result with
  | ok value => exact Ensures.pure ⟨rfl, rfl⟩
  | error error => exact Ensures.throw ⟨⟨error, rfl, rfl⟩, rfl⟩

section Steps

variable {surroundings : Surroundings} {general : General}

private theorem configure_ensures (config : Log.Config) :
    Ensures (configure config) (fun _ added => True ∧ panels added = []) ended :=
  Ensures.configure ⟨trivial, rfl⟩

theorem settings_ensures {settings : Option Path} {chosen : Settings} (chooses : surroundings.Chooses settings chosen)
    (lasting : ∀ ending, Lasting (ended ending)) :
    Ensures (Run.settings surroundings general settings) (fun found added => chosen = found ∧ panels added = []) ended := by
  cases settings with
  | none => exact Ensures.pure ⟨chooses.symm, rfl⟩
  | some path =>
    obtain ⟨place, known, loaded⟩ := chooses
    rw [Run.settings, expanded, known, pure_bind, loaded, orTell, pure_bind]
    exact quiet_bind (configure_ensures _) (fun _ _ => Ensures.pure ⟨rfl, rfl⟩) (fun _ => lasting_quiet _) lasting

theorem compilation_ensures {path : Path} {settings : Option Path} {found : DocumentGraph × Compilation Wording Fields}
    (compiles : surroundings.Compiles path settings found) (lasting : ∀ ending, Lasting (ended ending)) :
    Ensures (compilation surroundings general path settings) (fun value added => found = value ∧ panels added = [])
      ended := by
  obtain ⟨graph, result⟩ := found
  obtain ⟨chosen, chooses, ⟨place, known, accepted⟩, compiled⟩ := compiles
  have quietly (value : DocumentGraph × Compilation Wording Fields) := lasting_quiet ((graph, result) = value)
  apply quiet_bind (settings_ensures chooses lasting) _ quietly lasting
  rintro _ rfl
  rw [Run.graph, expanded, known, pure_bind, accepted, orTell, pure_bind, compiled, ofExcept, pure_bind]
  have logged : Ensures MonadState.get (fun (_ : Trace) added => True ∧ panels added = []) ended :=
    Ensures.get fun _ => ⟨trivial, rfl⟩
  apply quiet_bind logged _ quietly lasting
  intro trace _
  have quiet (lines : List Log.Line) : panels (lines.map .log) = [] := by
    simp [panels, List.filterMap_map, Function.comp_def, Output.panel?]
  have put (lines : List Log.Line) : Ensures (putAll (lines.map .log)) (fun _ added => True ∧ panels added = []) ended :=
    Ensures.putAll ⟨trivial, quiet lines⟩
  exact quiet_bind (put _) (fun _ _ => Ensures.pure ⟨rfl, rfl⟩) quietly lasting

/-- What a command comes to once its variables are read. -/
theorem request_ensures {command : String} {words : List String} {wanted : Task} {seen : Surroundings}
    (read : Task.read command words = .ok wanted) (sees : surroundings.Sees general seen)
    {reached : Unit → List Output → Prop} (ensures : Ensures (task seen general command wanted) reached ended)
    (reachedLasts : ∀ value, Lasting (reached value)) (endedLasts : ∀ ending, Lasting (ended ending)) :
    Ensures (Run.request surroundings (.run general command words)) reached ended := by
  have silent : Adds (fun output => output.panel? = none) (withVariables surroundings general) :=
    withVariables_adds surroundings general (fun _ => rfl) fun _ => rfl
  have extended : Ensures (withVariables surroundings general) (fun found added => found = seen ∧ panels added = [])
      ended :=
    ((withVariables_finds surroundings general).ensures sees silent).weaken
      (fun _ _ ⟨same, quiet⟩ => ⟨same, List.filterMap_eq_nil_iff.mpr quiet⟩) fun _ _ => False.elim
  rw [Run.request]
  simp only [read]
  apply quiet_bind (configure_ensures _) _ reachedLasts endedLasts
  intro _ _
  apply quiet_bind extended _ reachedLasts endedLasts
  rintro _ rfl
  exact ensures

end Steps
end Run
end BoxTree.Command
