import BoxTree.Command.Run
import Mathlib

/-! Assertions about commands under way. A step only ever adds to what was put out, and it gives a value or ends the
command. -/

namespace BoxTree.Command.Run

variable {α β : Type} {step : Run α} {next : α → Run β}

/-- What comes after a step is run only if the step gives a value. -/
theorem run_bind (trace : Trace) :
    (step >>= next).run.run trace =
      match step.run.run trace with
      | (.ok value, trace) => (next value).run.run trace
      | (.error ending, trace) => (.error ending, trace) := by
  cases ran : step.run.run trace with
  | mk result after =>
    rw [ExceptT.run_bind, StateT.run_bind, ran]
    cases result <;> rfl

theorem throw_bind (ending : Ending) : (throw ending >>= next) = throw ending := rfl

/-- Whatever was put out before, the step gives a value with `given` or ends the command with `ended`, each with what
it adds to the outputs. -/
def Ensures (step : Run α) (given : α → List Output → Prop) (ended : Ending → List Output → Prop) : Prop :=
  ∀ trace, ∃ added, (step.run.run trace).2.outputs = trace.outputs ++ added ∧
    match (step.run.run trace).1 with
    | .ok value => given value added
    | .error ending => ended ending added

namespace Ensures

variable {given other : α → List Output → Prop} {ended stopped : Ending → List Output → Prop}
  {reached : β → List Output → Prop}

theorem pure {value : α} (holds : given value []) : Ensures (Pure.pure value) given ended :=
  fun _ => ⟨[], (List.append_nil _).symm, holds⟩

theorem throw {ending : Ending} (holds : ended ending []) : Ensures (MonadExcept.throw ending : Run α) given ended :=
  fun _ => ⟨[], (List.append_nil _).symm, holds⟩

theorem get {given : Trace → List Output → Prop} (holds : ∀ trace, given trace []) :
    Ensures (MonadState.get : Run Trace) given ended :=
  fun trace => ⟨[], (List.append_nil _).symm, holds trace⟩

theorem putAll {outputs : List Output} {given : Unit → List Output → Prop} (holds : given () outputs) :
    Ensures (Run.putAll outputs) given ended :=
  fun _ => ⟨outputs, rfl, holds⟩

theorem configure {config : Log.Config} {given : Unit → List Output → Prop} (holds : given () []) :
    Ensures (Run.configure config) given ended :=
  fun _ => ⟨[], (List.append_nil _).symm, holds⟩

theorem bind (first : Ensures step other stopped)
    (rest : ∀ value added, other value added → Ensures (next value) (fun value more => reached value (added ++ more))
      fun ending more => ended ending (added ++ more))
    (early : ∀ ending added, stopped ending added → ended ending added) :
    Ensures (step >>= next) reached ended := by
  intro trace
  obtain ⟨added, grown, holds⟩ := first trace
  rw [run_bind]
  cases ran : step.run.run trace with
  | mk result after =>
    rw [ran] at grown holds
    cases result with
    | error ending => exact ⟨added, grown, early ending added holds⟩
    | ok value =>
      obtain ⟨more, grownAgain, holds⟩ := rest value added holds after
      refine ⟨added ++ more, ?_, holds⟩
      rw [grownAgain, grown, List.append_assoc]

theorem weaken (holds : Ensures step other stopped) (values : ∀ value added, other value added → given value added)
    (endings : ∀ ending added, stopped ending added → ended ending added) : Ensures step given ended := by
  intro trace
  obtain ⟨added, grown, holds⟩ := holds trace
  refine ⟨added, grown, ?_⟩
  split at holds
  next value ran => exact values value added holds
  next ending ran => exact endings ending added holds

/-- What a whole command comes to. -/
theorem outcome {command : Run Unit} {given : Unit → List Output → Prop} (holds : Ensures command given ended) :
    command.outcome.ending = .success ∧ given () command.outcome.outputs ∨
      ended command.outcome.ending command.outcome.outputs := by
  obtain ⟨added, grown, holds⟩ := holds ⟨.initial, []⟩
  unfold Run.outcome
  cases ran : command.run.run ⟨.initial, []⟩ with
  | mk result trace =>
    rw [ran] at grown holds
    obtain rfl : trace.outputs = added := grown
    cases result with
    | ok => exact .inl ⟨rfl, holds⟩
    | error ending => exact .inr holds

end Ensures

def Adds (allowed : Output → Prop) (step : Run α) : Prop :=
  step.Ensures (fun _ added => ∀ output ∈ added, allowed output) fun _ added => ∀ output ∈ added, allowed output

namespace Adds

variable {allowed other : Output → Prop}

theorem mono (adds : Adds allowed step) (more : ∀ output, allowed output → other output) : Adds other step :=
  Ensures.weaken adds (fun _ _ every output member => more output (every output member))
    fun _ _ every output member => more output (every output member)

theorem pure (value : α) : Adds allowed (Pure.pure value) := Ensures.pure (List.forall_mem_nil _)

theorem throw (ending : Ending) : Adds allowed (MonadExcept.throw ending : Run α) :=
  Ensures.throw (List.forall_mem_nil _)

theorem get : Adds allowed (MonadState.get : Run Trace) := Ensures.get fun _ => List.forall_mem_nil _

theorem configure (config : Log.Config) : Adds allowed (Run.configure config) :=
  Ensures.configure (List.forall_mem_nil _)

theorem put {output : Output} (holds : allowed output) : Adds allowed (Run.put output) :=
  Ensures.putAll (List.forall_mem_singleton.mpr holds)

theorem putAllMap {ι : Type} {shown : ι → Output} (holds : ∀ item, allowed (shown item)) (items : List ι) :
    Adds allowed (Run.putAll (items.map shown)) :=
  Ensures.putAll (List.forall_mem_map.mpr fun item _ => holds item)

theorem ofExcept {ε : Type} (explain : ε → Failure) (result : Except ε α) :
    Adds allowed (Run.ofExcept explain result) := by
  cases result with
  | ok value => exact pure value
  | error error => exact throw _

theorem bind (first : Adds allowed step) (rest : ∀ value, Adds allowed (next value)) :
    Adds allowed (step >>= next) := by
  have followed (value : α) (added : List Output) (holds : ∀ output ∈ added, allowed output) : (next value).Ensures
      (fun _ more => ∀ output ∈ added ++ more, allowed output) fun _ more => ∀ output ∈ added ++ more, allowed output :=
    Ensures.weaken (rest value) (fun _ _ holdsMore => List.forall_mem_append.mpr ⟨holds, holdsMore⟩)
      fun _ _ holdsMore => List.forall_mem_append.mpr ⟨holds, holdsMore⟩
  exact Ensures.bind first followed fun _ _ => id

theorem forM {ι : Type} {step : ι → Run Unit} (each : ∀ item, Adds allowed (step item)) (items : List ι) :
    Adds allowed (items.forM step) := by
  induction items with
  | nil => exact pure ()
  | cons item rest ih =>
    change Adds allowed (step item >>= fun _ => rest.forM step)
    exact bind (each item) fun _ => ih

end Adds

/-- Whatever was logged and put out before, the step gives the one value that is wanted, or fails if there is none. -/
def Finds (step : Run α) (wanted : α → Prop) : Prop :=
  ∃ result, (∀ trace, (step.run.run trace).1 = result) ∧ (∀ value, result = .ok value ↔ wanted value) ∧
    ∀ ending, result = .error ending → ending.exitCode ≠ 0

namespace Finds

variable {wanted : α → Prop} {reached : β → Prop}

theorem pure (value : α) : Finds (Pure.pure value) (value = ·) :=
  ⟨.ok value, fun _ => rfl, fun other => by simp, nofun⟩

theorem throw {ending : Ending} (failed : ending.exitCode ≠ 0) :
    Finds (MonadExcept.throw ending : Run α) fun _ => False :=
  ⟨.error ending, fun _ => rfl, fun _ => by simp, fun other same => Except.error.inj same ▸ failed⟩

theorem putAll (outputs : List Output) : Finds (Run.putAll outputs) fun _ => True :=
  ⟨.ok (), fun _ => rfl, fun _ => by simp, nofun⟩

theorem configure (config : Log.Config) : Finds (Run.configure config) fun _ => True :=
  ⟨.ok (), fun _ => rfl, fun _ => by simp, nofun⟩

theorem congr {other : α → Prop} (finds : Finds step wanted) (same : ∀ value, wanted value ↔ other value) :
    Finds step other := by
  obtain ⟨result, settles, ok, failed⟩ := finds
  exact ⟨result, settles, fun value => (ok value).trans (same value), failed⟩

theorem unique {value other : α} (finds : Finds step wanted) (holds : wanted value) (also : wanted other) :
    value = other := by
  obtain ⟨_, _, ok, _⟩ := finds
  exact Except.ok.inj (((ok value).mpr holds).symm.trans ((ok other).mpr also))

theorem bind {following : α → β → Prop} (first : Finds step wanted)
    (rest : ∀ value, wanted value → Finds (next value) (following value)) :
    Finds (step >>= next) fun value => ∃ found, wanted found ∧ following found value := by
  obtain ⟨result, settles, ok, failed⟩ := first
  have ran (trace : Trace) : ((step >>= next).run.run trace).1 =
      result >>= fun value => ((next value).run.run (step.run.run trace).2).1 := by
    rw [run_bind, ← settles trace]
    cases step.run.run trace with
    | mk found after => cases found <;> rfl
  cases result with
  | error ending =>
    refine ⟨.error ending, ran, ?_, fun other same => Except.error.inj same ▸ failed ending rfl⟩
    intro value
    simp [← ok]
  | ok value =>
    obtain ⟨result, settles, okAgain, failed⟩ := rest value ((ok value).mp rfl)
    refine ⟨result, fun trace => (ran trace).trans (settles _), ?_, failed⟩
    intro other
    simp [okAgain, ← ok]

theorem guard {guarded other : Run α} {holds : Bool} (finds : Finds guarded wanted)
    (fails : Finds other fun _ => False) :
    Finds (if holds then guarded else other) fun value => holds = true ∧ wanted value := by
  cases holds with
  | true => exact finds.congr fun _ => by simp
  | false => exact fails.congr fun _ => by simp

/-- What is logged on the way does not count. -/
theorem log_bind {lines : Trace → List Output} {next : Unit → Run β} (rest : Finds (next ()) reached) :
    Finds (MonadState.get >>= fun trace => Run.putAll (lines trace) >>= next) reached := by
  obtain ⟨result, settles, others⟩ := rest
  exact ⟨result, fun trace => settles _, others⟩

theorem forM {ι : Type} {step : ι → Run Unit} {wanted : ι → Prop}
    (each : ∀ item, Finds (step item) fun _ => wanted item) (items : List ι) : Finds (items.forM step) fun _ => ∀ item ∈ items, wanted item := by
  induction items with
  | nil => exact (pure ()).congr fun _ => by simp
  | cons item rest ih => exact ((each item).bind fun _ _ => ih).congr fun _ => by simp

/-- A step for which there is the wanted value gives it, beside what it puts out. -/
theorem ensures {allowed : Output → Prop} {value : α} (finds : Finds step wanted) (holds : wanted value)
    (adds : Adds allowed step) :
    Ensures step (fun found added => found = value ∧ ∀ output ∈ added, allowed output) fun _ _ => False := by
  obtain ⟨result, settles, ok, _⟩ := finds
  intro trace
  obtain ⟨added, grown, allAllowed⟩ := adds trace
  refine ⟨added, grown, ?_⟩
  rw [settles trace, (ok value).mpr holds] at allAllowed ⊢
  exact ⟨rfl, allAllowed⟩

theorem outcome {command : Run Unit} {wanted : Unit → Prop} (finds : Finds command wanted) :
    command.outcome.ending.exitCode = 0 ↔ wanted () := by
  obtain ⟨result, settles, ok, failed⟩ := finds
  have came := settles ⟨.initial, []⟩
  unfold Run.outcome
  cases ran : command.run.run ⟨.initial, []⟩ with
  | mk found trace =>
    rw [ran] at came
    obtain rfl : found = result := came
    cases found with
    | ok => simp [← ok, Ending.exitCode]
    | error ending => simpa [← ok] using failed ending rfl

end Finds
end BoxTree.Command.Run
