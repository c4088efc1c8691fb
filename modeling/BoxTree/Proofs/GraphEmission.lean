import BoxTree.Proofs.CompiledTexts
import BoxTree.Proofs.QuietSteps
import BoxTree.Proofs.WritableTrees

/-! What becomes of a graph that compiles without errors. Validation calls it valid before it knows whether the trees
can be written, and if they cannot, validation and compilation fail without a panel. -/

namespace BoxTree

private theorem Value.fingerprint_eq_error_iff {value : Value} {error : CanonicalError} :
    value.fingerprint = .error error ↔ value.canonical = .error error := by
  rw [fingerprint]
  cases value.canonical <;> simp [bind, Except.bind, pure, Except.pure]

private theorem Value.not_hasCanonical_of_error {value : Value} {error : CanonicalError}
    (failed : value.canonical = .error error) :
    ¬ value.HasCanonical := by
  rintro ⟨text, found⟩
  cases failed.symm.trans found

namespace Command

def validLine : Output := .line "✅ Graph valid!"

/-- The graph is called valid, and no panel is shown. -/
def Called (outputs : List Output) : Prop := validLine ∈ outputs ∧ panels outputs = []

private theorem lasting_called (also : Prop) : Lasting fun outputs => also ∧ Called outputs := by
  rintro quiet outputs none ⟨holds, called, noPanel⟩
  exact ⟨holds, List.mem_append_right _ called, (panels_append_of_quiet none outputs).trans noPanel⟩

namespace Run

private theorem ensures_called {step : Run Unit} {good : Prop} {bad : Ending → Prop}
    (quietly : Ensures step (fun _ added => good ∧ panels added = []) fun ending added => bad ending ∧ panels added = []) :
    Ensures step (fun _ added => good ∧ Called ([validLine] ++ added))
      fun ending added => bad ending ∧ Called ([validLine] ++ added) := by
  have after {more : List Output} (quiet : panels more = []) : Called ([validLine] ++ more) :=
    ⟨List.mem_cons_self, (panels_append_of_quiet rfl more).trans quiet⟩
  exact quietly.weaken (fun _ _ ⟨holds, quiet⟩ => ⟨holds, after quiet⟩) fun _ _ ⟨failed, quiet⟩ => ⟨failed, after quiet⟩

variable {surroundings : Surroundings} {general : General} {path : Path} {settings : Option Path}
  {found : DocumentGraph × Compilation Wording Fields} (compiles : surroundings.Compiles path settings found)
  (sound : found.2.errors = [])
include compiles sound

private theorem validate_ensures : Ensures (validate surroundings general path settings)
    (fun _ added => (∀ made ∈ found.2.trees, made.tree.encode.HasCanonical) ∧ Called added)
    fun ending added => (∃ made ∈ found.2.trees, ∃ error, made.tree.encode.canonical = .error error ∧
      ending = .failed (.canonical error)) ∧ Called added := by
  have shown (made : CompiledTree Wording Fields) : Ensures (do
      let digest ← ofExcept .canonical made.tree.encode.fingerprint
      put (.line s!"  Tree rooted at {made.root.displayed}: {made.tree.length} nodes, hash {shortDigest digest}"))
        (fun _ added => made.tree.encode.HasCanonical ∧ panels added = []) fun ending added =>
          (∃ error, made.tree.encode.canonical = .error error ∧ ending = .failed (.canonical error)) ∧
            panels added = [] := by
    have digested := ofExcept_ensures Failure.canonical made.tree.encode.fingerprint
    simp only [Value.fingerprint_eq_error_iff] at digested
    refine quiet_bind digested ?_ (fun _ => lasting_quiet _) fun _ => lasting_quiet _
    intro digest isDigest
    exact Ensures.putAll ⟨Value.exists_fingerprint_iff.mp ⟨digest, isDigest⟩, rfl⟩
  apply quiet_bind (compilation_ensures compiles fun _ => lasting_called _) _ (fun _ => lasting_called _)
    fun _ => lasting_called _
  rintro _ rfl
  have noFailure : found.2.failure? = none := by simp [Compilation.failure?, sound]
  simp only [noFailure]
  have told (text : String) {ended : Ending → List Output → Prop} :
      Ensures (put (.line text)) (fun _ added => True ∧ panels added = []) ended := Ensures.putAll ⟨trivial, rfl⟩
  have called : Ensures (put validLine) (fun _ added => added = [validLine]) fun _ _ => False := Ensures.putAll rfl
  refine Ensures.bind called ?_ fun _ _ => False.elim
  rintro _ _ rfl
  apply ensures_called
  apply quiet_bind (told _) _ (fun _ => lasting_quiet _) fun _ => lasting_quiet _
  intro _ _
  apply quiet_bind (told _) _ (fun _ => lasting_quiet _) fun _ => lasting_quiet _
  intro _ _
  exact quiet_forM shown found.2.trees

private theorem compile_ensures : Ensures (compile surroundings general path settings none false)
    (fun _ added => found.2.encode.HasCanonical ∧ panels added = [])
    fun ending added => (∃ error, found.2.encode.canonical = .error error ∧ ending = .failed (.canonical error)) ∧
      panels added = [] := by
  apply quiet_bind (compilation_ensures compiles fun _ => lasting_quiet _) _ (fun _ => lasting_quiet _)
    fun _ => lasting_quiet _
  rintro _ rfl
  have fine : found.2.isOk = true := List.isEmpty_iff.mpr sound
  have warned {ended : Ending → List Output → Prop} : Ensures
      (putAll (found.2.warnings.map fun warning => .notice s!"Warning: {warning.message.displayed}"))
      (fun _ added => True ∧ panels added = []) ended :=
    Ensures.putAll ⟨trivial, by simp [panels, List.filterMap_map, Function.comp_def, Output.panel?]⟩
  apply quiet_bind warned _ (fun _ => lasting_quiet _) fun _ => lasting_quiet _
  intro _ _
  simp only [fine, throw_bind]
  refine quiet_bind (ofExcept_ensures Failure.canonical found.2.encode.canonical) ?_ (fun _ => lasting_quiet _)
    fun _ => lasting_quiet _
  intro text isText
  exact Ensures.putAll ⟨⟨text, isText⟩, rfl⟩

end Run

/-- How validation ends for a graph that compiles without errors. -/
structure Validated (compilation : Compilation Wording Fields) (outcome : Outcome) : Prop where
  called : Called outcome.outputs
  ends : (∀ made ∈ compilation.trees, made.tree.Writable) ∧ outcome.ending = .success ∨
    ∃ made ∈ compilation.trees, ¬ made.tree.Writable ∧
      ∃ error, made.tree.encode.canonical = .error error ∧ outcome.ending = .failed (.canonical error)

/-- How compilation ends for a graph that compiles without errors. -/
structure Emitted (compilation : Compilation Wording Fields) (outcome : Outcome) : Prop where
  quiet : panels outcome.outputs = []
  ends : compilation.Writable ∧ outcome.ending = .success ∨ ¬ compilation.Writable ∧
    ∃ error, compilation.encode.canonical = .error error ∧ outcome.ending = .failed (.canonical error)

section Endings

variable {surroundings : Surroundings} {before after : List String} {general : General} {path : Path}
  {settings : Option Path} (asked : Request.read (before ++ "validate" :: after) = .ok (.run general "validate" after))
  (wanted : Task.read "validate" after = .ok (.validate path settings)) {seen : Surroundings}
  (sees : surroundings.Sees general seen) {found : DocumentGraph × Compilation Wording Fields}
  (compiles : seen.Compiles path settings found) (sound : found.2.errors = [])
include asked wanted sees compiles sound

private theorem validated_of_compiles : Validated found.2 (run surroundings (before ++ "validate" :: after)) := by
  have outcome := (Run.request_ensures wanted sees (Run.validate_ensures compiles sound) (fun _ => lasting_called _)
    fun _ => lasting_called _).outcome
  obtain ⟨_, _, _, made⟩ := compiles
  have writable : ∀ compiled ∈ found.2.trees, compiled.tree.encode.HasCanonical ↔ compiled.tree.Writable :=
    fun compiled member => (Graph.wellFormed_of_compile made compiled member).hasCanonical_encode_iff
  rw [run, asked]
  rcases outcome with ⟨success, every, called⟩ | ⟨⟨compiled, member, error, failed, ending⟩, called⟩
  · exact ⟨called, .inl ⟨fun compiled member => (writable compiled member).mp (every compiled member), success⟩⟩
  · have unwritable := mt (writable compiled member).mpr (Value.not_hasCanonical_of_error failed)
    exact ⟨called, .inr ⟨compiled, member, unwritable, error, failed, ending⟩⟩

private theorem emitted_of_compiles : Emitted found.2 (run surroundings (before ++ "compile" :: after)) := by
  have askedAgain := Request.read_other asked (List.mem_cons_self : "compile" ∈ Task.commands)
  have outcome := (Run.request_ensures (Task.read_compile wanted) sees (Run.compile_ensures compiles sound)
    (fun _ => lasting_quiet _) fun _ => lasting_quiet _).outcome
  obtain ⟨_, _, _, made⟩ := compiles
  have writable := Graph.hasCanonical_encode_iff_of_compile made
  rw [run, askedAgain]
  rcases outcome with ⟨success, canonical, quiet⟩ | ⟨⟨error, failed, ending⟩, quiet⟩
  · exact ⟨quiet, .inl ⟨writable.mp canonical, success⟩⟩
  · have unwritable := mt writable.mpr (Value.not_hasCanonical_of_error failed)
    exact ⟨quiet, .inr ⟨unwritable, error, failed, ending⟩⟩

end Endings

/-- A graph that compiles without errors is called valid, and no panel is shown for it. Validation succeeds if its trees
can be written, compilation if moreover no text beside the trees holds half a letter; otherwise canonical text is missing.
A value can be written if each part of it, down to the leaves, has a form in canonical text. -/
theorem run_emits (surroundings : Surroundings) {before after : List String} {general : General} {path : Path}
    {settings : Option Path}
    (asked : Request.read (before ++ "validate" :: after) = .ok (.run general "validate" after))
    (wanted : Task.read "validate" after = .ok (.validate path settings)) {seen : Surroundings}
    (sees : surroundings.Sees general seen) {found : DocumentGraph × Compilation Wording Fields}
    (compiles : seen.Compiles path settings found) (sound : found.2.errors = []) :
    Validated found.2 (run surroundings (before ++ "validate" :: after)) ∧
      Emitted found.2 (run surroundings (before ++ "compile" :: after)) ∧
      ∀ value : Value, (value.Writable → value.HasCanonical) ∧
        (value.TextsApart → value.HasCanonical → value.Writable) :=
  ⟨validated_of_compiles asked wanted sees compiles sound, emitted_of_compiles asked wanted sees compiles sound,
    fun _ => ⟨Value.Writable.hasCanonical, fun apart => apart.hasCanonical_iff_writable.mp⟩⟩

theorem run_emits_twoBoxes :
    let validated := run besideTwoBoxes ["validate", "g.json"]
    let compiled := run besideTwoBoxes ["compile", "g.json"]
    validated.ending = .success ∧ compiled.ending = .success ∧ validLine ∈ validated.outputs ∧
      panels validated.outputs = [] ∧ panels compiled.outputs = [] := by
  have asked : Request.read ([] ++ "validate" :: ["g.json"]) = .ok (.run {} "validate" ["g.json"]) := rfl
  have wanted : Task.read "validate" ["g.json"] = .ok (.validate (.ofText "g.json") none) := rfl
  obtain ⟨result, ⟨seen, sees, graph, compiles, sound, trees⟩, texts⟩ := passes_twoBoxes
  obtain ⟨⟨⟨called, quiet⟩, validates⟩, ⟨quietAgain, emits⟩, _⟩ :=
    run_emits besideTwoBoxes asked wanted sees compiles sound
  obtain ⟨_, _, _, made⟩ := compiles
  have writable := (Graph.hasCanonical_encode_iff_of_compile made).mp
    ((Compilation.hasCanonical_encode_iff (Graph.nodup_bindings_of_compile made)).mpr ⟨trees, texts⟩)
  rcases validates with ⟨_, validated⟩ | ⟨made, member, unwritable, _⟩
  · rcases emits with ⟨_, compiled⟩ | ⟨unwritable, _⟩
    · exact ⟨validated, compiled, called, quiet, quietAgain⟩
    · exact absurd writable unwritable
  · exact absurd (writable.trees made member) unwritable

/-- A box holds the first whole number that cannot be told from its successor as a double. -/
def largeNumber : String :=
  "\x7b\"nodes\":[\x7b\"id\":\"A\",\"eventType\":\"x\",\"box\":\x7b\"v\":9007199254740992\x7d\x7d,\x7b\"id\":\"B\",\"eventType\":\"x\"\x7d],\"edges\":[\x7b\"source\":\"A\",\"target\":\"B\"\x7d]\x7d"

def largeNumberDocument : Value :=
  .map [(.text "nodes", .list [
      .map [(.text "id", .text "A"), (.text "eventType", .text "x"),
        (.text "box", .map [(.text "v", .int 9007199254740992)])],
      .map [(.text "id", .text "B"), (.text "eventType", .text "x")]]),
    (.text "edges", .list [.map [(.text "source", .text "A"), (.text "target", .text "B")]])]

def largeNumberTree : DocumentTree := ⟨[.box [(.text "v", .int 9007199254740992)] [1], .box [] []], []⟩

def besideLargeNumber : Surroundings := ⟨Files.disk [("g.json", largeNumber)], [], "/root"⟩

private theorem graph_largeNumber : besideLargeNumber.disk.graph (.ofText "g.json") =
    (GraphDocument.read largeNumberDocument).toExcept.mapError .schema := by
  have found : besideLargeNumber.disk.look (.ofText "g.json") = .file largeNumber := rfl
  have read : Json.read (Disk.asLines largeNumber) = .ok largeNumberDocument := by cbv
  exact Disk.graph_json found rfl read rfl

/-- The graph compiles without errors and is called valid, then both commands fail, and no panel tells why. -/
theorem run_largeNumber_untold :
    let validated := run besideLargeNumber ["--no-dotenv", "validate", "g.json"]
    let compiled := run besideLargeNumber ["--no-dotenv", "compile", "g.json"]
    (∃ found, besideLargeNumber.Compiles (.ofText "g.json") none found ∧ found.2.errors = []) ∧
      validLine ∈ validated.outputs ∧ (∃ error, validated.ending = .failed (.canonical error)) ∧
      (∃ error, compiled.ending = .failed (.canonical error)) ∧
      panels validated.outputs = [] ∧ panels compiled.outputs = [] := by
  have asked : Request.read (["--no-dotenv"] ++ "validate" :: ["g.json"]) =
      .ok (.run { skipsVariables := true } "validate" ["g.json"]) := rfl
  have wanted : Task.read "validate" ["g.json"] = .ok (.validate (.ofText "g.json") none) := rfl
  have ran : (GraphDocument.read largeNumberDocument).toExcept.toOption.bind (fun graph =>
      (graph.compile {}).toOption.map fun result => (result.errors, result.trees.map (·.tree))) =
        some ([], [largeNumberTree]) := by cbv
  obtain ⟨found, compiles, told⟩ := exists_compiles known_graph graph_largeNumber _ ran
  obtain ⟨sound, trees⟩ := Prod.mk.inj told
  obtain ⟨made, member, isTree⟩ : ∃ made ∈ found.2.trees, made.tree = largeNumberTree :=
    List.mem_map.mp (trees ▸ List.mem_singleton_self _)
  have unwritable : ¬ made.tree.Writable := by
    rw [isTree]
    intro writable
    have content := writable.contents _ _ List.mem_cons_self
    rw [Value.hasCanonical_single_iff, Value.hasCanonical_int_iff] at content
    exact absurd content (by decide)
  have sees : besideLargeNumber.Sees { skipsVariables := true } besideLargeNumber := rfl
  obtain ⟨⟨called, quiet⟩, validates⟩ := validated_of_compiles asked wanted sees compiles sound
  obtain ⟨quietAgain, emits⟩ := emitted_of_compiles asked wanted sees compiles sound
  rcases validates with ⟨writable, _⟩ | ⟨_, _, _, error, _, validated⟩
  · exact absurd (writable made member) unwritable
  · rcases emits with ⟨writable, _⟩ | ⟨_, other, _, compiled⟩
    · exact absurd (writable.trees made member) unwritable
    · exact ⟨⟨found, compiles, sound⟩, called, ⟨error, validated⟩, ⟨other, compiled⟩, quiet, quietAgain⟩

end Command
end BoxTree
