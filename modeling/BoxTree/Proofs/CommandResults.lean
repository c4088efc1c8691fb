import BoxTree.Proofs.CommandWords
import BoxTree.Proofs.RunSteps
import BoxTree.Proofs.WholeTexts

/-! When commands succeed, in terms of the files that they read. Validation and compilation succeed on the same ones. -/

namespace BoxTree

theorem Disk.document_json {disk : Disk} {path : Path} {text : String} (found : disk.look path = .file text)
    (json : path.isJson = true) : disk.document path = (Json.read (asLines text)).mapError .json := by
  rw [document, read?, readRaw?, found]
  simp [Except.map, Except.mapError, bind, Except.bind, json]

theorem Disk.graph_json {disk : Disk} {path : Path} {text : String} {document : Value}
    (found : disk.look path = .file text) (json : path.isJson = true) (read : Json.read (asLines text) = .ok document)
    (solid : document.isVoid = false) : disk.graph path = (GraphDocument.read document).toExcept.mapError .schema := by
  rw [graph, document_json found json, read]
  simp [Except.mapError, bind, Except.bind, solid]

namespace Command

namespace Surroundings

variable (surroundings : Surroundings)

/-- What a command sees once the file of variables is read that the command line names. -/
def Sees (general : General) (seen : Surroundings) : Prop :=
  match general.skipsVariables, general.variableFile with
  | _, none | true, some _ => surroundings = seen
  | false, some path =>
    surroundings.disk.holds path = .ok true ∧
      match (surroundings.disk.read? path).toOption.join with
      | none => surroundings = seen
      | some text =>
        ∃ environment, VariableFile.extend surroundings.environment text = .ok environment ∧
          { surroundings with environment } = seen

/-- The settings of a file, or the default ones. -/
def Chooses (settings : Option Path) (chosen : Settings) : Prop :=
  match settings with
  | none => {} = chosen
  | some path =>
    ∃ place, path.expanded? surroundings.home = some place ∧
      surroundings.disk.settings surroundings.environment place = .ok chosen

def ReadsGraph (path : Path) (graph : DocumentGraph) : Prop :=
  ∃ place, path.expanded? surroundings.home = some place ∧ surroundings.disk.graph place = .ok graph

def ReadsTree (path : Path) (tree : DocumentTree) : Prop :=
  ∃ place, path.expanded? surroundings.home = some place ∧ surroundings.disk.tree place = .ok tree ∧ tree.fault? = none

def Compiles (path : Path) (settings : Option Path) (found : DocumentGraph × Compilation Wording Fields) : Prop :=
  ∃ chosen, surroundings.Chooses settings chosen ∧ surroundings.ReadsGraph path found.1 ∧
    found.1.compile chosen.compiler = .ok found.2

/-- Whether a text can be put out, or into a file. -/
def Delivers (output : Option Path) : Prop :=
  ∀ path ∈ output, ∃ place,
    path.expanded? surroundings.home = some place ∧ surroundings.disk.checkWritable place = .ok ()

end Surroundings

namespace Run

variable {α : Type}

theorem put_finds (output : Output) : Finds (put output) fun _ => True := Finds.putAll [output]

private theorem refuse_finds (panel : Panel) : Finds (refuse panel : Run α) fun _ => False :=
  ((put_finds (.panel panel)).bind fun _ _ => Finds.throw (by decide)).congr fun _ => by simp

private theorem fail_finds (failure : Failure) : Finds (fail failure : Run α) fun _ => False :=
  Finds.throw (show (Ending.failed failure).exitCode ≠ 0 from Nat.one_ne_zero)

private theorem ofExcept_finds {ε : Type} (explain : ε → Failure) (result : Except ε α) :
    Finds (ofExcept explain result) (result = .ok ·) := by
  cases result with
  | ok value => exact (Finds.pure value).congr fun _ => by simp
  | error error => exact (fail_finds _).congr fun _ => by simp

private theorem orTell_finds {ε : Type} (told : ε → Told) (result : Except ε α) :
    Finds (orTell told result) (result = .ok ·) := by
  cases result with
  | ok value => exact (Finds.pure value).congr fun _ => by simp
  | error error =>
    rw [orTell]
    split
    · exact (refuse_finds _).congr fun _ => by simp
    · exact (fail_finds _).congr fun _ => by simp

section Steps

variable (surroundings : Surroundings) (general : General)

private theorem expanded_finds (path : Path) :
    Finds (expanded surroundings path) (path.expanded? surroundings.home = some ·) := by
  rw [expanded]
  split
  next place known => exact (Finds.pure place).congr fun _ => by simp [known]
  next unknown => exact (fail_finds _).congr fun _ => by simp [unknown]

private theorem settings_finds (settings : Option Path) :
    Finds (Run.settings surroundings general settings) (surroundings.Chooses settings) := by
  cases settings with
  | none => exact Finds.pure _
  | some path =>
    apply Finds.congr ((expanded_finds surroundings path).bind fun place _ =>
      (orTell_finds _ _).bind fun settings _ => (Finds.configure _).bind fun _ _ => Finds.pure settings)
    intro chosen
    simp [Surroundings.Chooses]

private theorem graph_finds (path : Path) : Finds (Run.graph surroundings path) (surroundings.ReadsGraph path) :=
  (expanded_finds surroundings path).bind fun _ _ => orTell_finds _ _

theorem tree_finds (path : Path) : Finds (Run.tree surroundings path) (surroundings.ReadsTree path) := by
  refine Finds.congr ((expanded_finds surroundings path).bind fun place _ =>
    (orTell_finds (TreeFile.told path) _).bind fun tree _ =>
      show Finds _ fun found => tree.fault? = none ∧ tree = found from ?_) ?_
  · cases tree.fault? with
    | some fault => exact (refuse_finds _).congr fun _ => by simp
    | none => exact (Finds.pure tree).congr fun _ => by simp
  · intro tree
    simp [Surroundings.ReadsTree]

theorem withVariables_finds : Finds (withVariables surroundings general) (surroundings.Sees general) := by
  unfold withVariables Surroundings.Sees
  cases general.variableFile with
  | none => exact Finds.pure surroundings
  | some path =>
    cases general.skipsVariables with
    | true => exact ((put_finds _).bind fun _ _ => Finds.pure surroundings).congr fun _ => by simp
    | false =>
      have missing (notice : Output) : Finds (put notice >>= fun _ => throw .refused : Run Surroundings) fun _ => False :=
        ((put_finds notice).bind fun _ _ => Finds.throw (by decide)).congr fun _ => by simp
      simp only [throw_bind]
      cases (surroundings.disk.read? path).toOption.join with
      | none =>
        exact ((ofExcept_finds .place _).bind fun holds _ => (Finds.pure surroundings).guard (missing _)).congr
          fun _ => by simp
      | some text =>
        exact ((ofExcept_finds .place _).bind fun holds _ => (Finds.log_bind ((ofExcept_finds .setting _).bind
          fun environment _ => Finds.pure { surroundings with environment })).guard (missing _)).congr fun _ => by simp

theorem compilation_finds (path : Path) (settings : Option Path) :
    Finds (compilation surroundings general path settings) (surroundings.Compiles path settings) := by
  apply Finds.congr ((settings_finds surroundings general settings).bind fun chosen _ =>
    (graph_finds surroundings path).bind fun graph _ =>
      (ofExcept_finds _ _).bind fun result _ => Finds.log_bind (Finds.pure (graph, result)))
  rintro ⟨graph, result⟩
  simp [Surroundings.Compiles]

private theorem deliver_finds (text : String) (output : Option Path) :
    Finds (deliver surroundings text output) fun _ => surroundings.Delivers output := by
  cases output with
  | none => exact (put_finds _).congr fun _ => by simp [Surroundings.Delivers]
  | some path =>
    have writable (place : Path) : Finds (ofExcept .place (surroundings.disk.checkWritable place)) fun _ =>
        surroundings.disk.checkWritable place = .ok () := ofExcept_finds _ _
    have written : Finds (Run.write surroundings path (text ++ "\n")) fun _ => surroundings.Delivers (some path) := by
      apply Finds.congr ((expanded_finds surroundings path).bind fun place _ =>
        (writable place).bind fun _ _ => put_finds _)
      intro _
      simp [Surroundings.Delivers]
    exact (written.bind fun _ _ => put_finds _).congr fun _ => by simp

private theorem validate_finds (path : Path) (settings : Option Path) :
    Finds (validate surroundings general path settings) fun _ => ∃ found, surroundings.Compiles path settings found ∧
      found.2.errors = [] ∧ ∀ compiled ∈ found.2.trees, compiled.tree.encode.HasCanonical := by
  apply (compilation_finds surroundings general path settings).bind
  rintro ⟨graph, result⟩ _
  have sound : result.failure? = none ↔ result.errors = [] := by
    unfold Compilation.failure?
    cases result.errors <;> simp
  have shown (compiled : CompiledTree Wording Fields) : Finds (do
      let digest ← ofExcept .canonical compiled.tree.encode.fingerprint
      put (.line s!"  Tree rooted at {compiled.root.displayed}: {compiled.tree.length} nodes, hash {shortDigest digest}"))
        fun _ => compiled.tree.encode.HasCanonical :=
    ((ofExcept_finds _ _).bind fun _ _ => put_finds _).congr fun _ => by simp [Value.exists_fingerprint_iff]
  dsimp only
  rw [← sound]
  cases result.failure? with
  | some message => exact (refuse_finds _).congr fun _ => by simp
  | none =>
    apply Finds.congr ((put_finds _).bind fun _ _ => (put_finds _).bind fun _ _ => (put_finds _).bind fun _ _ =>
      Finds.forM shown result.trees)
    simp

theorem compile_finds (path : Path) (settings output : Option Path) (allowPartial : Bool) :
    Finds (compile surroundings general path settings output allowPartial) fun _ =>
      ∃ found, surroundings.Compiles path settings found ∧
        (found.2.errors = [] ∨ allowPartial = true) ∧ found.2.encode.HasCanonical ∧ surroundings.Delivers output := by
  apply (compilation_finds surroundings general path settings).bind
  rintro ⟨graph, result⟩ _
  have delivered : Finds (ofExcept .canonical result.encode.canonical >>= fun text => deliver surroundings text output)
      fun _ => result.encode.HasCanonical ∧ surroundings.Delivers output :=
    ((ofExcept_finds _ _).bind fun text _ => deliver_finds surroundings text output).congr fun _ => by
      simp [Value.HasCanonical]
  have sound : result.isOk = true ↔ result.errors = [] := List.isEmpty_iff
  simp only [throw_bind]
  rw [← sound]
  cases result.isOk with
  | true => exact ((Finds.putAll _).bind fun _ _ => delivered).congr fun _ => by simp
  | false =>
    cases allowPartial with
    | true =>
      exact ((Finds.putAll _).bind fun _ _ => (put_finds _).bind fun _ _ => delivered).congr fun _ => by simp
    | false =>
      have refused : Finds (throw .refused : Run Unit) fun _ => False := Finds.throw (by decide)
      exact ((Finds.putAll _).bind fun _ _ => (put_finds _).bind fun _ _ => refused).congr fun _ => by simp

/-- Combination succeeds on two well-formed trees of which at least one is not empty, if there is text for the result
and a place for it. -/
theorem combine_finds (left right : Path) (leftName rightName : String) (output : Option Path) :
    Finds (combine surroundings left right leftName rightName output) fun _ =>
      ∃ leftTree rightTree combined, surroundings.ReadsTree left leftTree ∧ surroundings.ReadsTree right rightTree ∧
        LinearTree.combineOr leftName leftTree rightName rightTree = some combined ∧ combined.encode.HasCanonical ∧
          surroundings.Delivers output := by
  have delivered (combined? : Option DocumentTree) : Finds (match combined? with
      | none => refuse { title := "Cannot Combine Trees", message := LinearTree.emptyUnderGate }
      | some combined => ofExcept .canonical combined.encode.canonical >>= fun text => deliver surroundings text output)
      fun _ => ∃ combined, combined? = some combined ∧ combined.encode.HasCanonical ∧ surroundings.Delivers output := by
    cases combined? with
    | none => exact (refuse_finds _).congr fun _ => by simp
    | some combined =>
      exact ((ofExcept_finds _ _).bind fun text _ => deliver_finds surroundings text output).congr fun _ => by
        simp [Value.HasCanonical]
  apply Finds.congr ((tree_finds surroundings left).bind fun leftTree _ =>
    (tree_finds surroundings right).bind fun rightTree _ =>
      delivered (LinearTree.combineOr leftName leftTree rightName rightTree))
  simp

end Steps

private theorem request_finds (surroundings : Surroundings) {general : General} {command : String} {words : List String}
    {wanted : Task} (asked : Task.read command words = .ok wanted) {succeeds : Surroundings → Prop}
    (task : ∀ seen, Finds (Run.task seen general command wanted) fun _ => succeeds seen) :
    Finds (Run.request surroundings (.run general command words)) fun _ =>
      ∃ seen, surroundings.Sees general seen ∧ succeeds seen := by
  rw [Run.request]
  simp only [asked]
  have answered := (withVariables_finds surroundings general).bind fun seen _ => task seen
  exact ((Finds.configure _).bind fun _ _ => answered).congr fun _ => by simp

end Run

theorem run_succeeds_iff {surroundings : Surroundings} {words after : List String} {general : General}
    {command : String} {wanted : Task} (asked : Request.read words = .ok (.run general command after))
    (read : Task.read command after = .ok wanted) {succeeds : Surroundings → Prop}
    (task : ∀ seen, (Run.task seen general command wanted).Finds fun _ => succeeds seen) :
    (run surroundings words).ending.exitCode = 0 ↔ ∃ seen, surroundings.Sees general seen ∧ succeeds seen := by
  rw [run, asked]
  exact (Run.request_finds surroundings read task).outcome

namespace Surroundings

/-- The graph of a file compiles without errors, and each of its trees has canonical text. -/
def Passes (surroundings : Surroundings) (general : General) (path : Path) (settings : Option Path)
    (result : Compilation Wording Fields) : Prop :=
  ∃ seen, surroundings.Sees general seen ∧ ∃ graph, seen.Compiles path settings (graph, result) ∧ result.errors = [] ∧
    ∀ compiled ∈ result.trees, compiled.tree.encode.HasCanonical

private theorem Passes.unique {surroundings : Surroundings} {general : General} {path : Path} {settings : Option Path}
    {result other : Compilation Wording Fields} (passes : surroundings.Passes general path settings result)
    (also : surroundings.Passes general path settings other) : result = other := by
  obtain ⟨seen, sees, graph, compiles, _⟩ := passes
  obtain ⟨another, seesAgain, again, compilesAgain, _⟩ := also
  cases (Run.withVariables_finds surroundings general).unique sees seesAgain
  exact congrArg Prod.snd ((Run.compilation_finds seen general path settings).unique compiles compilesAgain)

private theorem Passes.texts {surroundings seen : Surroundings} {general : General} {path : Path}
    {settings : Option Path}
    {graph : DocumentGraph} {result : Compilation Wording Fields}
    (passes : surroundings.Passes general path settings result) (sees : surroundings.Sees general seen)
    (reads : seen.ReadsGraph path graph) (whole : graph.Whole) : ∀ text ∈ result.texts, text.isWhole = true := by
  obtain ⟨another, seesAgain, again, ⟨_, _, readsAgain, compiled⟩, sound, _⟩ := passes
  cases (Run.withVariables_finds surroundings general).unique sees seesAgain
  cases (Run.graph_finds seen path).unique reads readsAgain
  exact whole.texts_of_compile compiled sound

end Surroundings

section Agreement

variable (surroundings : Surroundings) {before after : List String} {general : General} {path : Path}
  {settings : Option Path} (asked : Request.read (before ++ "validate" :: after) = .ok (.run general "validate" after))
  (wanted : Task.read "validate" after = .ok (.validate path settings))
include asked wanted

private theorem validate_succeeds_iff : (run surroundings (before ++ "validate" :: after)).ending.exitCode = 0 ↔
    ∃ result, surroundings.Passes general path settings result := by
  apply (run_succeeds_iff asked wanted fun seen => Run.validate_finds seen general path settings).trans
  constructor
  · rintro ⟨seen, sees, ⟨graph, result⟩, passes⟩
    exact ⟨result, seen, sees, graph, passes⟩
  · rintro ⟨result, seen, sees, graph, passes⟩
    exact ⟨seen, sees, (graph, result), passes⟩

theorem compile_succeeds_iff : (run surroundings (before ++ "compile" :: after)).ending.exitCode = 0 ↔
    ∃ result, surroundings.Passes general path settings result ∧ ∀ text ∈ result.texts, text.isWhole = true := by
  have askedAgain := Request.read_other asked (List.mem_cons_self : "compile" ∈ Task.commands)
  apply (run_succeeds_iff askedAgain (Task.read_compile wanted) fun seen =>
    Run.compile_finds seen general path settings none false).trans
  have exactly {seen : Surroundings} {graph : DocumentGraph} {result : Compilation Wording Fields}
      (compiles : seen.Compiles path settings (graph, result)) : result.encode.HasCanonical ↔
        (∀ compiled ∈ result.trees, compiled.tree.encode.HasCanonical) ∧ ∀ text ∈ result.texts, text.isWhole = true := by
    obtain ⟨_, _, _, compiled⟩ := compiles
    exact Compilation.hasCanonical_encode_iff (Graph.nodup_bindings_of_compile compiled)
  constructor
  · rintro ⟨seen, sees, ⟨graph, result⟩, compiles, sound, canonical, _⟩
    obtain ⟨trees, texts⟩ := (exactly compiles).mp canonical
    exact ⟨result, ⟨seen, sees, graph, compiles, by simpa using sound, trees⟩, texts⟩
  · rintro ⟨result, ⟨seen, sees, graph, compiles, sound, trees⟩, texts⟩
    have canonical := (exactly compiles).mpr ⟨trees, texts⟩
    exact ⟨seen, sees, (graph, result), compiles, .inl sound, canonical, by simp [Surroundings.Delivers]⟩

end Agreement

/-- Validation succeeds if a graph compiles without errors and its trees have canonical text. Compilation, asked for in
the same words, succeeds if moreover no text beside the trees holds half a letter. So the two agree on every graph that
holds no half letters itself. -/
theorem validate_compile_succeed (surroundings : Surroundings) {before after : List String} {general : General}
    {path : Path} {settings : Option Path}
    (asked : Request.read (before ++ "validate" :: after) = .ok (.run general "validate" after))
    (wanted : Task.read "validate" after = .ok (.validate path settings)) :
    ((run surroundings (before ++ "validate" :: after)).ending.exitCode = 0 ↔
        ∃ result, surroundings.Passes general path settings result) ∧
      ((run surroundings (before ++ "compile" :: after)).ending.exitCode = 0 →
        (run surroundings (before ++ "validate" :: after)).ending.exitCode = 0) ∧
      (∀ result, surroundings.Passes general path settings result →
        ((run surroundings (before ++ "compile" :: after)).ending.exitCode = 0 ↔
          ∀ text ∈ result.texts, text.isWhole = true)) ∧
      ∀ seen graph, surroundings.Sees general seen → seen.ReadsGraph path graph → graph.Whole →
        ((run surroundings (before ++ "validate" :: after)).ending.exitCode = 0 ↔
          (run surroundings (before ++ "compile" :: after)).ending.exitCode = 0) := by
  have validates := validate_succeeds_iff surroundings asked wanted
  have compiles := compile_succeeds_iff surroundings asked wanted
  have compiled (success : (run surroundings (before ++ "compile" :: after)).ending.exitCode = 0) :
      (run surroundings (before ++ "validate" :: after)).ending.exitCode = 0 := by
    obtain ⟨result, passes, _⟩ := compiles.mp success
    exact validates.mpr ⟨result, passes⟩
  refine ⟨validates, compiled, ?_, ?_⟩
  · intro result passes
    refine compiles.trans ⟨?_, fun whole => ⟨result, passes, whole⟩⟩
    rintro ⟨other, also, whole⟩
    exact passes.unique also ▸ whole
  · intro seen graph sees reads whole
    refine ⟨fun success => ?_, compiled⟩
    obtain ⟨result, passes⟩ := validates.mp success
    exact compiles.mpr ⟨result, passes, passes.texts sees reads whole⟩

/-- A graph file of a known document. -/
theorem exists_compiles {surroundings : Surroundings} {path place : Path}
    (known : path.expanded? surroundings.home = some place) {document : Value}
    (read : surroundings.disk.graph place = (GraphDocument.read document).toExcept.mapError .schema) {γ : Type}
    (tell : Compilation Wording Fields → γ) {told : γ} (ran : (GraphDocument.read document).toExcept.toOption.bind
      (fun graph => (graph.compile {}).toOption.map tell) = some told) :
    ∃ found, surroundings.Compiles path none found ∧ tell found.2 = told := by
  cases accepted : (GraphDocument.read document).toExcept with
  | error => rw [accepted] at ran; cases ran
  | ok graph =>
    rw [accepted, Except.toOption, Option.bind_some] at ran
    cases compiled : graph.compile {} with
    | error => rw [compiled] at ran; cases ran
    | ok result =>
      rw [compiled] at ran
      rw [accepted] at read
      exact ⟨(graph, result), ⟨{}, rfl, ⟨place, known, read⟩, compiled⟩, Option.some.inj ran⟩

def twoBoxes : String :=
  "\x7b\"nodes\":[\x7b\"id\":\"a\",\"eventType\":\"\"\x7d,\x7b\"id\":\"b\",\"eventType\":\"\"\x7d],\"edges\":[\x7b\"source\":\"a\",\"target\":\"b\"\x7d]\x7d"

def twoBoxesDocument : Value :=
  let box (id : String) : Value := .map [(.text "id", .text id), (.text "eventType", .text "")]
  .map [(.text "nodes", .list [box "a", box "b"]),
    (.text "edges", .list [.map [(.text "source", .text "a"), (.text "target", .text "b")]])]

def besideTwoBoxes : Surroundings := ⟨Files.disk [("g.json", twoBoxes)], [], "/root"⟩

theorem graph_twoBoxes :
    besideTwoBoxes.disk.graph (.ofText "g.json") = (GraphDocument.read twoBoxesDocument).toExcept.mapError .schema := by
  have found : besideTwoBoxes.disk.look (.ofText "g.json") = .file twoBoxes := rfl
  have read : Json.read (Disk.asLines twoBoxes) = .ok twoBoxesDocument := by cbv
  exact Disk.graph_json found rfl read rfl

theorem known_graph : (Path.ofText "g.json").expanded? "/root" = some (.ofText "g.json") := by cbv

theorem known_tree : (Path.ofText "t.json").expanded? "/root" = some (.ofText "t.json") := by cbv

/-- Whatever else is told of it, a graph of two empty boxes passes. -/
theorem exists_passes {surroundings : Surroundings} {general : General} (sees : surroundings.Sees general surroundings)
    (known : (Path.ofText "g.json").expanded? surroundings.home = some (.ofText "g.json")) {document : Value}
    (read : surroundings.disk.graph (.ofText "g.json") = (GraphDocument.read document).toExcept.mapError .schema)
    {whole : Bool} (ran : (GraphDocument.read document).toExcept.toOption.bind (fun graph =>
      (graph.compile {}).toOption.map fun result => (result.errors, result.trees.map (·.tree), result.texts.all Wording.isWhole)) =
        some ([], [⟨[.box [] [1], .box [] []], []⟩], whole)) :
    ∃ result, surroundings.Passes general (.ofText "g.json") none result ∧
      result.texts.all Wording.isWhole = whole := by
  obtain ⟨found, compiles, told⟩ := exists_compiles known read _ ran
  obtain ⟨sound, told⟩ := Prod.mk.inj told
  obtain ⟨trees, texts⟩ := Prod.mk.inj told
  refine ⟨found.2, ⟨surroundings, sees, found.1, compiles, sound, ?_⟩, texts⟩
  intro compiled member
  have tree : compiled.tree = ⟨[.box [] [1], .box [] []], []⟩ :=
    List.mem_singleton.mp (trees ▸ List.mem_map_of_mem member)
  have content : (Value.map []).HasCanonical := Value.hasCanonical_map (List.forall_mem_nil _)
  have position : (Value.int 1).HasCanonical := ⟨_, rfl⟩
  have first : (TreeNode.box [] [1]).encode.HasCanonical :=
    Value.hasCanonical_single (by simp [Value.hasCanonical_list_iff, content, position])
  have second : (TreeNode.box [] []).encode.HasCanonical :=
    Value.hasCanonical_single (by simp [Value.hasCanonical_list_iff, content])
  rw [tree]
  apply Value.hasCanonical_map
  simp [Value.hasCanonical_list_iff, first, second]

theorem passes_twoBoxes : ∃ result, besideTwoBoxes.Passes {} (.ofText "g.json") none result ∧
    ∀ text ∈ result.texts, text.isWhole = true := by
  have ran : (GraphDocument.read twoBoxesDocument).toExcept.toOption.bind (fun graph => (graph.compile {}).toOption.map
      fun result => (result.errors, result.trees.map (·.tree), result.texts.all Wording.isWhole)) =
        some ([], [⟨[.box [] [1], .box [] []], []⟩], true) := by cbv
  have sees : besideTwoBoxes.Sees {} besideTwoBoxes := rfl
  obtain ⟨result, passes, whole⟩ := exists_passes sees known_graph graph_twoBoxes ran
  exact ⟨result, passes, List.all_eq_true.mp whole⟩

/-- The file with two boxes passes validation and is compiled. -/
theorem validate_compile_succeed_twoBoxes :
    (run besideTwoBoxes ["validate", "g.json"]).ending.exitCode = 0 ∧
      (run besideTwoBoxes ["compile", "g.json"]).ending.exitCode = 0 := by
  have asked : Request.read ([] ++ "validate" :: ["g.json"]) = .ok (.run {} "validate" ["g.json"]) := rfl
  have wanted : Task.read "validate" ["g.json"] = .ok (.validate (.ofText "g.json") none) := rfl
  obtain ⟨result, passes, whole⟩ := passes_twoBoxes
  obtain ⟨validates, _, compiles, _⟩ := validate_compile_succeed besideTwoBoxes asked wanted
  exact ⟨validates.mpr ⟨result, passes⟩, (compiles result passes).mpr whole⟩

/-- The first box declares a variable whose object type is half a letter. -/
def halfType : String :=
  "\x7b\"nodes\":[\x7b\"id\":\"a\",\"eventType\":\"\",\"boundVariables\":[\x7b\"name\":\"x\",\"objectType\":\"\\ud800\"\x7d]\x7d,\x7b\"id\":\"b\",\"eventType\":\"\"\x7d],\"edges\":[\x7b\"source\":\"a\",\"target\":\"b\"\x7d]\x7d"

def halfTypeDocument : Value :=
  let declared : Value := .map [(.text "name", .text "x"), (.text "objectType", .text (.ofLetters [.half 0]))]
  .map [(.text "nodes", .list [
      .map [(.text "id", .text "a"), (.text "eventType", .text ""), (.text "boundVariables", .list [declared])],
      .map [(.text "id", .text "b"), (.text "eventType", .text "")]]),
    (.text "edges", .list [.map [(.text "source", .text "a"), (.text "target", .text "b")]])]

def besideHalfType : Surroundings := ⟨Files.disk [("g.json", halfType)], [], "/root"⟩

set_option maxRecDepth 4000 in
private theorem graph_halfType :
    besideHalfType.disk.graph (.ofText "g.json") = (GraphDocument.read halfTypeDocument).toExcept.mapError .schema := by
  have found : besideHalfType.disk.look (.ofText "g.json") = .file halfType := rfl
  have read : Json.read (Disk.asLines halfType) = .ok halfTypeDocument := by cbv
  exact Disk.graph_json found rfl read rfl

/-- The graph passes validation, which writes only its tree, and compilation fails on the variable. -/
theorem run_halfType_differ :
    (run besideHalfType ["--no-dotenv", "validate", "g.json"]).ending.exitCode = 0 ∧
      (run besideHalfType ["--no-dotenv", "compile", "g.json"]).ending.exitCode ≠ 0 := by
  have asked : Request.read (["--no-dotenv"] ++ "validate" :: ["g.json"]) =
      .ok (.run { skipsVariables := true } "validate" ["g.json"]) := rfl
  have wanted : Task.read "validate" ["g.json"] = .ok (.validate (.ofText "g.json") none) := rfl
  have ran : (GraphDocument.read halfTypeDocument).toExcept.toOption.bind (fun graph => (graph.compile {}).toOption.map
      fun result => (result.errors, result.trees.map (·.tree), result.texts.all Wording.isWhole)) =
        some ([], [⟨[.box [] [1], .box [] []], []⟩], false) := by cbv
  have sees : besideHalfType.Sees { skipsVariables := true } besideHalfType := rfl
  obtain ⟨result, passes, broken⟩ := exists_passes sees known_graph graph_halfType ran
  refine ⟨(validate_succeeds_iff besideHalfType asked wanted).mpr ⟨result, passes⟩, fun success => ?_⟩
  obtain ⟨other, also, whole⟩ := (compile_succeeds_iff besideHalfType asked wanted).mp success
  cases passes.unique also
  cases broken.symm.trans (List.all_eq_true.mpr whole)

end Command
end BoxTree
