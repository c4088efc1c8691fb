import BoxTree.Proofs.GraphEmission
import BoxTree.Proofs.TreeComposition
import BoxTree.Proofs.WrittenTrees

/-! What compilation and combination deliver: one line, or one file, with the canonical text of their result. The trees in
it are read as they are written. -/

namespace BoxTree.Command

/-- The outputs of a command that are part of its result. -/
def results (outputs : List Output) : List Output := outputs.filter fun output => !output.isAside

/-- A text that is put out, or into a file, and nothing else. -/
def Surroundings.Delivered (surroundings : Surroundings) (output : Option Path) (text : String) (outputs : List Output) :
    Prop :=
  match output with
  | none => results outputs = [.line text]
  | some path =>
    ∃ place, path.expanded? surroundings.home = some place ∧ results outputs = [.file place (text ++ "\n")]

private theorem results_append_of_aside {aside : List Output} (every : ∀ output ∈ aside, output.isAside = true)
    (outputs : List Output) : results (aside ++ outputs) = results outputs := by
  have none : aside.filter (fun output => !output.isAside) = [] :=
    List.filter_eq_nil_iff.mpr fun output member => by simp [every output member]
  rw [results, List.filter_append, none, List.nil_append, results]

private theorem Surroundings.Delivered.congr {surroundings : Surroundings} {output : Option Path} {text : String}
    {outputs others : List Output} (delivered : surroundings.Delivered output text outputs)
    (same : results others = results outputs) : surroundings.Delivered output text others := by
  unfold Delivered at delivered ⊢
  rwa [same]

namespace Run

variable {α : Type} {step : Run α} {wanted : α → Prop} {next : α → Run Unit} {surroundings : Surroundings}
  {output : Option Path} {text : String}

def Delivering (surroundings : Surroundings) (output : Option Path) (text : String) (step : Run Unit) : Prop :=
  step.Ensures (fun _ added => surroundings.Delivered output text added) fun _ _ => False

private theorem Delivering.after (value : α) (finds : Finds step wanted) (holds : wanted value) (aside : PutsAside step)
    (rest : Delivering surroundings output text (next value)) :
    Delivering surroundings output text (step >>= next) := by
  refine Ensures.bind (finds.ensures holds aside) ?_ fun _ _ => False.elim
  rintro _ added ⟨rfl, every⟩
  exact Ensures.weaken rest (fun _ more delivered => delivered.congr (results_append_of_aside every more))
    fun _ _ => False.elim

private theorem deliver_delivering (delivers : surroundings.Delivers output) :
    Delivering surroundings output text (deliver surroundings text output) := by
  cases output with
  | none => exact Ensures.putAll rfl
  | some path =>
    obtain ⟨place, known, writable⟩ := delivers path rfl
    rw [deliver, Run.write, expanded, known, pure_bind, writable, ofExcept, pure_bind]
    have written : Ensures (put (.file place (text ++ "\n")))
        (fun _ added => added = [.file place (text ++ "\n")]) fun _ _ => False := Ensures.putAll rfl
    refine Ensures.bind written ?_ fun _ _ => False.elim
    rintro _ _ rfl
    exact Ensures.putAll ⟨place, known, rfl⟩

section Tasks

variable {general : General} {path : Path} {settings : Option Path} {allowPartial : Bool}

private theorem compile_delivering {found : DocumentGraph × Compilation Wording Fields}
    (compiles : surroundings.Compiles path settings found) (allowed : found.2.errors = [] ∨ allowPartial = true)
    (canonical : found.2.encode.canonical = .ok text) (delivers : surroundings.Delivers output) :
    Delivering surroundings output text (compile surroundings general path settings output allowPartial) := by
  have delivered : Delivering surroundings output text (ofExcept .canonical found.2.encode.canonical >>= fun text =>
      deliver surroundings text output) := by
    rw [canonical, ofExcept, pure_bind]
    exact deliver_delivering delivers
  have told (shown : Panel) {next : Unit → Run Unit} (rest : Delivering surroundings output text (next ())) :
      Delivering surroundings output text (put (.panel shown) >>= next) :=
    .after () (put_finds _) trivial (put_aside rfl) rest
  apply Delivering.after found (compilation_finds surroundings general path settings) compiles
    (compilation_aside surroundings general path settings)
  apply Delivering.after () (Finds.putAll _) trivial (putAll_aside (fun _ => rfl) _)
  simp only [throw_bind]
  split
  · exact delivered
  next failed =>
    apply told
    have lenient : allowPartial = true := allowed.resolve_left fun none => failed (List.isEmpty_iff.mpr none)
    simp only [lenient, if_true]
    exact delivered

private theorem combine_delivering {left right : Path} {leftName rightName : String}
    {leftTree rightTree combined : DocumentTree}
    (readsLeft : surroundings.ReadsTree left leftTree) (readsRight : surroundings.ReadsTree right rightTree)
    (joined : LinearTree.combineOr leftName leftTree rightName rightTree = some combined)
    (canonical : combined.encode.canonical = .ok text) (delivers : surroundings.Delivers output) :
    Delivering surroundings output text (combine surroundings left right leftName rightName output) := by
  apply Delivering.after leftTree (tree_finds surroundings left) readsLeft (tree_aside surroundings left)
  apply Delivering.after rightTree (tree_finds surroundings right) readsRight (tree_aside surroundings right)
  simp only [joined, canonical, ofExcept, pure_bind]
  exact deliver_delivering delivers

private theorem request_delivering {command : String} {words : List String} {wanted : Task} {seen : Surroundings}
    (read : Task.read command words = .ok wanted) (sees : surroundings.Sees general seen)
    (task : Delivering seen output text (task seen general command wanted)) :
    Delivering seen output text (Run.request surroundings (.run general command words)) := by
  have extended : PutsAside (withVariables surroundings general) :=
    withVariables_adds surroundings general (fun _ => rfl) fun _ => rfl
  rw [Run.request]
  simp only [read]
  apply Delivering.after () (Finds.configure _) trivial (.configure _)
  exact Delivering.after seen (withVariables_finds surroundings general) sees extended task

end Tasks

end Run

private theorem Surroundings.ReadsTree.unique {surroundings : Surroundings} {path : Path} {tree other : DocumentTree}
    (reads : surroundings.ReadsTree path tree) (again : surroundings.ReadsTree path other) : tree = other :=
  (Run.tree_finds surroundings path).unique reads again

/-- A combination of the trees of two files. -/
def Surroundings.Combines (surroundings : Surroundings) (left right : Path) (leftName rightName : String)
    (tree : DocumentTree) : Prop :=
  ∃ leftTree rightTree, surroundings.ReadsTree left leftTree ∧ surroundings.ReadsTree right rightTree ∧
    LinearTree.combineOr leftName leftTree rightName rightTree = some tree

private theorem Surroundings.Combines.fault?_eq_none {surroundings : Surroundings} {left right : Path}
    {leftName rightName : String} {tree : DocumentTree} (combines : surroundings.Combines left right leftName rightName tree) :
    tree.fault? = none := by
  obtain ⟨leftTree, rightTree, ⟨_, _, _, leftSound⟩, ⟨_, _, _, rightSound⟩, joined⟩ := combines
  have full : leftTree.isEmpty = false ∧ rightTree.isEmpty = false := by
    unfold LinearTree.combineOr at joined
    split at joined
    next => cases joined
    next full => simpa using full
  have leftRooted : leftTree.Rooted := ⟨by rw [LinearTree.isValid, leftSound]; rfl, full.1⟩
  have rightRooted : rightTree.Rooted := ⟨by rw [LinearTree.isValid, rightSound]; rfl, full.2⟩
  obtain ⟨same, again, unites⟩ := LinearTree.exists_unites leftName rightName leftRooted rightRooted
  obtain rfl := Option.some.inj (joined.symm.trans again)
  exact Option.isNone_iff_eq_none.mp unites.rooted.valid

section Deliveries

variable {surroundings : Surroundings} {words after : List String} {general : General} {command : String}
  {output : Option Path}

private theorem run_delivers {wanted : Task} (asked : Request.read words = .ok (.run general command after))
    (read : Task.read command after = .ok wanted) {seen : Surroundings} (sees : surroundings.Sees general seen)
    {text : String} (delivering : Run.Delivering seen output text (Run.task seen general command wanted)) :
    seen.Delivered output text (run surroundings words).outputs := by
  have came := (Run.request_delivering read sees delivering).outcome
  rw [run, asked]
  exact (came.resolve_right id).2

private theorem combine_delivers {left right : Path} {leftName rightName : String}
    (asked : Request.read words = .ok (.run general command after))
    (read : Task.read command after = .ok (.combine left right leftName rightName output))
    (success : (run surroundings words).ending.exitCode = 0) :
    ∃ seen tree text, surroundings.Sees general seen ∧ seen.Combines left right leftName rightName tree ∧
      tree.encode.canonical = .ok text ∧ seen.Delivered output text (run surroundings words).outputs := by
  have succeeds := (run_succeeds_iff asked read fun seen => Run.combine_finds seen left right leftName rightName output).mp
    success
  obtain ⟨seen, sees, leftTree, rightTree, tree, readsLeft, readsRight, joined, ⟨text, canonical⟩, delivers⟩ := succeeds
  exact ⟨seen, tree, text, sees, ⟨leftTree, rightTree, readsLeft, readsRight, joined⟩, canonical,
    run_delivers asked read sees (Run.combine_delivering readsLeft readsRight joined canonical delivers)⟩

private theorem compile_delivers {path : Path} {settings : Option Path} {allowPartial : Bool}
    (asked : Request.read words = .ok (.run general command after))
    (read : Task.read command after = .ok (.compile path settings output allowPartial))
    (success : (run surroundings words).ending.exitCode = 0) :
    ∃ seen found text, surroundings.Sees general seen ∧ seen.Compiles path settings found ∧
      found.2.encode.canonical = .ok text ∧ seen.Delivered output text (run surroundings words).outputs := by
  have succeeds := (run_succeeds_iff asked read fun seen =>
    Run.compile_finds seen general path settings output allowPartial).mp success
  obtain ⟨seen, sees, found, compiles, allowed, ⟨text, canonical⟩, delivers⟩ := succeeds
  exact ⟨seen, found, text, sees, compiles, canonical,
    run_delivers asked read sees (Run.compile_delivering compiles allowed canonical delivers)⟩

end Deliveries

/-- A file with a text is read as a tree, whoever reads it. -/
def ReadsBack (text : String) (tree : DocumentTree) : Prop :=
  ∀ (later : Surroundings) (path place : Path), path.expanded? later.home = some place →
    later.disk.look place = .file text → place.isJson = true → later.ReadsTree path tree

private theorem readsBack_written {tree : DocumentTree} (sound : tree.fault? = none) (apart : tree.TextsApart)
    {text : String}
    (found : tree.encode.canonical = .ok text) : ReadsBack (text ++ "\n") tree.written :=
  fun _ _ place known stands json =>
    ⟨place, known, Disk.tree_written apart found stands json, (LinearTree.fault?_written tree).trans sound⟩

/-- Decoding undoes encoding, so trees with one document are one tree. What a combination delivers is read back as the tree
that is written, and so is each tree that a compilation delivers; a tree whose contents canonical text tells in full is
equal to that. -/
theorem trees_read_back :
    (∀ tree : DocumentTree, LinearTree.decode tree.encode = .ok tree) ∧
      (∀ left right : DocumentTree, left.encode = right.encode → left = right) ∧
      (∀ (surroundings : Surroundings) {words after : List String} {general : General} {command : String}
        {left right : Path} {leftName rightName : String} {output : Option Path},
        Request.read words = .ok (.run general command after) →
          Task.read command after = .ok (.combine left right leftName rightName output) →
          (run surroundings words).ending.exitCode = 0 →
          ∃ seen tree text, surroundings.Sees general seen ∧ seen.Combines left right leftName rightName tree ∧
            tree.encode.canonical = .ok text ∧ seen.Delivered output text (run surroundings words).outputs ∧
              (tree.TextsApart → ReadsBack (text ++ "\n") tree.written)) ∧
      (∀ (surroundings : Surroundings) {words after : List String} {general : General} {command : String} {path : Path}
        {settings output : Option Path} {allowPartial : Bool},
        Request.read words = .ok (.run general command after) →
          Task.read command after = .ok (.compile path settings output allowPartial) →
          (run surroundings words).ending.exitCode = 0 →
          ∃ seen found text, surroundings.Sees general seen ∧ seen.Compiles path settings found ∧
            found.2.encode.canonical = .ok text ∧ seen.Delivered output text (run surroundings words).outputs ∧
              ((∀ compiled ∈ found.2.trees, compiled.tree.TextsApart) →
                ∃ document, Json.read (Disk.asLines (text ++ "\n")) = .ok document ∧
                  Compilation.HoldsTrees document (found.2.trees.map (·.tree.written)) ∧
                    ∀ compiled ∈ found.2.trees, compiled.tree.written.fault? = none)) ∧
      ∀ tree : DocumentTree, tree.Exact → tree.TextsApart ∧ tree.encode.same tree.written.encode = true := by
  refine ⟨TreeDecode.decode_encode, fun left right same => ?_, ?_, ?_, fun tree exact => ?_⟩
  · have again := TreeDecode.decode_encode left
    rw [same, TreeDecode.decode_encode right] at again
    exact (Except.ok.inj again).symm
  · intro surroundings words after general command left right leftName rightName output asked read success
    obtain ⟨seen, tree, text, sees, combines, canonical, delivered⟩ := combine_delivers asked read success
    exact ⟨seen, tree, text, sees, combines, canonical, delivered, fun apart =>
      readsBack_written combines.fault?_eq_none apart canonical⟩
  · intro surroundings words after general command path settings output allowPartial asked read success
    obtain ⟨seen, found, text, sees, compiles, canonical, delivered⟩ := compile_delivers asked read success
    refine ⟨seen, found, text, sees, compiles, canonical, delivered, fun apart => ?_⟩
    refine ⟨_, (Value.spells_canonical canonical).read_line, Compilation.holdsTrees_written apart, fun compiled listed => ?_⟩
    obtain ⟨_, _, _, compiled⟩ := compiles
    have wellFormed := Graph.wellFormed_of_compile compiled _ listed
    rw [LinearTree.fault?_written]
    exact Option.isNone_iff_eq_none.mp ((LinearTree.isValid_iff_wellFormed _).mpr wellFormed)
  · exact ⟨exact.textsApart, exact.same_written⟩

section Inputs

open Json Canonical

/-- A whole number that doubles hold, written as one that they do not: canonical text rounds it to its shortest digits. -/
def rounded : Double := ⟨0x43b0000000000001⟩

def roundedTree : DocumentTree := ⟨[.box [(.text "v", .double rounded)] []], []⟩

def roundedLine : String :=
  "\x7b\"edgeNames\":[],\"nodes\":[\x7b\"Box\":[\x7b\"v\":1152921504606847232.0\x7d,[]]\x7d]\x7d"

def roundedDocument : Value :=
  .map [(.text "edgeNames", .list []),
    (.text "nodes", .list [.map [(.text "Box", .list [.map [(.text "v", .double rounded)], .list []])]])]

def besideRounded : Surroundings := ⟨Files.disk [("t.json", roundedLine ++ "\n")], [], "/root"⟩

private theorem spells_rounded : Spells "1152921504606847232.0".toList (.double rounded) := by
  refine spells_number ?_ fun {rest} ends => ?_
  · simp [IsNumeral]
  · have digits : ∀ c ∈ "1152921504606847232".toList, c.isDigit = true := by simp
    have zero : ∀ c ∈ ['0'], c.isDigit = true := by simp
    have whole : Json.Leads "1152921504606847232".toList := ⟨digits, .inr ⟨'1', _, rfl, by decide⟩⟩
    have fraction : fractionDigits ('.' :: ['0'] ++ rest) = (['0'], rest) :=
      fractionDigits_some zero (List.cons_ne_nil _ _) ends.notDigit
    have read := readNumber_double false whole zero (by simp) fraction
      (.inr ⟨List.cons_ne_nil _ _, exponent?_none ends, rfl, rfl⟩)
    have value : Double.ofDecimal false (Nat.ofDigitChars 10 ("1152921504606847232".toList ++ ['0']) 0)
        (0 - ['0'].length) = rounded := by decide +kernel
    rw [value] at read
    exact readScalar_signed rfl false read

/-- The file with its contents. -/
theorem reads_rounded : besideRounded.ReadsTree (.ofText "t.json") roundedTree := by
  have content := spells_object (.cons ⟨rfl, spells_rounded⟩ .nil : List.Forall₂ SpellsEntry
    [("v", "1152921504606847232.0".toList)] [("v", .double rounded)]) (by simp)
  have box := spells_array (.cons content (.cons (spells_array .nil) .nil))
  have node := spells_object (.cons ⟨rfl, box⟩ .nil : List.Forall₂ SpellsEntry [("Box", _)] [("Box", _)]) (by simp)
  have document := spells_object (.cons ⟨rfl, spells_array .nil⟩ (.cons ⟨rfl, spells_array (.cons node .nil)⟩ .nil) :
    List.Forall₂ SpellsEntry [("edgeNames", _), ("nodes", _)] [("edgeNames", _), ("nodes", _)]) (by simp)
  have letters : roundedLine.toList = object [("edgeNames", array []), ("nodes", array [object
      [("Box", array [object [("v", "1152921504606847232.0".toList)], array []])]])] := by cbv
  have spells : Spells roundedLine.toList roundedDocument := by
    rw [letters]
    exact document
  have stands : besideRounded.disk.look (.ofText "t.json") = .file (roundedLine ++ "\n") := rfl
  refine ⟨_, known_tree, ?_, by cbv⟩
  rw [Disk.tree, Disk.document_json stands rfl, spells.read_line]
  rfl

/-- The tree of the file beside itself. -/
def roundedPair : DocumentTree :=
  ⟨[.or 1 2, .box [(.text "v", .double rounded)] [], .box [(.text "v", .double rounded)] []], [((0, 1), "A"), ((0, 2), "B")]⟩

private theorem content_rounded {content : Fields} {children : List Int}
    (listed : .box content children ∈ roundedPair.nodes) :
    content = [(.text "v", .double rounded)] := by
  simp only [roundedPair, List.mem_cons, List.not_mem_nil, or_false, TreeNode.box.injEq, reduceCtorEq, false_or,
    or_self] at listed
  exact listed.1

private theorem combines_rounded {tree : DocumentTree}
    (combines : besideRounded.Combines (.ofText "t.json") (.ofText "t.json") "A" "B" tree) : tree = roundedPair := by
  obtain ⟨leftTree, rightTree, readsLeft, readsRight, joined⟩ := combines
  obtain rfl := readsLeft.unique reads_rounded
  obtain rfl := readsRight.unique reads_rounded
  exact (Option.some.inj joined).symm

def askForPair : List String := ["combine", "t.json", "t.json", "-o", "out.json"]

private theorem askForPair_read : Request.read askForPair = .ok (.run {} "combine" askForPair.tail) := rfl

private theorem askForPair_task : Task.read "combine" askForPair.tail =
    .ok (.combine (.ofText "t.json") (.ofText "t.json") "A" "B" (some (.ofText "out.json"))) := rfl

private theorem known_output : (Path.ofText "out.json").expanded? "/root" = some (.ofText "out.json") := by cbv

private theorem run_rounded : (run besideRounded askForPair).ending.exitCode = 0 := by
  have content : (Value.map [(.text "v", .double rounded)]).HasCanonical :=
    Value.hasCanonical_single (Value.hasCanonical_double_iff.mpr rfl)
  have canonical : roundedPair.encode.HasCanonical := by
    have wellFormed : roundedPair.WellFormed := (LinearTree.isValid_iff_wellFormed _).mp (by cbv)
    refine wellFormed.hasCanonical_encode_iff.mpr ⟨by decide, by decide, fun fields children listed => ?_⟩
    exact content_rounded listed ▸ content
  have delivers : besideRounded.Delivers (some (.ofText "out.json")) := by
    rintro _ ⟨⟩
    exact ⟨_, known_output, rfl⟩
  exact (run_succeeds_iff askForPair_read askForPair_task fun seen => Run.combine_finds seen _ _ _ _ _).mpr
    ⟨besideRounded, rfl, roundedTree, roundedTree, roundedPair, reads_rounded, reads_rounded, rfl, canonical, delivers⟩

/-- What is read of the pair. -/
def roundedBack : DocumentTree :=
  ⟨[.or 1 2, .box [(.text "v", .int 1152921504606847200)] [], .box [(.text "v", .int 1152921504606847200)] []],
    [((0, 1), "A"), ((0, 2), "B")]⟩

private theorem written_rounded : roundedPair.written = roundedBack := by
  have bare : rounded.shortest.bare? = some 1152921504606847200 := by decide +kernel
  have positive : rounded.isNegative = false := rfl
  have content : Value.writtenFields [(.text "v", .double rounded)] = [(.text "v", .int 1152921504606847200)] := by
    rw [Value.writtenFields, Value.arranged_single, List.map_singleton, Value.written, Double.written, bare, positive]
    rfl
  simp [LinearTree.written, LinearTree.mapContent, roundedPair, roundedBack, TreeNode.mapContent, content]

private theorem apart_rounded : roundedPair.TextsApart := by
  intro content children listed
  exact content_rounded listed ▸ Value.spreads_textsApart.single (.leaf rfl rfl)

def twoBoxesTree : DocumentTree := ⟨[.box [] [1], .box [] []], []⟩

private theorem compiles_twoBoxes :
    ∃ found, besideTwoBoxes.Compiles (.ofText "g.json") none found ∧ found.2.errors = [] ∧
    found.2.trees.map (·.tree) = [twoBoxesTree] := by
  have ran : (GraphDocument.read twoBoxesDocument).toExcept.toOption.bind (fun graph =>
      (graph.compile {}).toOption.map fun result => (result.errors, result.trees.map (·.tree))) =
        some ([], [twoBoxesTree]) := by cbv
  obtain ⟨found, compiles, told⟩ := exists_compiles known_graph graph_twoBoxes _ ran
  exact ⟨found, compiles, Prod.mk.inj told⟩

private theorem exact_twoBoxes : twoBoxesTree.Exact := by
  intro content children listed
  have empty : content = [] := by
    simp only [twoBoxesTree, List.mem_cons, List.not_mem_nil, or_false, TreeNode.box.injEq] at listed
    exact listed.elim And.left And.left
  exact empty ▸ .map [] rfl List.nodup_nil (List.forall_mem_nil _)

def askForTrees : List String := ["compile", "g.json"]

private theorem askForTrees_read : Request.read askForTrees = .ok (.run {} "compile" askForTrees.tail) := rfl

private theorem askForTrees_task : Task.read "compile" askForTrees.tail =
    .ok (.compile (.ofText "g.json") none none false) := rfl

private theorem run_twoBoxes : (run besideTwoBoxes askForTrees).ending.exitCode = 0 := by
  have asked : Request.read ([] ++ "validate" :: ["g.json"]) = .ok (.run {} "validate" ["g.json"]) := rfl
  have wanted : Task.read "validate" ["g.json"] = .ok (.validate (.ofText "g.json") none) := rfl
  exact (compile_succeeds_iff besideTwoBoxes asked wanted).mpr passes_twoBoxes

/-- The pair is delivered, and read back with the whole number that its text spells; a compiled tree is delivered, and read
back as it is. -/
theorem trees_read_back_rounded_twoBoxes :
    ((run besideRounded askForPair).ending.exitCode = 0 ∧ ∃ text,
      results (run besideRounded askForPair).outputs = [.file (.ofText "out.json") (text ++ "\n")] ∧
        ReadsBack (text ++ "\n") roundedBack) ∧
      ((run besideTwoBoxes askForTrees).ending.exitCode = 0 ∧ ∃ text document,
        results (run besideTwoBoxes askForTrees).outputs = [.line text] ∧
          Json.read (Disk.asLines (text ++ "\n")) = .ok document ∧
            Compilation.HoldsTrees document [twoBoxesTree.written]) ∧
        twoBoxesTree.Exact ∧ twoBoxesTree.encode.same twoBoxesTree.written.encode = true := by
  obtain ⟨_, _, combined, compiled, equal⟩ := trees_read_back
  refine ⟨⟨run_rounded, ?_⟩, ⟨run_twoBoxes, ?_⟩, exact_twoBoxes, (equal _ exact_twoBoxes).2⟩
  · obtain ⟨seen, tree, text, sees, combines, _, delivered, back⟩ :=
      combined besideRounded askForPair_read askForPair_task run_rounded
    obtain rfl : besideRounded = seen := sees
    obtain rfl := combines_rounded combines
    obtain ⟨place, known, shown⟩ := delivered
    obtain rfl : .ofText "out.json" = place := Option.some.inj (known_output.symm.trans known)
    exact ⟨text, shown, written_rounded ▸ back apart_rounded⟩
  · obtain ⟨seen, found, text, sees, compiles, _, delivered, back⟩ :=
      compiled besideTwoBoxes askForTrees_read askForTrees_task run_twoBoxes
    obtain rfl : besideTwoBoxes = seen := sees
    obtain ⟨_, compilesAgain, _, trees⟩ := compiles_twoBoxes
    obtain rfl := (Run.compilation_finds besideTwoBoxes {} _ _).unique compiles compilesAgain
    have only {made : CompiledTree Wording Fields} (listed : made ∈ found.2.trees) : made.tree = twoBoxesTree :=
      List.mem_singleton.mp (trees ▸ List.mem_map_of_mem listed)
    obtain ⟨document, read, holds, _⟩ := back fun made listed => only listed ▸ exact_twoBoxes.textsApart
    refine ⟨text, document, delivered, read, ?_⟩
    have written : found.2.trees.map (·.tree.written) = [twoBoxesTree.written] :=
      List.map_map.symm.trans (congrArg (List.map LinearTree.written) trees)
    exact written ▸ holds

/-- What is read back need not be equal to what was put together. -/
theorem rounded_reads_otherwise : ¬ ∀ (surroundings : Surroundings) {words after : List String} {general : General}
    {command : String} {left right : Path} {leftName rightName : String} {output : Option Path},
    Request.read words = .ok (.run general command after) →
      Task.read command after = .ok (.combine left right leftName rightName output) →
      (run surroundings words).ending.exitCode = 0 →
      ∃ seen tree text found, surroundings.Sees general seen ∧ seen.Combines left right leftName rightName tree ∧
        tree.encode.canonical = .ok text ∧ seen.Delivered output text (run surroundings words).outputs ∧
          ReadsBack (text ++ "\n") found ∧ tree.encode.same found.encode = true := by
  intro claimed
  obtain ⟨seen, tree, text, found, sees, combines, canonical, _, back, same⟩ :=
    claimed besideRounded askForPair_read askForPair_task run_rounded
  obtain rfl : besideRounded = seen := sees
  obtain rfl := combines_rounded combines
  have sound : roundedPair.fault? = none := combines.fault?_eq_none
  let later : Surroundings := ⟨⟨fun _ => .file (text ++ "\n"), []⟩, [], "/root"⟩
  have readsFound : later.ReadsTree (.ofText "out.json") found := back later _ _ known_output rfl rfl
  have readsWritten : later.ReadsTree (.ofText "out.json") roundedPair.written :=
    readsBack_written sound apart_rounded canonical later _ _ known_output rfl rfl
  obtain rfl := readsFound.unique readsWritten
  rw [written_rounded] at same
  have differs : roundedPair.encode.same roundedBack.encode = false := by decide +kernel
  exact absurd (same.symm.trans differs) (by decide)

end Inputs

end BoxTree.Command
