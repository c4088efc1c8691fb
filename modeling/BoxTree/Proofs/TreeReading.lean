import BoxTree.Proofs.JsonValues
import BoxTree.Proofs.QuietSteps
import BoxTree.Proofs.TreeShape

/-! Reading a tree from a JSON file. It comes to a well-formed tree or to one panel, but for two faults of a document:
a node with one part that is no mapping, and an infinite number where a position belongs. Other documents may have a
third fault: the parts of what is no node are put in order for the message, and values inside themselves have none. -/

namespace BoxTree

namespace Value

/-- Among the parts of a value, whatever they are for, there is an infinite number. -/
inductive HasInfinite : Value → Prop where
  | number {number : Double} (defined : number.isNaN = false) (infinite : number.isFinite = false) :
      HasInfinite (double number)
  | element {value item : Value} {items : List Value} (parts : value.elements? = some items) (member : item ∈ items)
      (inside : HasInfinite item) : HasInfinite value
  | entry {value : Value} {entries : Fields} {entry : Value × Value} (opened : value.opened = map entries)
      (member : entry ∈ entries) (inside : HasInfinite entry.2) : HasInfinite value

private theorem HasInfinite.of_getText? {fields : Fields} {key : String} {value : Value}
    (found : Entries.getText? fields key = some value) (infinite : value.HasInfinite) : (map fields).HasInfinite := by
  obtain ⟨entry, under, rfl⟩ := Option.map_eq_some_iff.mp found
  exact .entry rfl (List.mem_of_find?_eq_some under) infinite

/-- One part, but not under a name. -/
def IsLone (value : Value) : Prop := (∃ part, value.elements? = some [part]) ∧ ∀ entries, value.opened ≠ map entries

/-- A document with a fault for which there is no panel. -/
def Escapes (document : Value) : Prop :=
  document.HasInfinite ∨ ∃ fields nodes items,
    document = map fields ∧ Entries.getText? fields "nodes" = some nodes ∧ nodes.elements? = some items ∧
      ∃ node ∈ items, node.IsLone

/-- Putting the parts of a value in order has no end. -/
def IsTangled (value : Value) : Prop := ∃ keys, value.elements? = some keys ∧ ¬ Ends (sorted keys)

/-- A document with such a value among its nodes. -/
def Entangles (document : Value) : Prop :=
  ∃ fields nodes items, document = map fields ∧ Entries.getText? fields "nodes" = some nodes ∧
    nodes.elements? = some items ∧ ∃ node ∈ items, node.IsTangled

private theorem IsJson.not_entangles {document : Value} (json : document.IsJson) : ¬ document.Entangles := by
  rintro ⟨fields, nodes, items, rfl, found, parts, node, member, keys, listed, endless⟩
  have isNode := (json.getText? found).elements parts node member
  exact endless (sorted_ends (isNode.elements listed))

end Value

namespace TreeDecodeError

def isTold (error : TreeDecodeError) : Bool :=
  match error.category with
  | .badValue | .badKind | .missingKey => true
  | .missingMember | .overflow | .endless => false

end TreeDecodeError

namespace TreeDecode

open TreeDecodeError

variable {α β : Type}

def ErrsOnly (result : Except TreeDecodeError α) (reason : Prop) : Prop :=
  ∀ error, result = .error error → error.isTold = true ∨ reason

variable {reason : Prop} {value : Value}

private theorem ErrsOnly.ok (value : α) : ErrsOnly (.ok value) reason := nofun

private theorem ErrsOnly.told {error : TreeDecodeError} (told : error.isTold = true) :
    ErrsOnly (.error error : Except TreeDecodeError α) reason := fun _ same => .inl (Except.error.inj same ▸ told)

private theorem ErrsOnly.mono {other : Prop} {result : Except TreeDecodeError α} (errs : ErrsOnly result reason)
    (weaker : reason → other) : ErrsOnly result other := fun error failed => (errs error failed).imp_right weaker

private theorem ErrsOnly.bind {step : Except TreeDecodeError α} {next : α → Except TreeDecodeError β}
    (first : ErrsOnly step reason) (rest : ∀ value, step = .ok value → ErrsOnly (next value) reason) :
    ErrsOnly (step >>= next) reason := by
  cases step with
  | error error => exact fun other same => first other (congrArg Except.error (Except.error.inj same))
  | ok value => exact rest value rfl

private theorem ErrsOnly.mapM {ι : Type} {items : List ι} {step : ι → Except TreeDecodeError α}
    (each : ∀ item ∈ items, ErrsOnly (step item) reason) : ErrsOnly (items.mapM step) reason := by
  induction items with
  | nil => exact .ok []
  | cons item rest ih =>
    obtain ⟨first, others⟩ := List.forall_mem_cons.mp each
    rw [List.mapM_cons]
    exact first.bind fun value _ => (ih others).bind fun values _ => .ok _

private theorem elements_errs : ErrsOnly (elements value) reason := by
  unfold elements
  split
  · exact .ok _
  · exact .told rfl

private theorem pair_errs : ErrsOnly (pair value) reason := by
  unfold pair
  split
  · exact .told rfl
  · exact .ok _
  · split
    · exact .told rfl
    · exact .told rfl

private theorem number_errs {shown : String} {read : Except Text.IntegerFault Int} :
    ErrsOnly (read.mapError (badNumber shown)) reason := by
  cases read with
  | ok number => exact .ok number
  | error fault => exact .told rfl

private theorem position_errs : ErrsOnly (position value) value.HasInfinite := by
  cases value with
  | double number =>
    rw [position]
    split
    · exact .told rfl
    · split
      · exact .ok _
      · exact fun _ _ => .inr (.number (by simp_all) (by simp_all))
  | text content => exact number_errs
  | bytes content => exact number_errs
  | int | bool => exact .ok _
  | _ => exact .told rfl

private theorem positions_errs : ErrsOnly (positions value) value.HasInfinite := by
  apply elements_errs.bind
  intro items found
  apply ErrsOnly.mapM
  intro item member
  exact position_errs.mono (.element (elements_eq_ok_iff.mp found) member)

private theorem positionPair_errs : ErrsOnly (positionPair value) value.HasInfinite := by
  apply pair_errs.bind
  rintro ⟨first, second⟩ found
  have parts := pair_eq_ok_iff.mp found
  apply (position_errs.mono (.element parts List.mem_cons_self)).bind
  intro left _
  apply (position_errs.mono (.element parts (List.mem_cons_of_mem _ List.mem_cons_self))).bind
  intro right _
  exact .ok _

private theorem entry_errs {place : Nat} : ErrsOnly (entry place value) reason := by
  unfold entry
  split
  · exact .told rfl
  · split
    · exact .told rfl
    · exact .ok _
  · exact .told rfl

private theorem content_errs : ErrsOnly (content value) reason := by
  unfold content
  split
  · exact .ok _
  · apply elements_errs.bind
    intro items _
    apply (ErrsOnly.mapM fun _ _ => entry_errs).bind
    intro entries _
    exact .ok _

private theorem variant_errs {tag : Value} : ErrsOnly (variant tag value) value.HasInfinite := by
  unfold variant
  split
  · apply pair_errs.bind
    rintro ⟨inside, children⟩ found
    apply content_errs.bind
    intro content _
    apply (positions_errs.mono (.element (pair_eq_ok_iff.mp found) (List.mem_cons_of_mem _ List.mem_cons_self))).bind
    intro children _
    exact .ok _
  · apply positionPair_errs.bind
    rintro ⟨left, right⟩ _
    exact .ok _
  · apply positionPair_errs.bind
    rintro ⟨left, right⟩ _
    exact .ok _
  · apply position_errs.bind
    intro child _
    exact .ok _
  · exact .told rfl

private theorem node_errs : ErrsOnly (node value) ((value.HasInfinite ∨ value.IsLone) ∨ value.IsTangled) := by
  unfold node
  split
  next => exact .told rfl
  next tag inside opened _ =>
    exact variant_errs.mono fun infinite => .inl (.inl (.entry opened List.mem_cons_self infinite))
  next part parts notSingle =>
    intro error _
    refine .inr (.inl (.inr ⟨⟨part, parts⟩, ?_⟩))
    intro entries opened
    rw [← elements?_opened, opened] at parts
    rcases entries with _ | ⟨⟨tag, inside⟩, _ | ⟨second, rest⟩⟩
    · cases parts
    · exact notSingle tag inside opened
    · cases parts
  next keys _ parts _ =>
    cases order : Value.sorted keys with
    | ok => exact .told rfl
    | error reason =>
      cases reason with
      | endless => exact fun _ _ => .inr (.inr ⟨keys, parts, fun ends => ends order⟩)
      | _ => exact .told rfl

private theorem nameText_errs : ErrsOnly (nameText value) reason := by
  unfold nameText
  split
  · exact .told rfl
  · exact .ok _

private theorem edgeName_errs : ErrsOnly (edgeName value) value.HasInfinite := by
  apply pair_errs.bind
  rintro ⟨key, name⟩ found
  apply pair_errs.bind
  rintro ⟨parent, child⟩ foundPair
  have inside {item : Value} (infinite : item.HasInfinite) (member : item ∈ [parent, child]) : value.HasInfinite :=
    .element (pair_eq_ok_iff.mp found) List.mem_cons_self (.element (pair_eq_ok_iff.mp foundPair) member infinite)
  apply (position_errs.mono fun infinite => inside infinite List.mem_cons_self).bind
  intro first _
  apply (position_errs.mono fun infinite => inside infinite (List.mem_cons_of_mem _ List.mem_cons_self)).bind
  intro second _
  apply nameText_errs.bind
  intro text _
  exact .ok _

end TreeDecode

/-- Decoding fails only for reasons that a panel tells of, but for documents with one of the faults. -/
theorem LinearTree.decode_errs (document : Value) :
    TreeDecode.ErrsOnly (decode document) (document.Escapes ∨ document.Entangles) := by
  unfold decode
  split
  next fields =>
    split
    next => exact .told rfl
    next nodes found =>
      apply TreeDecode.elements_errs.bind
      intro items parts
      have inside := TreeDecode.elements_eq_ok_iff.mp parts
      have node_errs (node : Value) (member : node ∈ items) :
          TreeDecode.ErrsOnly (TreeDecode.node node) (Value.Escapes (.map fields) ∨ (Value.map fields).Entangles) :=
        TreeDecode.node_errs.mono fun
          | .inl (.inl infinite) => .inl (.inl (.of_getText? found (.element inside member infinite)))
          | .inl (.inr lone) => .inl (.inr ⟨fields, nodes, items, rfl, found, inside, node, member, lone⟩)
          | .inr tangled => .inr ⟨fields, nodes, items, rfl, found, inside, node, member, tangled⟩
      apply (TreeDecode.ErrsOnly.mapM node_errs).bind
      intro nodes _
      apply TreeDecode.elements_errs.bind
      intro entries listed
      have name_errs (entry : Value) (member : entry ∈ entries) :
          TreeDecode.ErrsOnly (TreeDecode.edgeName entry)
            (Value.Escapes (.map fields) ∨ (Value.map fields).Entangles) := by
        refine TreeDecode.edgeName_errs.mono fun infinite => .inl (.inl ?_)
        cases under : Entries.getText? fields "edgeNames" with
        | none =>
          rw [under] at listed
          cases listed
          cases member
        | some names =>
          rw [under] at listed
          exact .of_getText? under (.element (TreeDecode.elements_eq_ok_iff.mp listed) member infinite)
      apply (TreeDecode.ErrsOnly.mapM name_errs).bind
      intro names _
      exact .ok _
  next => exact .told rfl

/-- Why a JSON file is no tree. -/
theorem Disk.tree_json {disk : Disk} {path : Path} {text : String} {error : TreeLoadError}
    (found : disk.look path = .file text) (json : path.isJson = true) (failed : disk.tree path = .error error) :
    (∃ reason, error = .document (.json reason)) ∨ (∃ file, error = .noTree file) ∨
      ∃ document reason, Json.read (asLines text) = .ok document ∧ LinearTree.decode document = .error reason ∧
        error = .decoding reason := by
  rw [tree, document_json found json] at failed
  cases read : Json.read (asLines text) with
  | error reason =>
    rw [read] at failed
    exact .inl ⟨reason, (Except.error.inj failed).symm⟩
  | ok document =>
    rw [read] at failed
    simp only [Except.mapError, bind, Except.bind] at failed
    split at failed
    next fields =>
      split at failed
      next =>
        cases decoded : LinearTree.decode (.map fields) with
        | error reason =>
          rw [decoded] at failed
          exact .inr (.inr ⟨.map fields, reason, rfl, decoded, (Except.error.inj failed).symm⟩)
        | ok tree =>
          rw [decoded] at failed
          cases failed
      next => exact .inr (.inl ⟨path.name, (Except.error.inj failed).symm⟩)
    next => exact .inr (.inl ⟨path.name, (Except.error.inj failed).symm⟩)

namespace Command

def Task.trees : Task → List Path
  | inspect path _ _ => [path]
  | combine left right _ _ _ => [left, right]
  | _ => []

private theorem TreeFile.told_decoding (path : Path) (error : TreeDecodeError) :
    (∃ panel, told path (.decoding error) = .ok panel) ∨
      error.isTold = false ∧ told path (.decoding error) = .error (.decoding error) := by
  cases category : error.category <;> simp [told, TreeDecodeError.isTold, category]

namespace Surroundings

variable {surroundings : Surroundings} {path : Path} {paths : List Path} {ending : Ending} {outputs more : List Output}

def HoldsJson (surroundings : Surroundings) (path : Path) (found : Except Json.Error Value) : Prop :=
  ∃ place text, path.expanded? surroundings.home = some place ∧ surroundings.disk.look place = .file text ∧
    place.isJson = true ∧ Json.read (Disk.asLines text) = found

private theorem HoldsJson.unique {found other : Except Json.Error Value} (holds : surroundings.HoldsJson path found)
    (again : surroundings.HoldsJson path other) : found = other := by
  obtain ⟨place, text, known, stands, _, rfl⟩ := holds
  obtain ⟨same, content, knownAgain, standsAgain, _, rfl⟩ := again
  obtain rfl : place = same := Option.some.inj (known.symm.trans knownAgain)
  obtain rfl : text = content := Found.file.inj (stands.symm.trans standsAgain)
  rfl

/-- How a command ends for want of a well-formed tree: with one panel, or with none for a document with one of the
two faults. -/
def Explains (surroundings : Surroundings) (paths : List Path) (ending : Ending) (outputs : List Output) : Prop :=
  (ending = .refused ∧ ∃ panel, panels outputs = [panel]) ∨
    ∃ path ∈ paths, ∃ document error, surroundings.HoldsJson path (.ok document) ∧
      LinearTree.decode document = .error error ∧ error.isTold = false ∧ document.Escapes ∧
        ending = .failed (.decoding error) ∧ panels outputs = []

private theorem lasting_explains (ending : Ending) : Lasting (surroundings.Explains paths ending) := by
  intro quiet outputs none explains
  unfold Explains
  rwa [panels_append_of_quiet none]

end Surroundings

namespace Run

variable {surroundings : Surroundings} {general : General} {path : Path} {paths : List Path}

/-- After a step that shows no panel. -/
theorem explains_bind {α : Type} {step : Run α} {next : α → Run Unit} {given : α → Prop}
    (first : Ensures step (fun value added => given value ∧ panels added = []) (surroundings.Explains paths))
    (rest : ∀ value, given value → Ensures (next value) (fun _ _ => False) (surroundings.Explains paths)) :
    Ensures (step >>= next) (fun _ _ => False) (surroundings.Explains paths) :=
  quiet_bind first rest (fun _ _ _ _ => id) Surroundings.lasting_explains

private theorem refuse_ensures {α : Type} (panel : Panel) : Ensures (refuse panel : Run α) (fun _ _ => False)
    fun ending added => ending = .refused ∧ added = [.panel panel] :=
  fun _ => ⟨[.panel panel], rfl, rfl, rfl⟩

/-- Reading a JSON file. -/
theorem tree_ensures {found : Except Json.Error Value} (holds : surroundings.HoldsJson path found)
    (member : path ∈ paths) :
    Ensures (Run.tree surroundings path) (fun tree added => surroundings.ReadsTree path tree ∧ panels added = [])
      (surroundings.Explains paths) := by
  obtain ⟨place, text, known, stands, json, read⟩ := holds
  have refused {panel : Panel} : Ensures (refuse panel : Run DocumentTree)
      (fun tree added => surroundings.ReadsTree path tree ∧ panels added = []) (surroundings.Explains paths) :=
    (refuse_ensures panel).weaken (fun _ _ => False.elim) fun _ _ ⟨ending, outputs⟩ =>
      .inl ⟨ending, panel, outputs ▸ rfl⟩
  rw [Run.tree, expanded, known, pure_bind]
  cases decoded : surroundings.disk.tree place with
  | ok tree =>
    rw [orTell, pure_bind]
    split
    next => exact refused
    next sound => exact Ensures.pure ⟨⟨place, known, decoded, sound⟩, rfl⟩
  | error error =>
    rw [orTell]
    rcases Disk.tree_json stands json decoded with
      ⟨reason, rfl⟩ | ⟨file, rfl⟩ | ⟨document, reason, parsed, failed, rfl⟩
    · exact refused
    · exact refused
    rcases TreeFile.told_decoding path reason with ⟨panel, told⟩ | ⟨untold, told⟩
    · rw [told]
      exact refused
    · have reasons := (LinearTree.decode_errs document reason failed).resolve_left (by simp [untold])
      have escapes : document.Escapes := reasons.resolve_right (Json.isJson_of_read parsed).not_entangles
      rw [told]
      exact Ensures.throw (.inr ⟨path, member, document, reason,
        ⟨place, text, known, stands, json, read ▸ parsed⟩, failed, untold, escapes, rfl, rfl⟩)

/-- A task that reads trees from JSON files, but not all of them. -/
theorem task_explains {command : String} {wanted : Task}
    (usable : ∀ path settings asJson, wanted = .inspect path settings asJson →
      ∃ chosen, surroundings.Chooses settings chosen)
    (files : ∀ path ∈ wanted.trees, ∃ found, surroundings.HoldsJson path found)
    (unread : ¬ ∀ path ∈ wanted.trees, ∃ tree, surroundings.ReadsTree path tree) :
    Ensures (task surroundings general command wanted) (fun _ _ => False) (surroundings.Explains wanted.trees) := by
  cases wanted with
  | inspect path settings asJson =>
    obtain ⟨chosen, chooses⟩ := usable path settings asJson rfl
    obtain ⟨found, holds⟩ := files path List.mem_cons_self
    apply explains_bind (settings_ensures chooses Surroundings.lasting_explains)
    intro settings _
    apply explains_bind (tree_ensures holds List.mem_cons_self)
    intro tree reads
    exact absurd (List.forall_mem_singleton.mpr ⟨tree, reads⟩) unread
  | combine left right leftName rightName output =>
    obtain ⟨⟨_, holdsLeft⟩, others⟩ := List.forall_mem_cons.mp files
    obtain ⟨_, holdsRight⟩ := List.forall_mem_singleton.mp others
    apply explains_bind (tree_ensures holdsLeft List.mem_cons_self)
    intro leftTree readsLeft
    apply explains_bind (tree_ensures holdsRight (List.mem_cons_of_mem _ List.mem_cons_self))
    intro rightTree readsRight
    refine absurd (List.forall_mem_cons.mpr ⟨⟨leftTree, readsLeft⟩, ?_⟩) unread
    exact List.forall_mem_singleton.mpr ⟨rightTree, readsRight⟩
  | _ => exact absurd (List.forall_mem_nil _) unread

private theorem request_explains {command : String} {words : List String} {wanted : Task} {seen : Surroundings}
    (read : Task.read command words = .ok wanted) (sees : surroundings.Sees general seen)
    (explains : Ensures (task seen general command wanted) (fun _ _ => False) (seen.Explains paths)) :
    Ensures (Run.request surroundings (.run general command words)) (fun _ _ => False) (seen.Explains paths) :=
  request_ensures read sees explains (fun _ _ _ _ => id) Surroundings.lasting_explains

end Run

/-- The trees of JSON files are read and well-formed, or the command tells in one panel why not; only for documents with
one of the two faults it fails without a panel. Decoding itself fails with other errors only for such documents, or for
one that holds values inside themselves, which is no JSON document. -/
theorem run_reads_trees (surroundings : Surroundings) {words after : List String} {general : General} {command : String}
    {wanted : Task} (asked : Request.read words = .ok (.run general command after))
    (read : Task.read command after = .ok wanted) {seen : Surroundings} (sees : surroundings.Sees general seen)
    (usable : ∀ path settings asJson, wanted = .inspect path settings asJson → ∃ chosen, seen.Chooses settings chosen)
    (files : ∀ path ∈ wanted.trees, ∃ found, seen.HoldsJson path found) :
    ((∀ path ∈ wanted.trees, ∃ tree, seen.ReadsTree path tree) ∨
        seen.Explains wanted.trees (run surroundings words).ending (run surroundings words).outputs) ∧
      ∀ document error, LinearTree.decode document = .error error →
        error.isTold = true ∨ document.Escapes ∨ document.Entangles := by
  refine ⟨?_, LinearTree.decode_errs⟩
  by_cases readAll : ∀ path ∈ wanted.trees, ∃ tree, seen.ReadsTree path tree
  · exact .inl readAll
  · have explained := Run.request_explains read sees (Run.task_explains usable files readAll)
    rw [run, asked]
    exact .inr (explained.outcome.resolve_left And.right)

/-- A text, which is no node. -/
def emptyText : String := "\x7b\"nodes\": [\"\"]\x7d"

private theorem holdsJson_emptyText : (⟨Files.disk [("t.json", emptyText)], [], "/root"⟩ : Surroundings).HoldsJson
    (.ofText "t.json") (.ok (.map [(.text "nodes", .list [.text ""])])) :=
  ⟨.ofText "t.json", emptyText, known_tree, rfl, rfl, by cbv⟩

theorem run_reads_trees_emptyText :
    let came := run ⟨Files.disk [("t.json", emptyText)], [], "/root"⟩ ["inspect", "t.json"]
    came.ending = .refused ∧ ∃ panel, panels came.outputs = [panel] := by
  have asked : Request.read ["inspect", "t.json"] = .ok (.run {} "inspect" ["t.json"]) := rfl
  have wanted : Task.read "inspect" ["t.json"] = .ok (.inspect (.ofText "t.json") none false) := rfl
  have holds := holdsJson_emptyText
  have came := (run_reads_trees _ asked wanted rfl ?_ (List.forall_mem_singleton.mpr ⟨_, holds⟩)).1
  · rcases came with readAll | told | ⟨path, member, document, error, holdsDocument, failed, untold, _⟩
    · obtain ⟨tree, place, known, read, sound⟩ := readAll _ List.mem_cons_self
      obtain ⟨same, text, knownAgain, stands, json, parsed⟩ := holds
      obtain rfl : place = same := Option.some.inj (known.symm.trans knownAgain)
      rw [Disk.tree, Disk.document_json stands json, parsed] at read
      cases read
    · exact told
    · cases List.mem_singleton.mp member
      cases holds.unique holdsDocument
      cases failed
      cases untold
  · rintro _ _ _ ⟨⟩
    exact ⟨{}, rfl⟩

/-- A list of one text, which is no node either. -/
def loneText : String := "\x7b\"nodes\": [[\"\"]]\x7d"

def loneTextDocument : Value := .map [(.text "nodes", .list [.list [.text ""]])]

/-- No panel tells that a list of one part is no node. -/
theorem run_loneText_untold :
    (⟨Files.disk [("t.json", loneText)], [], "/root"⟩ : Surroundings).HoldsJson (.ofText "t.json")
        (.ok loneTextDocument) ∧
      LinearTree.decode loneTextDocument = .error (.noMembers "list") ∧
        run ⟨Files.disk [("t.json", loneText)], [], "/root"⟩ ["inspect", "t.json"] =
          ⟨.failed (.decoding (.noMembers "list")), []⟩ := by
  have asked : Request.read ["inspect", "t.json"] = .ok (.run {} "inspect" ["t.json"]) := rfl
  have wanted : Task.read "inspect" ["t.json"] = .ok (.inspect (.ofText "t.json") none false) := rfl
  have stands : (Files.disk [("t.json", loneText)]).look (.ofText "t.json") = .file loneText := rfl
  have parsed : Json.read (Disk.asLines loneText) = .ok loneTextDocument := by cbv
  have decoded : (Files.disk [("t.json", loneText)]).tree (.ofText "t.json") =
      .error (.decoding (.noMembers "list")) := by
    rw [Disk.tree, Disk.document_json stands rfl, parsed]
    rfl
  refine ⟨⟨.ofText "t.json", loneText, known_tree, stands, rfl, parsed⟩, rfl, ?_⟩
  rw [run, asked]
  simp only [Run.request, Run.withVariables, wanted, Run.task, Run.inspect, Run.settings, Run.tree, Run.expanded,
    known_tree, decoded, pure_bind]
  rfl

end Command
end BoxTree
