import BoxTree.Proofs.CanonicalReading
import BoxTree.Proofs.CommandResults
import BoxTree.Proofs.RelabeledTrees
import BoxTree.Proofs.TreeShape

/-! Trees read from the text that commands write of them. The nodes and the edge names are those of the tree; the content
of a box is what its canonical text says. -/

namespace BoxTree

namespace Value

/-- Values that canonical text tells in full: no tuples, texts for keys, and no double that is written with digits alone
where doubles do not hold every whole number. -/
inductive Exact : Value → Prop where
  | null : Exact null
  | bool (truth : Bool) : Exact (bool truth)
  | int (number : Int) : Exact (int number)
  | double {number : Double} (finite : number.isFinite = true)
      (exact : ∀ size, number.shortest.bare? = some size → size < 2 ^ 53) : Exact (double number)
  | text (content : Wording) : Exact (text content)
  | list {items : List Value} (exact : ∀ item ∈ items, Exact item) : Exact (list items)
  | map {entries : List (Value × Value)} (names : List Wording) (keys : entries.map (·.1) = names.map text)
      (once : names.Nodup) (exact : ∀ entry ∈ entries, Exact entry.2) : Exact (map entries)

private theorem sameItems_map {f : Value → Value} {items : List Value}
    (every : ∀ item ∈ items, item.same (f item) = true) :
    sameItems items (items.map f) = true := by
  induction items with
  | nil => rfl
  | cons item rest ih =>
    obtain ⟨first, every⟩ := List.forall_mem_cons.mp every
    rw [List.map_cons, sameItems, first, ih every]
    rfl

private theorem sameEntries_eq (entries others : List (Value × Value)) :
    sameEntries entries others = entries.all fun entry => sameEntry entry others := by
  induction entries with
  | nil => rfl
  | cons entry rest ih => rw [sameEntries, ih, List.all_cons]

private theorem text_same (left right : Wording) : (text left).same (text right) = (left == right) := rfl

section Keys

variable {entries : List (Value × Value)} {names : List Wording} {name : Wording} {value : Value}

/-- What is looked up by a text is found where that text is a key. -/
theorem find?_of_texts (keys : entries.map (·.1) = names.map text) (once : names.Nodup)
    (listed : (text name, value) ∈ entries) {sought : Value × Value → Bool}
    (tells : ∀ key other, sought (text key, other) = (key == name)) : entries.find? sought = some (text name, value) := by
  cases found : entries.find? sought with
  | none =>
    have missed := List.find?_eq_none.mp found _ listed
    simp [tells] at missed
  | some entry =>
    have member := List.mem_of_find?_eq_some found
    have told := List.find?_some found
    have key : entry.1 ∈ names.map text := keys ▸ List.mem_map_of_mem member
    obtain ⟨other, _, same⟩ := List.mem_map.mp key
    obtain ⟨_, held⟩ := entry
    obtain rfl : text other = _ := same
    rw [tells, beq_iff_eq] at told
    have keysOnce : (entries.map (·.1)).Nodup := keys ▸ once.map (fun _ _ => text.inj)
    exact congrArg some (List.inj_on_of_nodup_map keysOnce member listed (congrArg text told))

/-- An entry agrees with the one of others under its text. -/
theorem sameEntry_of_texts (keys : entries.map (·.1) = names.map text) (once : names.Nodup) {other : Value}
    (listed : (text name, other) ∈ entries) (same : value.same other = true) :
    sameEntry (text name, value) entries = true := by
  have found : (entries.find? fun entry => (text name).same entry.1) = some (text name, other) :=
    find?_of_texts keys once listed fun key _ => (text_same name key).trans BEq.comm
  rw [sameEntry, found]
  exact same

private theorem written_keys (entries : List (Value × Value)) :
    ((arranged entries).map fun entry => (text entry.1.plain, entry.2.written)).map (·.1) =
      ((arranged entries).map (·.1.plain)).map text := by
  rw [List.map_map, List.map_map]
  rfl

private theorem nodup_written (once : (entries.map (·.1.plain)).Nodup) : ((arranged entries).map (·.1.plain)).Nodup :=
  ((arranged_perm entries).map _).nodup_iff.mpr once

/-- What stands under a text is found under it in what is read. -/
theorem exists_written_fields {document : Value} (isMap : document = map entries)
    (once : (entries.map (·.1.plain)).Nodup) : ∃ fields, document.settled.written = map fields ∧
      ∀ (name : String) value, (text name, value) ∈ entries → Entries.getText? fields name = some value.settled.written := by
  let kept := entries.map fun entry => (entry.1, entry.2.settled)
  have keptOnce : (kept.map (·.1.plain)).Nodup := by rwa [List.map_map]
  have settled : document.settled = map kept := by
    rw [isMap, Value.settled, settledEntries_eq, (latest_eq_self_iff _).mpr keptOnce]
  refine ⟨_, by rw [settled, written_map], ?_⟩
  intro name value listed
  have member : (text name, value.settled.written) ∈
      (arranged kept).map fun entry => (text entry.1.plain, entry.2.written) :=
    List.mem_map_of_mem ((arranged_perm kept).symm.subset (List.mem_map_of_mem listed))
  rw [Entries.getText?, Entries.get?,
    find?_of_texts (written_keys kept) (nodup_written keptOnce) member fun key _ => text_same key name]
  rfl

end Keys

private theorem Exact.same_written {value : Value} (exact : value.Exact) : value.same value.written = true := by
  induction exact with
  | null => rfl
  | bool truth => simp [written, same, whole?]
  | int number => simp [written, same, whole?]
  | double finite exact => exact Double.same_written finite exact
  | text content => simp [written, same]
  | list _ ih =>
    rw [written_list]
    exact sameItems_map ih
  | @map entries names keys once _ ih =>
    have order := arranged_perm entries
    have shown : (entries.map (·.1.plain)).Nodup := plain_of_texts keys ▸ once
    have every : ∀ entry ∈ entries, sameEntry entry
        ((arranged entries).map fun entry => (Value.text entry.1.plain, entry.2.written)) = true := by
      intro entry member
      have key : entry.1 ∈ names.map Value.text := keys ▸ List.mem_map_of_mem member
      obtain ⟨name, _, same⟩ := List.mem_map.mp key
      obtain ⟨_, held⟩ := entry
      obtain rfl : Value.text name = _ := same
      apply sameEntry_of_texts (written_keys entries) (nodup_written shown) _ (ih _ member)
      exact List.mem_map_of_mem (order.symm.subset member)
    rw [written_map, same, sameEntries_eq, List.all_eq_true.mpr every, List.length_map, order.length_eq]
    simp

private theorem Exact.textsApart {value : Value} (exact : value.Exact) : value.TextsApart := by
  induction exact with
  | list _ ih => exact .intro List.nodup_nil ih
  | map names keys once _ ih =>
    have shown := plain_of_texts keys
    exact .intro (by rwa [keyTexts, shown]) (List.forall_mem_map.mpr ih)
  | _ => exact .intro List.nodup_nil (List.forall_mem_nil _)

def writtenFields (content : Fields) : Fields :=
  (arranged content).map fun entry => (text entry.1.plain, entry.2.written)

theorem TextsApart.leaf {value : Value} (noKeys : value.keyTexts = []) (noParts : value.parts = []) : value.TextsApart :=
  .intro (noKeys ▸ List.nodup_nil) (noParts ▸ List.forall_mem_nil _)

/-- What holds of the values of a document if it holds of their parts. -/
structure Spreads (holds : Value → Prop) : Prop where
  int (number : Int) : holds (.int number)
  text (content : Wording) : holds (.text content)
  list {items : List Value} (every : ∀ item ∈ items, holds item) : holds (.list items)
  single {name : String} {value : Value} (part : holds value) : holds (.map [(.text name, value)])

private theorem spreads_exact : Spreads Exact where
  int := .int
  text := .text
  list := .list
  single exact := .map [_] rfl (List.nodup_singleton _) (List.forall_mem_singleton.mpr exact)

theorem spreads_textsApart : Spreads TextsApart where
  int _ := .leaf rfl rfl
  text _ := .leaf rfl rfl
  list every := .intro List.nodup_nil every
  single apart := .intro (List.nodup_singleton _) (List.forall_mem_singleton.mpr apart)

section Spreading

variable {holds : Value → Prop}

private theorem Spreads.ints (spreads : Spreads holds) (numbers : List Int) : holds (.list (numbers.map .int)) :=
  spreads.list (List.forall_mem_map.mpr fun number _ => spreads.int number)

private theorem Spreads.pair (spreads : Spreads holds) {first second : Value} (one : holds first)
    (other : holds second) :
    holds (.list [first, second]) :=
  spreads.list (List.forall_mem_cons.mpr ⟨one, List.forall_mem_singleton.mpr other⟩)

private theorem Spreads.node (spreads : Spreads holds) {node : TreeNode Fields}
    (contents : ∀ content children, node = .box content children → holds (.map content)) : holds node.encode := by
  cases node with
  | box content children => exact spreads.single (spreads.pair (contents content children rfl) (spreads.ints children))
  | and left right | or left right => exact spreads.single (spreads.ints [left, right])
  | not child => exact spreads.single (spreads.int child)

private theorem Spreads.nodes (spreads : Spreads holds) {nodes : List (TreeNode Fields)}
    (contents : ∀ content children, .box content children ∈ nodes → holds (.map content)) :
    holds (.list (nodes.map TreeNode.encode)) := by
  refine spreads.list (List.forall_mem_map.mpr fun node listed => spreads.node ?_)
  rintro content children rfl
  exact contents content children listed

private theorem Spreads.names (spreads : Spreads holds) (entries : List (EdgeKey × Wording)) :
    holds (.list (entries.map LinearTree.encodeName)) :=
  spreads.list (List.forall_mem_map.mpr fun entry _ =>
    spreads.pair (spreads.ints [entry.1.1, entry.1.2]) (spreads.text entry.2))

end Spreading

theorem arranged_single (entry : Value × Value) : arranged [entry] = [entry] := List.mergeSort_singleton _

private theorem written_single (name : String) (value : Value) :
    (map [(text name, value)]).written = map [(text name, value.written)] := by
  rw [written_map, arranged_single]
  rfl

private theorem written_ints (numbers : List Int) : (list (numbers.map .int)).written = list (numbers.map .int) := by
  rw [written_list, List.map_map]
  rfl

end Value

open Value (written written_list written_map)

def TreeNode.written (node : TreeNode Fields) : TreeNode Fields := node.mapContent Value.writtenFields

private theorem TreeNode.encode_written (node : TreeNode Fields) : node.written.encode = node.encode.written := by
  cases node with
  | box content children =>
    rw [encode, Value.written_single, written_list, List.map_cons, List.map_cons, written_map, Value.written_ints]
    rfl
  | and left right | or left right =>
    rw [encode, Value.written_single, written_list]
    rfl
  | not child =>
    rw [encode, Value.written_single]
    rfl

namespace LinearTree

def written (tree : DocumentTree) : DocumentTree := tree.mapContent Value.writtenFields

/-- In the content of each box, different keys have different texts. -/
def TextsApart (tree : DocumentTree) : Prop :=
  ∀ content children, .box content children ∈ tree.nodes → (Value.map content).TextsApart

variable {tree : DocumentTree}

private theorem written_encodeName (entry : EdgeKey × Wording) : (encodeName entry).written = encodeName entry := by
  rw [encodeName, written_list, List.map_cons, List.map_cons, written_list]
  rfl

private theorem textsApart_encode (apart : tree.TextsApart) : tree.encode.TextsApart := by
  have nodes := Value.spreads_textsApart.nodes apart
  have names := Value.spreads_textsApart.names tree.edgeNames
  have once : tree.encode.keyTexts.Nodup := by simp [encode, Value.keyTexts, Value.plain]
  exact .intro once (List.forall_mem_cons.mpr ⟨nodes, List.forall_mem_singleton.mpr names⟩)

private theorem written_nodes (tree : DocumentTree) : (Value.list (tree.nodes.map TreeNode.encode)).written =
    .list (tree.written.nodes.map TreeNode.encode) := by
  rw [written_list, written, mapContent, List.map_map, List.map_map]
  exact congrArg Value.list (List.map_congr_left fun node _ => node.encode_written.symm)

private theorem written_names (tree : DocumentTree) : (Value.list (tree.edgeNames.map encodeName)).written =
    .list (tree.edgeNames.map encodeName) := by
  rw [written_list, List.map_map]
  exact congrArg Value.list (List.map_congr_left fun entry _ => written_encodeName entry)

/-- What is read from the document of a tree, once it is written. -/
theorem decode_written (tree : DocumentTree) : ∃ fields, tree.encode.written = .map fields ∧
    (Entries.getText? fields "nodes").isSome = true ∧ decode (.map fields) = .ok tree.written := by
  have exactly := (Value.arranged_perm [(.text "nodes", .list (tree.nodes.map TreeNode.encode)),
    (.text "edgeNames", .list (tree.edgeNames.map encodeName))]).map fun entry =>
      (Value.text entry.1.plain, entry.2.written)
  refine ⟨_, written_map _, ?_, (TreeDecode.decode_eq_ok_iff exactly).mpr ?_⟩
  · rw [(TreeDecode.getText?_of_exactly exactly).1]
    rfl
  · rw [written_nodes, written_names]
    exact TreeDecode.reads_encode tree.written

/-- The content of each box is one that canonical text tells in full. -/
def Exact (tree : DocumentTree) : Prop :=
  ∀ content children, .box content children ∈ tree.nodes → (Value.map content).Exact

theorem Exact.textsApart (exact : tree.Exact) : tree.TextsApart :=
  fun content children listed => (exact content children listed).textsApart

/-- Contents do not count for the faults of a tree. -/
theorem fault?_written (tree : DocumentTree) : tree.written.fault? = tree.fault? := by
  have length : tree.written.length = tree.length := List.length_map _
  have links : tree.written.links = tree.links := by
    have children (node : TreeNode Fields) : node.written.children = node.children := by cases node <;> rfl
    have nodes : tree.written.nodes = tree.nodes.map TreeNode.written := rfl
    rw [LinearTree.links, nodes, List.zipIdx_map, List.map_map, LinearTree.links]
    refine congrArg List.flatten (List.map_congr_left fun entry _ => ?_)
    simp only [Function.comp_apply, Prod.map_fst, Prod.map_snd, children, id_eq]
  have unreached : tree.written.unreached = tree.unreached := by
    rw [LinearTree.unreached, LinearTree.unreached, positions, positions, length, links]
  have names : tree.written.edgeNames = tree.edgeNames := rfl
  rw [fault?, fault?, length, links, unreached, names]

/-- A tree whose contents are told in full is read as one that is equal to it. -/
theorem Exact.same_written (exact : tree.Exact) : tree.encode.same tree.written.encode = true := by
  have sameNodes := (Value.spreads_exact.nodes exact).same_written
  have sameNames := (Value.spreads_exact.names tree.edgeNames).same_written
  rw [written_nodes] at sameNodes
  rw [written_names] at sameNames
  have once : [Wording.whole "nodes", .whole "edgeNames"].Nodup := by decide
  have every : ∀ entry ∈ [(Value.text "nodes", Value.list (tree.nodes.map TreeNode.encode)),
      (.text "edgeNames", .list (tree.edgeNames.map encodeName))], Value.sameEntry entry
        [(.text "nodes", .list (tree.written.nodes.map TreeNode.encode)),
          (.text "edgeNames", .list (tree.edgeNames.map encodeName))] = true := by
    refine List.forall_mem_cons.mpr ⟨?_, List.forall_mem_singleton.mpr ?_⟩
    · exact Value.sameEntry_of_texts rfl once List.mem_cons_self sameNodes
    · exact Value.sameEntry_of_texts rfl once (List.mem_cons_of_mem _ List.mem_cons_self) sameNames
  rw [encode, encode, Value.same, Value.sameEntries_eq, Bool.and_eq_true]
  exact ⟨rfl, List.all_eq_true.mpr every⟩

end LinearTree

/-- The text of a file with one line is read as it is. -/
theorem Disk.asLines_line {text : String} (oneLine : '\r' ∉ text.toList) : asLines (text ++ "\n") = text ++ "\n" := by
  have lines (letters : List Char) (free : '\r' ∉ letters) : Text.unixLines letters = letters := by
    induction letters with
    | nil => rfl
    | cons c rest ih =>
      obtain ⟨other, free⟩ := not_or.mp (mt List.mem_cons.mpr free)
      rw [Text.unixLines, ih free]
      · exact fun _ same _ => other same.symm
      · exact fun same => other same.symm
  have free : '\r' ∉ (text ++ "\n").toList := by simpa using oneLine
  rw [asLines, lines _ free, String.ofList_toList]

theorem Json.Spells.read_line {value : Value} {content : String} (spells : Json.Spells content.toList value) :
    Json.read (Disk.asLines (content ++ "\n")) = .ok value := by
  rw [Disk.asLines_line spells.oneLine]
  exact spells.read (by simp [Json.isBlank])

/-- A JSON file with the canonical text of a tree holds the tree that is written. -/
theorem Disk.tree_written {tree : DocumentTree} (apart : tree.TextsApart) {text : String}
    (found : tree.encode.canonical = .ok text) {disk : Disk} {path : Path} (stands : disk.look path = .file (text ++ "\n"))
    (json : path.isJson = true) : disk.tree path = .ok tree.written := by
  obtain ⟨fields, written, present, decoded⟩ := tree.decode_written
  have read := (Value.spells_canonical found).read_line
  rw [(LinearTree.textsApart_encode apart).settled_eq_self, written] at read
  rw [Disk.tree, document_json stands json, read]
  simp only [Except.mapError, bind, Except.bind, present, if_true, decoded]

namespace Compilation

variable {compilation : Compilation Wording Fields}

/-- The trees in the document that a compilation is written as. -/
def HoldsTrees (document : Value) (trees : List DocumentTree) : Prop :=
  ∃ fields elements, document = .map fields ∧ Entries.getText? fields "trees" = some (.list elements) ∧
    elements.mapM LinearTree.decode = .ok trees

theorem holdsTrees_written (apart : ∀ compiled ∈ compilation.trees, compiled.tree.TextsApart) :
    HoldsTrees compilation.encode.settled.written (compilation.trees.map (·.tree.written)) := by
  have once : (["trees", "roots", "variables", "errors", "warnings", "disconnected"].map Wording.whole).Nodup := by
    decide
  have elements : (Value.list (compilation.trees.map (·.tree.encode))).settled.written =
      .list (compilation.trees.map (·.tree.encode.written)) := by
    rw [Value.settled, Value.settledItems_eq, written_list, List.map_map, List.map_map]
    refine congrArg Value.list (List.map_congr_left fun compiled listed => ?_)
    exact congrArg Value.written (LinearTree.textsApart_encode (apart compiled listed)).settled_eq_self
  have isMap : compilation.encode = .map _ := rfl
  obtain ⟨fields, same, found⟩ := Value.exists_written_fields isMap once
  refine ⟨fields, compilation.trees.map (·.tree.encode.written), same, ?_, ?_⟩
  · rw [← elements]
    exact found "trees" _ List.mem_cons_self
  · rw [mapM_eq_ok_iff, List.forall₂_map_left_iff, List.forall₂_map_right_iff, List.forall₂_same]
    intro compiled _
    obtain ⟨fields, same, _, decoded⟩ := compiled.tree.decode_written
    rw [same, decoded]

end Compilation

end BoxTree
