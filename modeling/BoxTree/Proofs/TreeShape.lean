import Mathlib.Data.List.Permutation
import Mathlib.Data.Set.List
import BoxTree.Proofs.Lookups
import BoxTree.Tree.Codec

/-! Which documents are read as a tree, and which of them are the document of that tree. Reading takes whatever stands for
a position, a list, an object or a name; only a document in the written form comes back when its tree is written. -/

namespace BoxTree

section Traversal

variable {ε γ δ : Type}

theorem mapM_eq_ok_iff {f : γ → Except ε δ} {items : List γ} {results : List δ} :
    items.mapM f = .ok results ↔ List.Forall₂ (fun item made => f item = .ok made) items results := by
  induction items generalizing results with
  | nil =>
    rw [List.mapM_nil, List.forall₂_nil_left_iff]
    exact ⟨fun same => (Except.ok.inj same).symm, fun same => same ▸ rfl⟩
  | cons item rest ih =>
    rw [List.mapM_cons, List.forall₂_cons_left_iff]
    simp only [bind_eq_ok_iff, ih, pure, Except.pure, Except.ok.injEq]
    constructor
    · rintro ⟨made, found, others, hold, rfl⟩
      exact ⟨made, others, found, hold, rfl⟩
    · rintro ⟨made, others, found, hold, rfl⟩
      exact ⟨made, found, others, hold, rfl⟩

end Traversal

namespace TreeDecode

/-- A value that is taken for a position: a number cut towards zero, a truth as zero or one, or letters or bytes that
spell a whole number. -/
inductive StandsFor : Value → Int → Prop where
  | int (number : Int) : StandsFor (.int number) number
  | bool (truth : Bool) : StandsFor (.bool truth) (if truth then 1 else 0)
  | double {number : Double} (finite : number.isFinite = true) : StandsFor (.double number) number.truncate
  | text {content : Wording} {number : Int} (spelled : Text.integer content.standIns = .ok number) :
      StandsFor (.text content) number
  | bytes {content : List UInt8} {number : Int} (spelled : Text.integer (Text.asciiLetters content) = .ok number) :
      StandsFor (.bytes content) number

/-- A value that is taken for the content of a box: a mapping, or pairs of a key and a value, of which later ones
replace earlier ones. -/
inductive HoldsContent : Value → Fields → Prop where
  | map {value : Value} {entries : Fields} (opened : value.opened = .map entries) : HoldsContent value entries
  | pairs {value : Value} {items : List Value} {entries : List (Value × Value)}
      (noMap : ∀ fields, value.opened ≠ .map fields) (parts : value.elements? = some items)
      (each : List.Forall₂ (fun item entry =>
        item.elements? = some [entry.1, entry.2] ∧ entry.1.changing? = none) items entries) :
      HoldsContent value (Entries.ofEntries entries)

/-- A value that is taken for a list of positions: anything with elements. -/
def HoldsPositions (value : Value) (positions : List Int) : Prop :=
  ∃ items, value.elements? = some items ∧ List.Forall₂ StandsFor items positions

/-- A value that is taken for a pair of positions: anything with two elements. -/
def HoldsPair (value : Value) (left right : Int) : Prop :=
  ∃ first second, value.elements? = some [first, second] ∧ StandsFor first left ∧ StandsFor second right

inductive Denotes : Value → TreeNode Fields → Prop where
  | box {value inside first second : Value} {content : Fields} {children : List Int}
      (opened : value.opened = .map [(.text "Box", inside)]) (parts : inside.elements? = some [first, second])
      (held : HoldsContent first content) (positions : HoldsPositions second children) :
      Denotes value (.box content children)
  | and {value inside : Value} {left right : Int} (opened : value.opened = .map [(.text "AND", inside)])
      (pair : HoldsPair inside left right) : Denotes value (.and left right)
  | or {value inside : Value} {left right : Int} (opened : value.opened = .map [(.text "OR", inside)])
      (pair : HoldsPair inside left right) : Denotes value (.or left right)
  | not {value inside : Value} {child : Int} (opened : value.opened = .map [(.text "NOT", inside)])
      (position : StandsFor inside child) : Denotes value (.not child)

/-- A value that is read as an edge name. Whatever stands in the name's place is shown as a text, unless a whole number
in it has too many digits. -/
def DenotesName (value : Value) (entry : EdgeKey × Wording) : Prop :=
  ∃ key name, value.elements? = some [key, name] ∧ HoldsPair key entry.1.1 entry.1.2 ∧
    name.hasOverlong = false ∧ name.plain = entry.2

/-- Values that are read as the nodes and the edge names of a tree. -/
structure Reads (nodes names : Value) (tree : DocumentTree) : Prop where
  nodes : ∃ items, nodes.elements? = some items ∧ List.Forall₂ Denotes items tree.nodes
  names : ∃ items, names.elements? = some items ∧ List.Forall₂ DenotesName items tree.edgeNames

inductive WrittenNode : Value → Prop where
  | box (content : Fields) (children : List Int) :
      WrittenNode (.map [(.text "Box", .list [.map content, .list (children.map .int)])])
  | and (left right : Int) : WrittenNode (.map [(.text "AND", .list [.int left, .int right])])
  | or (left right : Int) : WrittenNode (.map [(.text "OR", .list [.int left, .int right])])
  | not (child : Int) : WrittenNode (.map [(.text "NOT", .int child)])

inductive WrittenName : Value → Prop where
  | intro (parent child : Int) (name : Wording) : WrittenName (.list [.list [.int parent, .int child], .text name])

structure Written (nodes names : Value) : Prop where
  nodes : ∃ items, nodes = .list items ∧ ∀ item ∈ items, WrittenNode item
  names : ∃ items, names = .list items ∧ ∀ item ∈ items, WrittenName item

section Reading

theorem elements?_opened (value : Value) : value.opened.elements? = value.elements? := by
  induction value using Value.opened.induct with
  | case1 _ _ around ih => rw [Value.opened, ih, Value.elements?]
  | case2 value noAgain => rw [Value.opened.eq_2 value noAgain]

variable {value : Value}

theorem elements_eq_ok_iff {items : List Value} : elements value = .ok items ↔ value.elements? = some items := by
  unfold elements
  cases value.elements? <;> simp

theorem pair_eq_ok_iff {first second : Value} :
    pair value = .ok (first, second) ↔ value.elements? = some [first, second] := by
  unfold pair
  split
  next missing => simp [missing]
  next one two parts => simp [parts]
  next items shape parts =>
    simp only [parts, reduceCtorEq, Option.some.injEq, false_iff]
    rintro rfl
    exact shape _ _ rfl

private theorem position_eq_ok_iff {number : Int} : position value = .ok number ↔ StandsFor value number := by
  have spelled {shown : String} {read : Except Text.IntegerFault Int} :
      read.mapError (TreeDecodeError.badNumber shown) = .ok number ↔ read = .ok number := by
    cases read <;> simp [Except.mapError]
  constructor
  · intro read
    cases value with
    | int => cases read; exact .int _
    | bool => cases read; exact .bool _
    | double number =>
      rw [position] at read
      split at read
      · cases read
      · split at read
        next finite => cases read; exact .double finite
        next => cases read
    | text content => exact .text (spelled.mp read)
    | bytes content => exact .bytes (spelled.mp read)
    | null | date | moment | list | tuple | set | map | again => cases read
  · intro stands
    cases stands with
    | int | bool => rfl
    | double finite => simp [position, Double.isNaN, finite]
    | text content => exact spelled.mpr content
    | bytes content => exact spelled.mpr content

private theorem entry_eq_ok_iff {place : Nat} {made : Value × Value} : entry place value = .ok made ↔
    value.elements? = some [made.1, made.2] ∧ made.1.changing? = none := by
  unfold entry
  split
  next missing => simp [missing]
  next key item parts =>
    obtain ⟨first, second⟩ := made
    simp only [parts, Option.some.injEq, List.cons.injEq, and_true]
    constructor
    · intro read
      split at read
      · cases read
      next unchanging =>
        cases read
        exact ⟨⟨rfl, rfl⟩, unchanging⟩
    · rintro ⟨⟨rfl, rfl⟩, unchanging⟩
      rw [unchanging]
  next items shape parts =>
    simp only [parts, reduceCtorEq, Option.some.injEq, false_iff]
    rintro ⟨rfl, _⟩
    exact shape _ _ rfl

private theorem entries_eq_ok_iff {items : List Value} {entries : List (Value × Value)} :
    (items.zipIdx.mapM fun (item, place) => entry place item) = .ok entries ↔
      List.Forall₂ (fun item made => item.elements? = some [made.1, made.2] ∧ made.1.changing? = none) items entries := by
  rw [mapM_eq_ok_iff]
  conv_rhs => rw [← List.zipIdx_map_fst 0 items, List.forall₂_map_left_iff]
  simp only [entry_eq_ok_iff]

private theorem content_eq_ok_iff {fields : Fields} : content value = .ok fields ↔ HoldsContent value fields := by
  unfold content
  split
  next entries opened =>
    constructor
    · intro read
      cases read
      exact .map opened
    · intro holds
      cases holds with
      | map same => rw [Value.map.inj (opened.symm.trans same)]
      | pairs noMap => exact absurd opened (noMap entries)
  next noMap =>
    simp only [bind_eq_ok_iff, elements_eq_ok_iff, entries_eq_ok_iff, pure, Except.pure, Except.ok.injEq]
    constructor
    · rintro ⟨items, parts, entries, each, rfl⟩
      exact .pairs noMap parts each
    · intro holds
      cases holds with
      | map opened => exact absurd opened (noMap fields)
      | pairs _ parts each => exact ⟨_, parts, _, each, rfl⟩

private theorem positions_eq_ok_iff {children : List Int} : positions value = .ok children ↔
    HoldsPositions value children := by
  simp only [positions, bind_eq_ok_iff, elements_eq_ok_iff, mapM_eq_ok_iff, position_eq_ok_iff, HoldsPositions]

private theorem positionPair_eq_ok_iff {left right : Int} :
    positionPair value = .ok (left, right) ↔ HoldsPair value left right := by
  simp only [positionPair, bind_eq_ok_iff, Prod.exists, pair_eq_ok_iff, position_eq_ok_iff, pure, Except.pure,
    Except.ok.injEq, Prod.mk.injEq, HoldsPair]
  constructor
  · rintro ⟨first, second, parts, one, stands, other, standsToo, rfl, rfl⟩
    exact ⟨first, second, parts, stands, standsToo⟩
  · rintro ⟨first, second, parts, stands, standsToo⟩
    exact ⟨first, second, parts, left, stands, right, standsToo, rfl, rfl⟩

private theorem variant_eq_ok_iff {tag inside : Value} {made : TreeNode Fields}
    (opened : value.opened = .map [(tag, inside)]) :
    variant tag inside = .ok made ↔ Denotes value made := by
  constructor
  · intro read
    unfold variant at read
    split at read
    · simp only [bind_eq_ok_iff, Prod.exists, pair_eq_ok_iff, content_eq_ok_iff, positions_eq_ok_iff, pure, Except.pure,
        Except.ok.injEq] at read
      obtain ⟨first, second, parts, content, held, children, positions, rfl⟩ := read
      exact .box opened parts held positions
    · simp only [bind_eq_ok_iff, Prod.exists, positionPair_eq_ok_iff, pure, Except.pure, Except.ok.injEq] at read
      obtain ⟨left, right, pair, rfl⟩ := read
      exact .and opened pair
    · simp only [bind_eq_ok_iff, Prod.exists, positionPair_eq_ok_iff, pure, Except.pure, Except.ok.injEq] at read
      obtain ⟨left, right, pair, rfl⟩ := read
      exact .or opened pair
    · simp only [bind_eq_ok_iff, position_eq_ok_iff, pure, Except.pure, Except.ok.injEq] at read
      obtain ⟨child, position, rfl⟩ := read
      exact .not opened position
    · cases read
  · intro denotes
    have one {other another : Value} (same : value.opened = .map [(other, another)]) : tag = other ∧ inside = another := by
      simpa using opened.symm.trans same
    cases denotes with
    | box same parts held positions =>
      obtain ⟨rfl, rfl⟩ := one same
      exact bind_eq_ok_iff.mpr ⟨_, pair_eq_ok_iff.mpr parts, bind_eq_ok_iff.mpr ⟨_, content_eq_ok_iff.mpr held,
        bind_eq_ok_iff.mpr ⟨_, positions_eq_ok_iff.mpr positions, rfl⟩⟩⟩
    | and same pair | or same pair =>
      obtain ⟨rfl, rfl⟩ := one same
      exact bind_eq_ok_iff.mpr ⟨_, positionPair_eq_ok_iff.mpr pair, rfl⟩
    | not same position =>
      obtain ⟨rfl, rfl⟩ := one same
      exact bind_eq_ok_iff.mpr ⟨_, position_eq_ok_iff.mpr position, rfl⟩

private theorem node_eq_ok_iff {made : TreeNode Fields} : node value = .ok made ↔ Denotes value made := by
  constructor
  · intro read
    unfold node at read
    split at read
    · cases read
    next opened _ => exact (variant_eq_ok_iff opened).mp read
    · cases read
    · split at read <;> cases read
  · intro denotes
    have single : ∃ tag inside, value.opened = .map [(tag, inside)] := by cases denotes <;> exact ⟨_, _, ‹_›⟩
    obtain ⟨tag, inside, opened⟩ := single
    have elements : value.elements? = some [tag] := by
      rw [← elements?_opened, opened]
      rfl
    rw [node, opened, elements]
    exact (variant_eq_ok_iff opened).mpr denotes

private theorem nameText_eq_ok_iff {name : Wording} :
    nameText value = .ok name ↔ value.hasOverlong = false ∧ value.plain = name := by
  unfold nameText
  cases value.hasOverlong <;> simp

private theorem edgeName_eq_ok_iff {entry : EdgeKey × Wording} :
    edgeName value = .ok entry ↔ DenotesName value entry := by
  obtain ⟨⟨parent, child⟩, name⟩ := entry
  simp only [edgeName, bind_eq_ok_iff, Prod.exists, pair_eq_ok_iff, position_eq_ok_iff, nameText_eq_ok_iff, pure,
    Except.pure, Except.ok.injEq, Prod.mk.injEq, DenotesName, HoldsPair]
  constructor
  · rintro ⟨key, label, parts, first, second, ends, one, stands, other, standsToo, text, shown, ⟨rfl, rfl⟩, rfl⟩
    exact ⟨key, label, parts, ⟨first, second, ends, stands, standsToo⟩, shown⟩
  · rintro ⟨key, label, parts, ⟨first, second, ends, stands, standsToo⟩, shown⟩
    exact ⟨key, label, parts, first, second, ends, parent, stands, child, standsToo, name, shown, ⟨rfl, rfl⟩, rfl⟩

end Reading

section Writing

private theorem holdsPositions_ints (children : List Int) : HoldsPositions (.list (children.map .int)) children := by
  refine ⟨_, rfl, ?_⟩
  rw [List.forall₂_map_left_iff, List.forall₂_same]
  exact fun child _ => .int child

private theorem holdsPair_ints (left right : Int) : HoldsPair (.list [.int left, .int right]) left right :=
  ⟨_, _, rfl, .int left, .int right⟩

/-- A node is read from its own document. -/
theorem denotes_encode (node : TreeNode Fields) : Denotes node.encode node := by
  cases node with
  | box content children => exact .box rfl rfl (.map rfl) (holdsPositions_ints children)
  | and left right => exact .and rfl (holdsPair_ints left right)
  | or left right => exact .or rfl (holdsPair_ints left right)
  | not child => exact .not rfl (.int child)

private theorem denotesName_encode (entry : EdgeKey × Wording) : DenotesName (LinearTree.encodeName entry) entry :=
  ⟨_, _, rfl, holdsPair_ints _ _, rfl, rfl⟩

private theorem writtenNode_iff {value : Value} : WrittenNode value ↔ ∃ node, TreeNode.encode node = value := by
  constructor
  · intro written
    cases written with
    | box content children => exact ⟨.box content children, rfl⟩
    | and left right => exact ⟨.and left right, rfl⟩
    | or left right => exact ⟨.or left right, rfl⟩
    | not child => exact ⟨.not child, rfl⟩
  · rintro ⟨node, rfl⟩
    cases node with
    | box content children => exact .box content children
    | and left right => exact .and left right
    | or left right => exact .or left right
    | not child => exact .not child

private theorem writtenName_iff {value : Value} : WrittenName value ↔ ∃ entry, LinearTree.encodeName entry = value := by
  constructor
  · rintro ⟨parent, child, name⟩
    exact ⟨((parent, child), name), rfl⟩
  · rintro ⟨⟨⟨parent, child⟩, name⟩, rfl⟩
    exact .intro parent child name

/-- What is read from a value determines the value exactly if it is in the written form. -/
theorem written_eq_iff {ε γ : Type} {read : Value → Except ε γ} {encode : γ → Value} {written : Value → Prop}
    (form : ∀ {value}, written value ↔ ∃ made, encode made = value) (back : ∀ made, read (encode made) = .ok made)
    {value : Value} {made : γ} (found : read value = .ok made) : encode made = value ↔ written value := by
  rw [form]
  refine ⟨fun same => ⟨made, same⟩, ?_⟩
  rintro ⟨other, rfl⟩
  rw [Except.ok.inj (found.symm.trans (back other))]

private theorem Denotes.encode_eq_iff {value : Value} {node : TreeNode Fields} (denotes : Denotes value node) :
    node.encode = value ↔ WrittenNode value :=
  written_eq_iff writtenNode_iff (fun node => node_eq_ok_iff.mpr (denotes_encode node)) (node_eq_ok_iff.mpr denotes)

private theorem DenotesName.encodeName_eq_iff {value : Value} {entry : EdgeKey × Wording}
    (denotes : DenotesName value entry) :
    LinearTree.encodeName entry = value ↔ WrittenName value :=
  written_eq_iff writtenName_iff (fun entry => edgeName_eq_ok_iff.mpr (denotesName_encode entry))
    (edgeName_eq_ok_iff.mpr denotes)

/-- Items are the documents of what is read from them exactly if each of them is in the written form. -/
theorem map_eq_iff {γ : Type} {denotes : Value → γ → Prop} {encode : γ → Value} {written : Value → Prop}
    (each : ∀ item made, denotes item made → (encode made = item ↔ written item)) {items : List Value}
    {results : List γ} (read : List.Forall₂ denotes items results) :
    results.map encode = items ↔ ∀ item ∈ items, written item := by
  induction read with
  | nil => simp
  | cons first _ ih => rw [List.map_cons, List.cons.injEq, List.forall_mem_cons, each _ _ first, ih]

end Writing

section Documents

variable {fields : Fields} {nodes names : Value} {tree : DocumentTree}

theorem getText?_of_exactly (exactly : fields.Perm [(.text "nodes", nodes), (.text "edgeNames", names)]) :
    Entries.getText? fields "nodes" = some nodes ∧ Entries.getText? fields "edgeNames" = some names := by
  obtain rfl | rfl := List.perm_pair.mp exactly
  · exact ⟨rfl, rfl⟩
  · exact ⟨rfl, rfl⟩

theorem decode_eq_ok_iff (exactly : fields.Perm [(.text "nodes", nodes), (.text "edgeNames", names)]) :
    LinearTree.decode (.map fields) = .ok tree ↔ Reads nodes names tree := by
  obtain ⟨first, second⟩ := getText?_of_exactly exactly
  simp only [LinearTree.decode, first, second, Option.getD_some, bind_eq_ok_iff, elements_eq_ok_iff, mapM_eq_ok_iff,
    node_eq_ok_iff, edgeName_eq_ok_iff, pure, Except.pure, Except.ok.injEq]
  constructor
  · rintro ⟨items, parts, made, each, entries, listed, known, eachToo, rfl⟩
    exact ⟨⟨items, parts, each⟩, entries, listed, eachToo⟩
  · rintro ⟨⟨items, parts, each⟩, entries, listed, eachToo⟩
    exact ⟨items, parts, tree.nodes, each, entries, listed, tree.edgeNames, eachToo, rfl⟩

theorem reads_encode (tree : DocumentTree) :
    Reads (.list (tree.nodes.map TreeNode.encode)) (.list (tree.edgeNames.map LinearTree.encodeName)) tree := by
  refine ⟨⟨_, rfl, ?_⟩, _, rfl, ?_⟩
  · rw [List.forall₂_map_left_iff, List.forall₂_same]
    exact fun node _ => denotes_encode node
  · rw [List.forall₂_map_left_iff, List.forall₂_same]
    exact fun entry _ => denotesName_encode entry

/-- The parts of a document are those of the tree that is read from it exactly if they are in the written form. -/
theorem Reads.encode_eq_iff (reads : Reads nodes names tree) :
    tree.encode = .map [(.text "nodes", nodes), (.text "edgeNames", names)] ↔ Written nodes names := by
  obtain ⟨⟨items, parts, each⟩, entries, listed, eachToo⟩ := reads
  have lists {made : List Value} {value : Value} (found : value.elements? = some made) (others : List Value) :
      .list others = value ↔ value = .list made ∧ others = made := by
    constructor
    · rintro rfl
      cases found
      exact ⟨rfl, rfl⟩
    · rintro ⟨rfl, rfl⟩
      rfl
  have nodesSame : tree.nodes.map TreeNode.encode = items ↔ ∀ item ∈ items, WrittenNode item :=
    map_eq_iff (fun _ _ denotes => denotes.encode_eq_iff) each
  have namesSame : tree.edgeNames.map LinearTree.encodeName = entries ↔ ∀ item ∈ entries, WrittenName item :=
    map_eq_iff (fun _ _ denotes => denotes.encodeName_eq_iff) eachToo
  simp only [LinearTree.encode, Value.map.injEq, List.cons.injEq, Prod.mk.injEq, true_and, and_true, lists parts,
    lists listed, nodesSame, namesSame]
  constructor
  · rintro ⟨⟨rfl, written⟩, rfl, writtenToo⟩
    exact ⟨⟨items, rfl, written⟩, entries, rfl, writtenToo⟩
  · rintro ⟨⟨_, rfl, written⟩, _, rfl, writtenToo⟩
    cases parts
    cases listed
    exact ⟨⟨rfl, written⟩, rfl, writtenToo⟩

private theorem Written.exists_tree (written : Written nodes names) :
    ∃ tree : DocumentTree, tree.encode = .map [(.text "nodes", nodes), (.text "edgeNames", names)] := by
  obtain ⟨⟨items, rfl, each⟩, entries, rfl, eachToo⟩ := written
  have asNodes : items ∈ Set.range (List.map TreeNode.encode) := by
    rw [Set.range_list_map]
    exact fun item member => writtenNode_iff.mp (each item member)
  have asNames : entries ∈ Set.range (List.map LinearTree.encodeName) := by
    rw [Set.range_list_map]
    exact fun item member => writtenName_iff.mp (eachToo item member)
  obtain ⟨nodes, rfl⟩ := asNodes
  obtain ⟨names, rfl⟩ := asNames
  exact ⟨⟨nodes, names⟩, rfl⟩

/-- Reading a tree's own document gives the tree. -/
theorem decode_encode (tree : DocumentTree) : LinearTree.decode tree.encode = .ok tree :=
  (decode_eq_ok_iff (.refl _)).mpr (reads_encode tree)

/-- A document with just the two keys is read as a tree exactly if each of its parts stands for a part of that tree.
It is the document of the tree that is read exactly if all its parts are in the written form, and then a tree is read. -/
theorem decode_lenient (exactly : fields.Perm [(.text "nodes", nodes), (.text "edgeNames", names)]) :
    (∀ tree, LinearTree.decode (.map fields) = .ok tree ↔ Reads nodes names tree) ∧
      (∀ tree, LinearTree.decode (.map fields) = .ok tree →
        (tree.encode = .map [(.text "nodes", nodes), (.text "edgeNames", names)] ↔ Written nodes names)) ∧
      (Written nodes names → ∃ tree, LinearTree.decode (.map fields) = .ok tree) := by
  refine ⟨fun tree => decode_eq_ok_iff exactly, fun tree read => ?_, fun written => ?_⟩
  · exact ((decode_eq_ok_iff exactly).mp read).encode_eq_iff
  · obtain ⟨tree, encoded⟩ := written.exists_tree
    refine ⟨tree, (decode_eq_ok_iff exactly).mpr ?_⟩
    exact (decode_eq_ok_iff (.refl _)).mp (encoded ▸ decode_encode tree)

/-- A document with the keys in the other order and every place of a node and of a name filled by something else than
what is written there: pairs for a mapping, letters for a list of positions, a number with a fraction for a position,
and a number for a name. -/
def loose : Fields :=
  [(.text "edgeNames", .list [.list [.list [.int 0, .int 1], .int 7]]),
    (.text "nodes", .list [.map [(.text "Box", .list [.list [.list [.text "a", .int 1]], .text "12"])],
      .map [(.text "NOT", .double ⟨0x3ff8000000000000⟩)]])]

def looseTree : DocumentTree := ⟨[.box [(.text "a", .int 1)] [1, 2], .not 1], [((0, 1), "7")]⟩

private theorem decode_loose : LinearTree.decode (.map loose) = .ok looseTree := by
  have short : (Value.int 7).hasOverlong = false := by decide +kernel
  have content : HoldsContent (.list [.list [.text "a", .int 1]]) (Entries.ofEntries [(.text "a", .int 1)]) :=
    .pairs (by simp [Value.opened]) rfl (.cons ⟨rfl, rfl⟩ .nil)
  have children : HoldsPositions (.text "12") [1, 2] := ⟨_, rfl, .cons (.text rfl) (.cons (.text rfl) .nil)⟩
  have child : StandsFor (.double ⟨0x3ff8000000000000⟩) 1 := .double rfl
  exact (decode_eq_ok_iff (.swap _ _ _)).mpr
    ⟨⟨_, rfl, .cons (.box rfl rfl content children) (.cons (.not rfl child) .nil)⟩,
      _, rfl, .cons ⟨_, _, rfl, holdsPair_ints 0 1, short, rfl⟩ .nil⟩

theorem decode_lenient_loose :
    loose.Perm [(.text "nodes", .list [.map [(.text "Box", .list [.list [.list [.text "a", .int 1]], .text "12"])],
      .map [(.text "NOT", .double ⟨0x3ff8000000000000⟩)]]),
      (.text "edgeNames", .list [.list [.list [.int 0, .int 1], .int 7]])] ∧
      Reads (.list [.map [(.text "Box", .list [.list [.list [.text "a", .int 1]], .text "12"])],
        .map [(.text "NOT", .double ⟨0x3ff8000000000000⟩)]]) (.list [.list [.list [.int 0, .int 1], .int 7]])
        looseTree :=
  ⟨.swap _ _ _, ((decode_lenient (.swap _ _ _)).1 looseTree).mp decode_loose⟩

/-- Each of the places is malformed, yet a tree is read, whose document is another one. -/
theorem loose_reads_otherwise : ¬ ∀ (fields : Fields) (nodes names : Value) (tree : DocumentTree),
    fields.Perm [(.text "nodes", nodes), (.text "edgeNames", names)] →
      LinearTree.decode (.map fields) = .ok tree → tree.encode.same (.map fields) = true := by
  intro claimed
  have same := claimed loose _ _ looseTree (.swap _ _ _) decode_loose
  have differs : looseTree.encode.same (.map loose) = false := by decide
  exact absurd (same.symm.trans differs) (by decide)

end Documents
end TreeDecode
end BoxTree
