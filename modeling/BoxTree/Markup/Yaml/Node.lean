import BoxTree.Markup.Yaml.Lexer
import BoxTree.Markup.Yaml.Tag

/-! The nodes of a YAML document. Anchors are numbered in the order of the text, and an alias keeps the
number of its anchor; the anchored nodes stand beside the root, and a node may hold an alias to itself. Collections
have numbers of their own, by which a node around another one is known. -/

namespace BoxTree.Yaml

inductive Node where
  | scalar (tag : Tag) (content : Wording)
  | sequence (number : Nat) (tag : Tag) (items : List Node)
  | mapping (number : Nat) (tag : Tag) (entries : List (Node × Node))
  | reference (anchor : Nat)
deriving Inhabited

structure Document where
  root : Node
  anchors : List (Nat × Node)
  rules : Rules

abbrev Handles := List (String × String)

def Handles.usual : Handles := [("!", "!"), ("!!", Tag.start)]

structure Conventions where
  rules : Rules
  handles : Handles

/-- The tokens that are left, the anchors met so far, and how many collections are complete; an anchor whose node is
not complete yet has a name and a number only. -/
structure Reading where
  tokens : List Token
  names : List (String × Nat)
  anchors : List (Nat × Node)
  collections : Nat

structure Properties where
  anchor : Option String
  tag : Option String

namespace Properties

def none : Properties := ⟨.none, .none⟩

def isEmpty (properties : Properties) : Bool := properties.anchor.isNone && properties.tag.isNone

def isImplicit (properties : Properties) : Bool :=
  properties.tag.isNone || properties.tag == some "!"

/-- The tag of a scalar; without a tag a plain one has the tag of its text. -/
def scalarTag (properties : Properties) (edition : Edition) (content : Wording) (plain : Bool) : Tag :=
  match properties.tag with
  | .none => if plain then .ofPlain edition content else .text
  | some "!" => .ofPlain edition content
  | some name => .ofName name

def collectionTag (properties : Properties) (usual : Tag) : Tag :=
  match properties.tag with
  | .none | some "!" => usual
  | some name => .ofName name

end Properties

namespace Reading

def first (reading : Reading) : Except ReadError (Option Token) :=
  match reading.tokens.head? with
  | some (.unreadable error) => .error error
  | token => .ok token

def rest (reading : Reading) : Reading := { reading with tokens := reading.tokens.tail }

def expanded (handles : Handles) (handle : Option String) (suffix : String) : Except ReadError String :=
  match handle with
  | none => .ok suffix
  | some handle =>
    match handles.lookup handle with
    | some start => .ok (start ++ suffix)
    | none => .error .malformed

def properties (handles : Handles) (reading : Reading) : Except ReadError (Properties × Reading) := do
  match ← reading.first with
  | some (.anchor name) =>
    match ← reading.rest.first with
    | some (.tag handle suffix) =>
      return (⟨some name, some (← expanded handles handle suffix)⟩, reading.rest.rest)
    | _ => return (⟨some name, none⟩, reading.rest)
  | some (.tag handle suffix) =>
    match ← reading.rest.first with
    | some (.anchor name) =>
      return (⟨some name, some (← expanded handles handle suffix)⟩, reading.rest.rest)
    | _ => return (⟨none, some (← expanded handles handle suffix)⟩, reading.rest)
  | _ => return (.none, reading)

/-- Take down an anchor's name, and give it a number. Strict readers let no two nodes share a name. -/
def announce (dialect : Dialect) (properties : Properties) (reading : Reading) :
    Except ReadError (Option Nat × Reading) :=
  match properties.anchor with
  | none => .ok (none, reading)
  | some name =>
    if dialect == .strict && (reading.names.lookup name).isSome then .error .malformed
    else
      let number := reading.names.length
      .ok (some number, { reading with names := (name, number) :: reading.names })

def keep (anchor : Option Nat) (node : Node) (reading : Reading) : Node × Reading :=
  match anchor with
  | none => (node, reading)
  | some number => (node, { reading with anchors := (number, node) :: reading.anchors })

def emptyNode : Node := .scalar .null ""

def numbered (reading : Reading) : Reading := { reading with collections := reading.collections + 1 }

end Reading

open Reading

mutual
/-- A node. In a block it may be a block collection; as the value of a key also a sequence that is not
indented. -/
def readNode (about : Conventions) (inBlock looseSequence : Bool) :
    Nat → Reading → Except ReadError (Node × Reading)
  | 0, _ => .error .malformed
  | fuel + 1, reading => do
    match ← reading.first with
    | some (.reference name) =>
      match reading.names.lookup name with
      | some number => return (.reference number, reading.rest)
      | none => throw .malformed
    | _ =>
      let (said, reading) ← reading.properties about.handles
      let first ← reading.first
      let empty : Except ReadError Node :=
        if said.isEmpty then .error .malformed
        else .ok (.scalar (said.scalarTag about.rules.edition "" said.isImplicit) "")
      let (anchor, reading) ← reading.announce about.rules.dialect said
      let collection (items : List Node) (reading : Reading) :=
        reading.numbered.keep anchor (.sequence reading.collections (said.collectionTag .sequence) items)
      let table (entries : List (Node × Node)) (reading : Reading) :=
        reading.numbered.keep anchor (.mapping reading.collections (said.collectionTag .mapping) entries)
      match first with
      | some (.scalar content plain) =>
        return reading.rest.keep anchor (.scalar (said.scalarTag about.rules.edition content plain) content)
      | some .blockEntry =>
        if looseSequence then
          let (items, after) ← readLoose about fuel reading
          return collection items after
        else return reading.keep anchor (← empty)
      | some .flowSequenceStart =>
        let (items, after) ← readFlowItems about true fuel reading.rest
        return collection items after
      | some .flowMappingStart =>
        let (entries, after) ← readFlowEntries about true fuel reading.rest
        return table entries after
      | some .blockSequenceStart =>
        if inBlock then
          let (items, after) ← readBlockItems about fuel reading.rest
          return collection items after
        else return reading.keep anchor (← empty)
      | some .blockMappingStart =>
        if inBlock then
          let (entries, after) ← readBlockEntries about fuel reading.rest
          return table entries after
        else return reading.keep anchor (← empty)
      | _ => return reading.keep anchor (← empty)

def readUnless (stops : List Token) (about : Conventions) (inBlock looseSequence : Bool) :
    Nat → Reading → Except ReadError (Node × Reading)
  | 0, _ => .error .malformed
  | fuel + 1, reading => do
    if (← reading.first).any (stops.contains ·) then return (emptyNode, reading)
    else readNode about inBlock looseSequence fuel reading

def readValueUnless (stops : List Token) (about : Conventions) (inBlock : Bool) :
    Nat → Reading → Except ReadError (Node × Reading)
  | 0, _ => .error .malformed
  | fuel + 1, reading => do
    match ← reading.first with
    | some .value => readUnless stops about inBlock inBlock fuel reading.rest
    | _ => return (emptyNode, reading)

def readBlockItems (about : Conventions) : Nat → Reading → Except ReadError (List Node × Reading)
  | 0, _ => .error .malformed
  | fuel + 1, reading => do
    match ← reading.first with
    | some .blockEntry =>
      let (item, after) ← readUnless [.blockEntry, .blockEnd] about true false fuel reading.rest
      let (items, last) ← readBlockItems about fuel after
      return (item :: items, last)
    | some .blockEnd => return ([], reading.rest)
    | _ => throw .malformed

/-- The entries of a sequence that is not indented; the next other token ends it. -/
def readLoose (about : Conventions) : Nat → Reading → Except ReadError (List Node × Reading)
  | 0, _ => .error .malformed
  | fuel + 1, reading => do
    match ← reading.first with
    | some .blockEntry =>
      let (item, after) ← readUnless [.blockEntry, .key, .value, .blockEnd] about true false fuel reading.rest
      let (items, last) ← readLoose about fuel after
      return (item :: items, last)
    | _ => return ([], reading)

def readBlockEntries (about : Conventions) :
    Nat → Reading → Except ReadError (List (Node × Node) × Reading)
  | 0, _ => .error .malformed
  | fuel + 1, reading => do
    let stops := [Token.key, .value, .blockEnd]
    let entry (key : Node) (afterKey : Reading) : Except ReadError (List (Node × Node) × Reading) := do
      let (value, after) ← readValueUnless stops about true fuel afterKey
      let (entries, last) ← readBlockEntries about fuel after
      return ((key, value) :: entries, last)
    match ← reading.first with
    | some .key =>
      let (key, afterKey) ← readUnless stops about true true fuel reading.rest
      entry key afterKey
    | some .value => if about.rules.isLoose then entry emptyNode reading else throw .malformed
    | some .blockEnd => return ([], reading.rest)
    | _ => throw .malformed

/-- The items of a flow sequence up to its bracket; an item may be a mapping of one entry. -/
def readFlowItems (about : Conventions) (isFirst : Bool) :
    Nat → Reading → Except ReadError (List Node × Reading)
  | 0, _ => .error .malformed
  | fuel + 1, reading => do
    match ← reading.first with
    | some .flowSequenceEnd => return ([], reading.rest)
    | first =>
      if !isFirst && first != some .flowEntry then throw .malformed
      let reading := if isFirst then reading else reading.rest
      match ← reading.first with
      | some .flowSequenceEnd => return ([], reading.rest)
      | some .key =>
        let (key, afterKey) ←
          readUnless [.value, .flowEntry, .flowSequenceEnd] about false false fuel reading.rest
        let (value, after) ← readValueUnless [.flowEntry, .flowSequenceEnd] about false fuel afterKey
        let (items, last) ← readFlowItems about false fuel after.numbered
        return (.mapping after.collections .mapping [(key, value)] :: items, last)
      | _ =>
        let (item, after) ← readNode about false false fuel reading
        let (items, last) ← readFlowItems about false fuel after
        return (item :: items, last)

/-- The entries of a flow mapping up to its brace; a key may stand alone. -/
def readFlowEntries (about : Conventions) (isFirst : Bool) :
    Nat → Reading → Except ReadError (List (Node × Node) × Reading)
  | 0, _ => .error .malformed
  | fuel + 1, reading => do
    match ← reading.first with
    | some .flowMappingEnd => return ([], reading.rest)
    | first =>
      if !isFirst && first != some .flowEntry then throw .malformed
      let reading := if isFirst then reading else reading.rest
      let entry (key : Node) (afterKey : Reading) : Except ReadError (List (Node × Node) × Reading) := do
        let (value, after) ← readValueUnless [.flowEntry, .flowMappingEnd] about false fuel afterKey
        let (entries, last) ← readFlowEntries about false fuel after
        return ((key, value) :: entries, last)
      match ← reading.first with
      | some .flowMappingEnd => return ([], reading.rest)
      | some .key =>
        let (key, afterKey) ←
          readUnless [.value, .flowEntry, .flowMappingEnd] about false false fuel reading.rest
        entry key afterKey
      | some .value =>
        if about.rules.isLoose then entry emptyNode reading else throw .malformed
      | _ =>
        let (key, after) ← readNode about false false fuel reading
        let (entries, last) ← readFlowEntries about false fuel after
        return ((key, emptyNode) :: entries, last)
end

structure Directives where
  version : Option (Nat × Nat)
  handles : Handles

/-- The directives before a document: at most one version, which has to be a first one, and handles. -/
def readDirectives (said : Directives) : List Token → Except ReadError (Directives × List Token)
  | .directive (.version major minor) :: rest =>
    if said.version.isSome || major != 1 then .error .malformed
    else readDirectives { said with version := some (major, minor) } rest
  | .directive (.tagHandle handle start) :: rest =>
    if (said.handles.lookup handle).isSome then .error .malformed
    else readDirectives { said with handles := (handle, start) :: said.handles } rest
  | .directive .other :: rest => readDirectives said rest
  | .unreadable error :: _ => .error error
  | rest => .ok (said, rest)

def noDirectives : Directives := ⟨none, []⟩

def checkOver (tokens : List Token) : Except ReadError Unit :=
  match tokens.dropWhile (· == .documentEnd) with
  | [] => .ok ()
  | rest => do
    let _ ← readDirectives noDirectives rest
    throw .malformed

namespace Document

def ofReading (rules : Rules) (node : Node) (reading : Reading) : Except ReadError (Option Document) := do
  checkOver reading.tokens
  return some ⟨node, reading.anchors, rules⟩

/-- The one document of some tokens; there may be none. -/
def ofTokens? (dialect : Dialect) (tokens : List Token) : Except ReadError (Option Document) := do
  let fuel := 4 * tokens.length + 4
  match tokens with
  | [] => return none
  | .directive _ :: _ | .documentStart :: _ =>
    let (said, rest) ← readDirectives noDirectives tokens
    let rules := dialect.rules said.version
    match rest with
    | .documentStart :: rest =>
      let reading : Reading := ⟨rest, [], [], 0⟩
      match ← reading.first with
      | none | some .documentStart | some .documentEnd | some (.directive _) => ofReading rules emptyNode reading
      | _ =>
        let (node, after) ← readNode ⟨rules, said.handles ++ Handles.usual⟩ true false fuel reading
        ofReading rules node after
    | _ => throw .malformed
  | _ =>
    let rules := dialect.rules none
    let (node, after) ← readNode ⟨rules, Handles.usual⟩ true false fuel ⟨tokens, [], [], 0⟩
    ofReading rules node after

end Document
end BoxTree.Yaml
