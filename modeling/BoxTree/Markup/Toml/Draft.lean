import BoxTree.Markup.Toml.Stop
import BoxTree.Value.Basic

/-! A TOML document under construction: its tables so far, and which of them may still change. -/

namespace BoxTree.Toml

/-- Change the table that a key leads to; where there is none, an empty one is made first. With
`intoLists` a list of tables stands for its last one. -/
def changeAt (intoLists : Bool) (change : Fields → Except Cause Fields) : Key → Fields → Except Cause Fields
  | [], table => change table
  | name :: names, table => do
    let put (inner : Value) : Fields := table.put (.text name) inner
    match table.getText? name with
    | none => return put (.map (← changeAt intoLists change names []))
    | some (.map inner) => return put (.map (← changeAt intoLists change names inner))
    | some (.list items) =>
      match items.getLast?, intoLists with
      | some (.map inner), true =>
        return put (.list (items.dropLast ++ [.map (← changeAt intoLists change names inner)]))
      | _, _ => throw .taken
    | some _ => throw .taken

/-- Put a value under a name that is free, or tell the cause that it is not. -/
def putNew (held : Cause) (name : String) (value : Value) (table : Fields) : Except Cause Fields :=
  if (table.getText? name).isSome then .error held else .ok (table.put (.text name) value)

def appendTable (name : String) (table : Fields) : Except Cause Fields :=
  match table.getText? name with
  | none => .ok (table.put (.text name) (.list [.map []]))
  | some (.list items) => .ok (table.put (.text name) (.list (items ++ [.map []])))
  | some _ => .error .taken

def isClosing : Value → Bool
  | .map _ | .list _ => true
  | _ => false

structure Draft where
  table : Fields
  /-- The key of the table that entries are put into. -/
  header : Key
  /-- Values with parts: nothing at or below their keys may change. -/
  closed : List Key
  /-- Tables that a header has declared, or that entries before the present header have opened. -/
  declared : List Key
  /-- Tables that entries under the present header have opened. -/
  opened : List Key

namespace Draft

def empty : Draft := ⟨[], [], [], [], []⟩

def isClosed (draft : Draft) (key : Key) : Bool := draft.closed.any (·.isPrefixOf key)

/-- The tables on the way from a header to a value. -/
def onTheWay (header key : Key) : List Key :=
  (List.range (key.length - 1)).map fun count => header ++ key.take (count + 1)

def insert (draft : Draft) (key : Key) (value : Value) : Except Cause Draft := do
  let way := onTheWay draft.header key
  if let some table := way.find? draft.declared.contains then throw (.redefined table)
  let parent := draft.header ++ key.dropLast
  if draft.isClosed parent then throw (.closed parent)
  let table ← changeAt true (putNew .taken (key.getLastD "") value) parent draft.table
  let closed := if isClosing value then (draft.header ++ key) :: draft.closed else draft.closed
  return { draft with table, closed, opened := way ++ draft.opened }

def settle (draft : Draft) : Draft := { draft with declared := draft.opened ++ draft.declared, opened := [] }

def declare (draft : Draft) (key : Key) : Except Cause Draft := do
  if draft.declared.contains key || draft.isClosed key then throw (.declaredTwice key)
  let table ← changeAt true .ok key draft.table
  return { draft with table, header := key, declared := key :: draft.declared }

/-- Append a table to a list of tables; what was declared at or below earlier ones is free again. -/
def append (draft : Draft) (key : Key) : Except Cause Draft := do
  if draft.isClosed key then throw (.closed key)
  let free (keys : List Key) : List Key := keys.filter (!key.isPrefixOf ·)
  let table ← changeAt true (appendTable (key.getLastD "")) key.dropLast draft.table
  return { draft with table, header := key, closed := free draft.closed, declared := key :: free draft.declared }

end Draft
end BoxTree.Toml
