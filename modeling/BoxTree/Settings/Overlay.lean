import BoxTree.Settings.Setting

/-! Settings laid over earlier ones: mappings are merged, a list follows the earlier one, and anything else takes the
earlier place. Names that differ in case only are one name. A mapping may say itself whether it is merged, by an
entry of its own, and so may a list, by an item. -/

namespace BoxTree

namespace Entries

/-- Entries under the keys that earlier ones spell. A name in another spelling counts before the exact one. -/
def respelled {α β : Type} (earlier : Entries α) (entries : Entries β) : Entries β :=
  entries.keys.foldl
    (fun done key =>
      match key with
      | .text (.whole name) =>
        match earlier.keyNamed? name, done.get? key with
        | some "", _ | none, _ | _, none => done
        | some spelling, some value => (done.erase key).put (.text spelling) value
      | _ => done)
    entries

end Entries

namespace Setting

def mergeMark : String := "dynaconf_merge"

def uniqueMark : String := "dynaconf_merge_unique"

/-- What the entries of a mapping say of merging, and the setting without it. If they say nothing else, and more than
yes or no, what they say is the setting. -/
def unmarked (entries : Entries Setting) : Option Setting × Setting :=
  let rest := (entries.erase (.text mergeMark)).erase (.text uniqueMark)
  match (entries.getText? mergeMark).or (entries.getText? uniqueMark) with
  | none => (none, map rest)
  | some said =>
    if rest.isEmpty && !said.isNull && !said.isTruth then (some said, said) else (some said, map rest)

/-- Whether the items of a list ask for merging, and if so without repeated items; and the other items. -/
def unmarkedItems (items : List Setting) : Option Bool × List Setting :=
  if holdsText items mergeMark then (some false, withoutText mergeMark items)
  else if holdsText items uniqueMark then (some true, withoutText uniqueMark items)
  else (none, items)

/-- Items after earlier ones; if they are `unique`, no earlier item appears again. -/
def following (unique : Bool) (earlier items : List Setting) : List Setting :=
  earlier.foldr (fun item done => if unique && done.any (same item) then done else item :: done) items

/-- How a setting is laid over an earlier one: whether without repeated items, and along which names a single value
is on its way. -/
abbrev Cover := Bool → List String → Setting → Except SettingError Setting

def itemsBefore : Option (Setting × Cover) → Except SettingError (List Setting)
  | some (list items, _) => .ok items
  | some (plain (.text content), _) => .ok (content.letters.map fun letter => plain (.text (.ofLetters [letter])))
  | some (map _, _) => .error .mapForList
  | some (plain value, _) => .error (.noItems value.kindName)
  | _ => .error (.noItems Value.null.kindName)

def isTarget (path : List String) (key : Value) : Bool :=
  match path, key with
  | [name], .text key => .whole (Text.lower name) == key.lower
  | _, _ => false

def reaches (earlier : Setting) (path : List String) : Bool :=
  !path.isEmpty && (earlier.within? path).any fun target => !target.isNull

def noTextKind? : Value → Option String
  | .text _ | .bytes _ => none
  | key => some key.kindName

/-- Entries joined with earlier ones. What names lead to is not merged with what was there. -/
def joined (earlier : Entries (Setting × Cover)) (path : List String) (isReached : Bool) (entries : Entries Setting) :
    Except SettingError (Entries Setting) :=
  earlier.foldlM
    (fun done (key, before, cover) =>
      match if isReached then noTextKind? key else none, done.get? key with
      | some kind, _ => .error (.noTextKey kind)
      | none, none => .ok (done.put key before)
      | none, some value =>
        if isTarget path key then .ok done else (done.put key ·) <$> cover false path.tail value)
    entries

/-- An entry after what it asks for is done to the earlier one; nothing if that is removal. -/
def applied? (before : Option (Setting × Cover)) (value : Setting) : Except SettingError (Option Setting) := do
  let onTop (unique : Bool) (value : Setting) : Except SettingError Setting :=
    match before with
    | some (_, cover) => cover unique [] value
    | none => .ok value
  let value ←
    match value, before with
    | removal, _ => return none
    | reset value, _ => .ok value
    | merge value unique, _ => onTop unique value
    | insert place item, some (list items, _) => .ok (list (inserted items place item))
    | insert _ item, _ => .ok (list [item])
    | value, _ => .ok value
  match value with
  | list items =>
    match unmarkedItems items with
    | (none, _) => return some value
    | (some unique, rest) => return some (list (following unique (← itemsBefore before) rest))
  | map entries =>
    let (said, value) := unmarked entries
    if said.any isTruthy then return some (← onTop false value) else return some value
  | value => return some value

def entriesOver (earlier : Entries (Setting × Cover)) (path : List String) (isReached : Bool)
    (entries : Entries Setting) : Except SettingError (Entries Setting) := do
  let entries := Entries.respelled earlier entries
  let merges := ((entries.getText? mergeMark).map isTruthy).getD true
  let entries := entries.erase (.text mergeMark)
  let entries ← if merges then joined earlier path isReached entries else pure entries
  let changed ← entries.mapM fun (key, value) => do
    return (← applied? (earlier.get? key) value).map (key, ·)
  return changed.filterMap id

mutual
/-- A setting laid over an earlier one. One that says the same takes its place. -/
def laidOver : Setting → Cover
  | list earlier => fun unique _ value =>
    match value with
    | list items =>
      if sameItems earlier items then .ok value
      else .ok (list (following (unique || holdsText items uniqueMark) earlier (withoutText uniqueMark items)))
    | value => .ok value
  | map earlier =>
    let covered := covers earlier
    fun _ path value =>
      match value with
      | map entries =>
        if (map earlier).same value then .ok value
        else map <$> entriesOver covered path (reaches (map earlier) path) entries
      | value => .ok value
  | _ => fun _ _ value => .ok value

def covers : List (Value × Setting) → Entries (Setting × Cover)
  | [] => []
  | (key, value) :: rest => (key, value, laidOver value) :: covers rest
end

mutual
def withoutRemoved : Setting → Setting → Setting
  | map earlier, map entries => map (entriesKept earlier (Entries.respelled earlier entries))
  | earlier, _ => earlier
termination_by structural earlier => earlier

def entriesKept : List (Value × Setting) → Entries Setting → List (Value × Setting)
  | [], _ => []
  | (key, value) :: rest, entries =>
    match entries.get? key with
    | some removal => entriesKept rest entries
    | some later => (key, withoutRemoved value later) :: entriesKept rest entries
    | none => (key, value) :: entriesKept rest entries
termination_by structural earlier => earlier
end

end Setting
end BoxTree
