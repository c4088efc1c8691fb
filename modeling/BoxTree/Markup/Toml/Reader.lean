import BoxTree.Markup.Toml.Draft
import BoxTree.Markup.Toml.Scalar

/-! TOML documents: entries, tables under headers, and lists of such tables. -/

namespace BoxTree.Toml

def isBareKeyLetter (c : Char) : Bool := c.isAlphanum || c == '-' || c == '_'

def readName (letters : List Char) : Except Stop (Parsed String) := do
  match letters.span isBareKeyLetter with
  | ([], '"' :: rest) =>
    let (name, after) ← basicText (rest.length + 1) rest
    return (String.ofList name, after)
  | ([], '\'' :: rest) =>
    let (name, after) ← literalText rest
    return (String.ofList name, after)
  | ([], _) => stop .noKey letters
  | (name, rest) => return (String.ofList name, rest)

def readKey : Nat → List Char → Except Stop (Parsed Key)
  | 0, letters => stop .noKey letters
  | fuel + 1, letters => do
    let (name, after) ← readName letters
    match skipBlanks after with
    | '.' :: rest =>
      let (names, last) ← readKey fuel (skipBlanks rest)
      return (name :: names, last)
    | rest => return ([name], rest)

def keyOf (letters : List Char) : Except Stop (Parsed Key) := readKey (letters.length + 1) letters

def spaceFrom (letters : List Char) : Except Stop (List Char) := skipSpace (letters.length + 1) letters

def atPlace {α : Type} (rest : List Char) (step : Except Cause α) : Except Stop α :=
  step.mapError fun cause => .misplaced cause rest.length

mutual
def readValue : Nat → List Char → Except Stop (Parsed Value)
  | 0, letters => stop .noValue letters
  | fuel + 1, letters => do
    match letters with
    | '"' :: _ | '\'' :: _ =>
      let (content, rest) ← readText letters
      return (.text content, rest)
    | 't' :: 'r' :: 'u' :: 'e' :: rest => return (.bool true, rest)
    | 'f' :: 'a' :: 'l' :: 's' :: 'e' :: rest => return (.bool false, rest)
    | '[' :: rest =>
      let (items, after) ← readItems fuel (← spaceFrom rest)
      return (.list items, after)
    | '{' :: rest =>
      match skipBlanks rest with
      | '}' :: after => return (.map [], after)
      | inside =>
        let (table, after) ← readInline fuel [] [] inside
        return (.map table, after)
    | _ => readScalar letters

/-- The items of an array up to its bracket; a comma may follow the last. -/
def readItems : Nat → List Char → Except Stop (Parsed (List Value))
  | 0, letters => stop .noValue letters
  | fuel + 1, letters => do
    match letters with
    | ']' :: rest => return ([], rest)
    | _ =>
      let (item, after) ← readValue fuel letters
      match ← spaceFrom after with
      | ']' :: rest => return ([item], rest)
      | ',' :: rest =>
        let (items, last) ← readItems fuel (← spaceFrom rest)
        return (item :: items, last)
      | rest => stop .openArray rest

def readEntry : Nat → List Char → Except Stop (Parsed (Key × Value))
  | 0, letters => stop .noValue letters
  | fuel + 1, letters => do
    let (key, afterKey) ← keyOf letters
    match afterKey with
    | '=' :: rest =>
      let (value, after) ← readValue fuel (skipBlanks rest)
      return ((key, value), after)
    | _ => stop .noEquals afterKey

def readInline : Nat → List Key → Fields → List Char → Except Stop (Parsed Fields)
  | 0, _, _, letters => stop .noValue letters
  | fuel + 1, closed, table, letters => do
    let ((key, value), after) ← readEntry fuel letters
    if closed.any (·.isPrefixOf key) then stop (.closed key) after
    let name := key.getLastD ""
    let table ← atPlace after (changeAt false (putNew (.repeated name) name value) key.dropLast table)
    match skipBlanks after with
    | '}' :: rest => return (table, rest)
    | ',' :: rest => readInline fuel (if isClosing value then key :: closed else closed) table (skipBlanks rest)
    | rest => stop .openTable rest
end

/-- Every value takes a letter, and so does each item or entry that holds one. -/
def enough (letters : List Char) : Nat := 3 * letters.length + 3

def readHeader (draft : Draft) (isList : Bool) (letters : List Char) : Except Stop (Parsed Draft) := do
  let (key, after) ← keyOf (skipBlanks letters)
  if isList then
    let draft ← atPlace after (draft.append key)
    match after with
    | ']' :: ']' :: rest => return (draft, rest)
    | _ => stop .noTablesEnd after
  else
    let draft ← atPlace after (draft.declare key)
    match after with
    | ']' :: rest => return (draft, rest)
    | _ => stop .noTableEnd after

def readStatement (draft : Draft) (letters : List Char) : Except Stop (Parsed Draft) := do
  match letters with
  | [] | '\n' :: _ | '#' :: _ => return (draft, letters)
  | '[' :: '[' :: rest => readHeader draft.settle true rest
  | '[' :: rest => readHeader draft.settle false rest
  | c :: _ =>
    if isBareKeyLetter c || c == '"' || c == '\'' then
      let ((key, value), after) ← readEntry (enough letters) letters
      return (← atPlace after (draft.insert key value), after)
    else stop .noStatement letters

def readLines : Nat → Draft → List Char → Except Stop Draft
  | 0, draft, _ => .ok draft
  | fuel + 1, draft, letters => do
    let (draft, after) ← readStatement draft (skipBlanks letters)
    match ← skipComment (skipBlanks after) with
    | [] => return draft
    | '\n' :: rest => readLines fuel draft rest
    | rest => stop .noLineEnd rest

def lineFeeds : List Char → List Char
  | '\r' :: '\n' :: rest => '\n' :: lineFeeds rest
  | c :: rest => c :: lineFeeds rest
  | [] => []

def read (document : String) : Except Error Fields :=
  let letters := lineFeeds document.toList
  match readLines (letters.length + 1) .empty letters with
  | .ok draft => .ok draft.table
  | .error stopped => .error (stopped.error letters)

end BoxTree.Toml
