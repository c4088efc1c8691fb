import BoxTree.Markup.Yaml.Scalar

/-! Tokens of a YAML text: scalars with what is said about them, and the marks that give structure. -/

namespace BoxTree.Yaml

inductive Directive where
  | version (major minor : Nat)
  | tagHandle (handle start : String)
  | other
deriving DecidableEq

inductive Token where
  | directive (content : Directive)
  | documentStart
  | documentEnd
  | blockSequenceStart
  | blockMappingStart
  | blockEnd
  | flowSequenceStart
  | flowSequenceEnd
  | flowMappingStart
  | flowMappingEnd
  | blockEntry
  | flowEntry
  | key
  | value
  | reference (name : String)
  | anchor (name : String)
  | tag (handle : Option String) (suffix : String)
  | scalar (content : Wording) (plain : Bool)
  | unreadable (error : ReadError)
deriving DecidableEq

/-- Letters of names: ASCII letters, digits, hyphen and underscore. -/
def isNameLetter (c : Char) : Bool := c.isAlphanum || c == '-' || c == '_'

def isTagLetter (c : Char) : Bool := isNameLetter c || ";/?:@&=+$,.!~*'()[]%".toList.contains c

def Rules.isAnchorLetter (rules : Rules) (c : Char) : Bool :=
  match rules.dialect with
  | .strict => isNameLetter c
  | .tolerant =>
    !([',', '[', ']', '\x7b', '\x7d', byteOrderMark].contains c) && 0x20 < c.toNat && !(0x7e < c.toNat && c.toNat < 0xa0)

def scanName (rules : Rules) (cursor : Cursor) : Except ReadError (String × Cursor) :=
  let (letters, after) := cursor.next.takeWhile rules.isAnchorLetter
  let marks := match rules.dialect with | .strict => "?:,]\x7d%@`" | .tolerant => ",[]\x7b\x7d"
  let ends := endsToken after.peek || after.peek.any (marks.toList.contains ·)
  if letters.isEmpty || !ends then .error .malformed else .ok (String.ofList letters, after)

def percentBytes : Nat → Cursor → Except ReadError (List UInt8 × Cursor)
  | 0, cursor => .ok ([], cursor)
  | fuel + 1, cursor =>
    match cursor.rest with
    | '%' :: high :: low :: _ =>
      match Text.number? 16 [high, low] with
      | some byte => do
        let (more, last) ← percentBytes fuel (cursor.skip 3)
        return (UInt8.ofNat byte :: more, last)
      | none => .error .malformed
    | '%' :: _ => .error .malformed
    | _ => .ok ([], cursor)

def tagLetters : Nat → Cursor → Except ReadError Scanned
  | 0, cursor => .ok ([], cursor)
  | fuel + 1, cursor =>
    match cursor.rest with
    | [] => .ok ([], cursor)
    | c :: _ =>
      if c == '%' then do
        let (bytes, after) ← percentBytes cursor.rest.length cursor
        match String.fromUTF8? ⟨bytes.toArray⟩ with
        | none => .error .malformed
        | some decoded =>
          let (more, last) ← tagLetters fuel after
          return (decoded.toList ++ more, last)
      else if isTagLetter c then do
        let (more, last) ← tagLetters fuel cursor.next
        return (c :: more, last)
      else .ok ([], cursor)

/-- A tag without its handle; it may not be empty. -/
def scanTagText (cursor : Cursor) : Except ReadError (String × Cursor) := do
  let (letters, after) ← tagLetters (cursor.rest.length + 1) cursor
  if after.passed = cursor.passed then .error .malformed else return (String.ofList letters, after)

/-- A tag's handle: `!`, `!!` or a name between exclamation marks. -/
def scanTagHandle (cursor : Cursor) : Except ReadError (String × Cursor) :=
  if cursor.peek != some '!' then .error .malformed
  else if cursor.peekAt 1 == some ' ' then .ok ("!", cursor.next)
  else
    let (name, after) := cursor.next.takeWhile isNameLetter
    if after.peek != some '!' then .error .malformed
    else .ok (String.ofList ('!' :: name ++ ['!']), after.next)

def hasNamedHandle (cursor : Cursor) : Bool :=
  (cursor.next.rest.takeWhile fun c => !(c == ' ' || isLineEnd c)).contains '!'

def scanTag (cursor : Cursor) : Except ReadError (Token × Cursor) := do
  let (token, after) ←
    if cursor.peekAt 1 == some '<' then do
      let (suffix, after) ← scanTagText (cursor.skip 2)
      if after.peek == some '>' then pure (Token.tag none suffix, after.next) else .error .malformed
    else if endsToken (cursor.peekAt 1) then pure (Token.tag none "!", cursor.next)
    else do
      let (handle, start) ← if hasNamedHandle cursor then scanTagHandle cursor else pure ("!", cursor.next)
      let (suffix, after) ← scanTagText start
      pure (Token.tag (some handle) suffix, after)
  if endsWord after.peek then return (token, after) else .error .malformed

def scanNumber (cursor : Cursor) : Except ReadError (Nat × Cursor) :=
  let (digits, after) := cursor.takeWhile Char.isDigit
  match digits, Text.number? 10 digits with
  | _ :: _, some number => .ok (number, after)
  | _, _ => .error .malformed

def scanVersion (cursor : Cursor) : Except ReadError (Directive × Cursor) := do
  let (major, after) ← scanNumber cursor.skipSpaces
  if after.peek != some '.' then .error .malformed
  else
    let (minor, last) ← scanNumber after.next
    if endsWord last.peek then return (.version major minor, last) else .error .malformed

def scanHandleDirective (cursor : Cursor) : Except ReadError (Directive × Cursor) := do
  let (handle, after) ← scanTagHandle cursor.skipSpaces
  if after.peek != some ' ' then .error .malformed
  else
    let (start, last) ← scanTagText after.skipSpaces
    if endsWord last.peek then return (.tagHandle handle start, last) else .error .malformed

def scanDirective (rules : Rules) (cursor : Cursor) : Except ReadError (Token × Cursor) := do
  let (name, after) := cursor.next.takeWhile isNameLetter
  if name.isEmpty || !endsWord after.peek then .error .malformed
  else
    let (directive, last) ←
      match String.ofList name with
      | "YAML" => scanVersion after
      | "TAG" => scanHandleDirective after
      | _ => pure (Directive.other, after.skipWhile (!rules.isLineEnd ·))
    return (.directive directive, ← restOfLine rules last)

end BoxTree.Yaml
