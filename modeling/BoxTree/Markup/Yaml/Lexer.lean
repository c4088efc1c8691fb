import BoxTree.Markup.Yaml.Token

/-! Tokens in the order of the text. A key is recognised only by the colon after it, so its place among
the tokens is kept as long as a colon may come: on the same line and within 1024 letters. Blocks open
and close with the indentation. Where a text cannot be taken apart, the tokens end with the reason: at the
first token whose meaning was still open. -/

namespace BoxTree.Yaml

/-- A token that may turn out to be the start of a key. -/
structure PossibleKey where
  place : Nat
  /-- Whether a key has to stand here. -/
  required : Bool
  passed : Nat
  line : Nat
  column : Nat

structure Lexer where
  rules : Rules
  cursor : Cursor
  tokens : Array Token
  /-- The open flow collections, the innermost first; true for a sequence. -/
  brackets : List Bool
  /-- The columns of the open blocks, the innermost first. -/
  indents : List Int
  keyAllowed : Bool
  possible : List (Nat × PossibleKey)

namespace Lexer

def ofText (rules : Rules) (letters : List Char) : Lexer := ⟨rules, .ofText letters, #[], [], [], true, []⟩

def depth (lexer : Lexer) : Nat := lexer.brackets.length

def inFlow (lexer : Lexer) : Bool := !lexer.brackets.isEmpty

def indent (lexer : Lexer) : Int := lexer.indents.headD (-1)

def push (lexer : Lexer) (token : Token) : Lexer := { lexer with tokens := lexer.tokens.push token }

def allowKey (lexer : Lexer) (allowed : Bool) : Lexer := { lexer with keyAllowed := allowed }

def possibleHere? (lexer : Lexer) : Option PossibleKey := lexer.possible.lookup lexer.depth

def forgetHere (lexer : Lexer) : Lexer :=
  { lexer with possible := lexer.possible.filter (·.1 != lexer.depth) }

def dropKey (lexer : Lexer) : Except ReadError Lexer :=
  if lexer.possibleHere?.any (·.required) then .error .malformed else .ok lexer.forgetHere

def noteKey (lexer : Lexer) : Except ReadError Lexer :=
  if lexer.keyAllowed then do
    let lexer ← lexer.dropKey
    let cursor := lexer.cursor
    let required := !lexer.inFlow && lexer.indent == cursor.column
    let key : PossibleKey := ⟨lexer.tokens.size, required, cursor.passed, cursor.line, cursor.column⟩
    return { lexer with possible := (lexer.depth, key) :: lexer.possible }
  else .ok lexer

def isStale (lexer : Lexer) (key : PossibleKey) : Bool :=
  key.line != lexer.cursor.line || key.passed + 1024 < lexer.cursor.passed

def dropStaleKeys (lexer : Lexer) : Except ReadError Lexer :=
  if lexer.possible.any fun entry => lexer.isStale entry.2 && entry.2.required then .error .malformed
  else .ok { lexer with possible := lexer.possible.filter fun entry => !lexer.isStale entry.2 }

def firstOpen? (lexer : Lexer) : Option Nat :=
  ((lexer.possible.filter fun entry => !lexer.isStale entry.2).map (·.2.place)).min?

/-- Close the blocks that are further right than a column. -/
def closeBlocks (lexer : Lexer) (column : Int) : Lexer :=
  if lexer.inFlow then lexer
  else
    let closed := lexer.indents.takeWhile (column < ·)
    { lexer with
      indents := lexer.indents.drop closed.length
      tokens := closed.foldl (fun tokens _ => tokens.push .blockEnd) lexer.tokens }

/-- Open a block at a column, unless one at least as far right is open. -/
def openBlock (lexer : Lexer) (column : Nat) (start : Token) (place : Nat) : Lexer :=
  if lexer.indent < column then
    { lexer with
      indents := column :: lexer.indents
      tokens := lexer.tokens.insertIdxIfInBounds place start }
  else lexer

/-- Blanks, comments and line ends before the next token. A line end outside flow collections allows a
key again. -/
def skipBlanks : Nat → Lexer → Lexer
  | 0, lexer => lexer
  | fuel + 1, lexer =>
    let spaced := lexer.cursor.skipSpaces
    let cursor := if spaced.peek == some '#' then spaced.skipWhile (!lexer.rules.isLineEnd ·) else spaced
    match cursor.lineEnd? with
    | some (_, after) =>
      skipBlanks fuel { lexer with cursor := after, keyAllowed := lexer.keyAllowed || !lexer.inFlow }
    | none => { lexer with cursor }

def mark (lexer : Lexer) (token : Token) (length : Nat) : Lexer :=
  { lexer with cursor := lexer.cursor.skip length, tokens := lexer.tokens.push token }

def documentLine (lexer : Lexer) (scan : Cursor → Except ReadError (Token × Cursor)) :
    Except ReadError Lexer := do
  let lexer ← (lexer.closeBlocks (-1)).dropKey
  let (token, after) ← scan lexer.cursor
  return { lexer with cursor := after, tokens := lexer.tokens.push token, keyAllowed := false }

def openFlow (lexer : Lexer) (isSequence : Bool) : Except ReadError Lexer := do
  let lexer ← lexer.noteKey
  let start := if isSequence then Token.flowSequenceStart else .flowMappingStart
  return { lexer.mark start 1 with brackets := isSequence :: lexer.brackets, keyAllowed := true }

def closeFlow (lexer : Lexer) (stop : Token) : Except ReadError Lexer := do
  let lexer ← lexer.dropKey
  return { lexer.mark stop 1 with brackets := lexer.brackets.tail, keyAllowed := false }

def flowEntry (lexer : Lexer) : Except ReadError Lexer := do
  return (← (lexer.allowKey true).dropKey).mark .flowEntry 1

/-- An entry or key mark; outside flow collections it may open a block. -/
def blockMark (lexer : Lexer) (token start : Token) (keyAfter : Bool) : Except ReadError Lexer := do
  if !lexer.inFlow && !lexer.keyAllowed then .error .malformed
  else
    let opened :=
      if lexer.inFlow then lexer else lexer.openBlock lexer.cursor.column start lexer.tokens.size
    return (← (opened.allowKey keyAfter).dropKey).mark token 1

/-- A colon. If a possible key is known, its tokens turn into a key; otherwise the key is empty. -/
def valueMark (lexer : Lexer) : Except ReadError Lexer := do
  match lexer.possibleHere? with
  | some key =>
    let keyed := { lexer.forgetHere with tokens := lexer.tokens.insertIdxIfInBounds key.place .key }
    let opened := if lexer.inFlow then keyed else keyed.openBlock key.column .blockMappingStart key.place
    return (opened.allowKey false).mark .value 1
  | none => lexer.blockMark .value .blockMappingStart (!lexer.inFlow)

def simpleToken (lexer : Lexer) (scan : Cursor → Except ReadError (Token × Cursor)) :
    Except ReadError Lexer := do
  let lexer ← lexer.noteKey
  let (token, after) ← scan lexer.cursor
  return { lexer with cursor := after, tokens := lexer.tokens.push token, keyAllowed := false }

def plain (lexer : Lexer) : Except ReadError Lexer := do
  let lexer ← lexer.noteKey
  let (letters, broken, after) := plainScalar lexer.rules lexer.inFlow lexer.indent lexer.cursor
  return { lexer with
    cursor := after
    tokens := lexer.tokens.push (.scalar (.whole (String.ofList letters)) true)
    keyAllowed := broken }

def quoted (double : Bool) (cursor : Cursor) : Except ReadError (Token × Cursor) := do
  let (letters, after) ← quotedScalar double cursor
  return (.scalar (.ofLetters letters) false, after)

def block (lexer : Lexer) (isFolded : Bool) : Except ReadError Lexer := do
  let lexer ← (lexer.allowKey true).dropKey
  let (letters, after) ← blockScalar lexer.rules isFolded lexer.indent lexer.cursor
  return { lexer with cursor := after, tokens := lexer.tokens.push (.scalar (.whole (String.ofList letters)) false) }

def indicators : List Char := "-?:,[]\x7b\x7d#&*!|>'\"%@`".toList

/-- Whether a plain scalar begins here: also with a hyphen, and outside flow collections with a question
mark or colon, if a letter follows at once. By loose rules a colon may begin one inside them too. -/
def startsPlain (lexer : Lexer) : Bool :=
  match lexer.cursor.rest with
  | [] => false
  | c :: rest =>
    let after := rest.head?
    !(endsToken (some c) || indicators.contains c)
      || (!lexer.rules.endsToken after && (c == '-' || (!lexer.inFlow && (c == '?' || c == ':'))))
      || (lexer.rules.isLoose && lexer.inFlow && c == ':' && after != some ' ' && after != some '\t')

/-- Whether a key mark stands here: outside flow collections a blank has to follow. -/
def isKeyMark (lexer : Lexer) : Bool := lexer.inFlow || lexer.rules.endsToken (lexer.cursor.peekAt 1)

/-- Whether a value mark stands here. By loose rules a blank has to follow in sequences too, and right after
another value mark if that one is not settled yet. -/
def isValueMark (lexer : Lexer) (isOpen : Bool) : Bool :=
  let blankFollows := lexer.rules.endsToken (lexer.cursor.peekAt 1)
  match lexer.brackets with
  | [] => blankFollows
  | isSequence :: _ =>
    blankFollows || !lexer.rules.isLoose || !(isSequence || (isOpen && lexer.tokens.back? == some .value))

/-- A directive line; the version that it may name decides how the text after it is read. -/
def directive (lexer : Lexer) : Except ReadError Lexer := do
  let lexer ← lexer.documentLine (scanDirective lexer.rules)
  match lexer.tokens.back? with
  | some (.directive (.version major minor)) =>
    return { lexer with rules := lexer.rules.dialect.rules (some (major, minor)) }
  | _ => return lexer

/-- The next token, which begins with the letter `c`. `isOpen` tells whether a possible key came before. -/
def take (lexer : Lexer) (isOpen : Bool) (c : Char) : Except ReadError Lexer :=
  let cursor := lexer.cursor
  let pass (token : Token) (cursor : Cursor) : Except ReadError (Token × Cursor) := .ok (token, cursor.skip 3)
  let atLineStart := cursor.column == 0
  if c == '%' && atLineStart then lexer.directive
  else if atLineStart && isDocumentMark cursor then
    lexer.documentLine (pass (if c == '-' then .documentStart else .documentEnd))
  else if c == '[' then lexer.openFlow true
  else if c == '\x7b' then lexer.openFlow false
  else if c == ']' then lexer.closeFlow .flowSequenceEnd
  else if c == '\x7d' then lexer.closeFlow .flowMappingEnd
  else if c == ',' then lexer.flowEntry
  else if c == '-' && lexer.rules.endsToken (cursor.peekAt 1) then lexer.blockMark .blockEntry .blockSequenceStart true
  else if c == '?' && lexer.isKeyMark then lexer.blockMark .key .blockMappingStart (!lexer.inFlow)
  else if c == ':' && lexer.isValueMark isOpen then lexer.valueMark
  else if c == '*' then lexer.simpleToken fun cursor => do
    let (name, after) ← scanName lexer.rules cursor
    return (.reference name, after)
  else if c == '&' then lexer.simpleToken fun cursor => do
    let (name, after) ← scanName lexer.rules cursor
    return (.anchor name, after)
  else if c == '!' then lexer.simpleToken scanTag
  else if c == '|' && !lexer.inFlow then lexer.block false
  else if c == '>' && !lexer.inFlow then lexer.block true
  else if c == '\'' then lexer.simpleToken (quoted false)
  else if c == '"' then lexer.simpleToken (quoted true)
  else if lexer.startsPlain then lexer.plain
  else .error .malformed

def advance (lexer : Lexer) : Except ReadError (Lexer × Bool) := do
  let isOpen := lexer.firstOpen?.isSome
  let lexer ← (lexer.skipBlanks (lexer.cursor.rest.length + 1)).dropStaleKeys
  let lexer := lexer.closeBlocks lexer.cursor.column
  match lexer.cursor.peek with
  | none => return (← (lexer.closeBlocks (-1)).dropKey, false)
  | some c => return (← lexer.take isOpen c, true)

/-- The tokens up to the first open one, and the reason why there are no more. -/
def stopped (lexer : Lexer) (error : ReadError) : List Token :=
  let settled := lexer.firstOpen?.getD lexer.tokens.size
  lexer.tokens.toList.take settled ++ [.unreadable error]

def run : Nat → Lexer → List Token
  | 0, lexer => lexer.stopped .malformed
  | fuel + 1, lexer =>
    match lexer.advance with
    | .error error => lexer.stopped error
    | .ok (lexer, true) => run fuel lexer
    | .ok (lexer, false) => lexer.tokens.toList

end Lexer

def isAllowed (c : Char) : Bool :=
  let code := c.toNat
  c == '\t' || c == '\n' || c == '\r' || c == '\x85' || (0x20 ≤ code && code ≤ 0x7e) ||
    (0xa0 ≤ code && code ≤ 0xd7ff) || (0xe000 ≤ code && code ≤ 0xfffd) || 0x10000 ≤ code

/-- The tokens of a text; a byte order mark at its start is passed over. -/
def tokens (dialect : Dialect) (text : String) : List Token :=
  let letters := text.toList
  if letters.all isAllowed then
    let lexer := Lexer.ofText (dialect.rules none) letters
    let start := if letters.head? == some byteOrderMark then lexer.cursor.next else lexer.cursor
    Lexer.run (letters.length + 1) { lexer with cursor := start }
  else [.unreadable .malformed]

end BoxTree.Yaml
