import BoxTree.Markup.Yaml.Cursor

/-! The texts of YAML scalars: plain ones, quoted ones, and blocks of lines. A line end inside a scalar
is folded into a space unless blank lines follow or the block is literal. -/

namespace BoxTree.Yaml

abbrev Scanned := List Char × Cursor

/-! ### Line ends -/

def folded (lineEnd : Char) (blankLines : List Char) : List Char :=
  (if lineEnd != '\n' then [lineEnd] else if blankLines.isEmpty then [' '] else []) ++ blankLines

/-! ### Plain scalars -/

def Rules.endsToken (rules : Rules) (letter : Option Char) : Bool :=
  match letter with
  | none => true
  | some c => c == ' ' || c == '\t' || rules.isLineEnd c

/-- Whether a plain scalar's word ends at the first letter of a list; brackets and commas end it in a
flow collection only. -/
def endsPlainWord (rules : Rules) (inFlow : Bool) : List Char → Bool
  | [] => true
  | c :: rest =>
    let after := rest.head?
    let closes := inFlow && !rules.isTolerant && after.any [',', '[', ']', '\x7b', '\x7d'].contains
    rules.endsToken (some c)
      || (c == ':' && (rules.endsToken after || closes))
      || (inFlow && ([',', '[', ']', '\x7b', '\x7d'].contains c || (c == '?' && !rules.isLoose)))

def plainWordLength (rules : Rules) (inFlow : Bool) : List Char → Nat
  | [] => 0
  | c :: rest => if endsPlainWord rules inFlow (c :: rest) then 0 else plainWordLength rules inFlow rest + 1

/-- Blank lines between the lines of a plain scalar; nothing if a document mark comes up. -/
def plainBlankLines : Nat → Cursor → Option Scanned
  | 0, cursor => some ([], cursor)
  | fuel + 1, cursor =>
    let cursor := cursor.skipSpaces
    match cursor.lineEnd? with
    | none => some ([], cursor)
    | some (lineEnd, after) =>
      if isDocumentMark after then none
      else (plainBlankLines fuel after).map fun (more, last) => (lineEnd :: more, last)

/-- What stands between two words of a plain scalar, whether a line ended there, and the next place. -/
def plainGap (cursor : Cursor) : List Char × Bool × Cursor :=
  let (spaces, after) := cursor.takeWhile (· == ' ')
  match after.lineEnd? with
  | none => (spaces, false, after)
  | some (lineEnd, start) =>
    if isDocumentMark start then ([], true, start)
    else
      match plainBlankLines (start.rest.length + 1) start with
      | none => ([], true, start)
      | some (blankLines, last) => (folded lineEnd blankLines, true, last)

/-- The words of a plain scalar that stands further right than the indentation. The flag says whether
its last gap held a line end. -/
def plainWords (rules : Rules) (inFlow : Bool) (indent : Int) : Nat → List Char → Cursor → List Char × Bool × Cursor
  | 0, _, cursor => ([], false, cursor)
  | fuel + 1, gap, cursor =>
    let length := if cursor.peek == some '#' then 0 else plainWordLength rules inFlow cursor.rest
    if length = 0 then ([], false, cursor)
    else
      let word := cursor.rest.take length
      let (nextGap, broken, after) := plainGap (cursor.skip length)
      if nextGap.isEmpty || after.peek == some '#' || (!inFlow && (after.column : Int) ≤ indent) then
        (gap ++ word, broken, after)
      else
        let (more, ended, last) := plainWords rules inFlow indent fuel nextGap after
        (gap ++ word ++ more, if more.isEmpty then broken else ended, last)

def plainScalar (rules : Rules) (inFlow : Bool) (indent : Int) (cursor : Cursor) : List Char × Bool × Cursor :=
  plainWords rules inFlow indent (cursor.rest.length + 1) [] cursor

/-! ### Quoted scalars -/

abbrev Quoted := List Letter × Cursor

/-- Letters that an escape of one letter stands for. -/
def escapes : List (Char × Char) :=
  [('0', '\x00'), ('a', '\x07'), ('b', '\x08'), ('t', '\t'), ('\t', '\t'), ('n', '\n'), ('v', '\x0b'),
    ('f', '\x0c'), ('r', '\r'), ('e', '\x1b'), (' ', ' '), ('"', '"'), ('\\', '\\'), ('/', '/'),
    ('N', '\x85'), ('_', '\xa0'), ('L', '\u2028'), ('P', '\u2029')]

def codeLength? : Char → Option Nat
  | 'x' => some 2
  | 'u' => some 4
  | 'U' => some 8
  | _ => none

def codedLetter (length : Nat) (cursor : Cursor) : Except ReadError (Letter × Cursor) :=
  let digits := cursor.rest.take length
  if digits.length < length then .error .malformed
  else
    match Text.number? 16 digits with
    | none => .error .malformed
    | some code =>
      if code < 0x110000 then .ok (.ofCode code, cursor.skip length)
      else if code < 0x80000000 then .error (.badScalar "chr() arg not in range(0x110000)")
      else .error .oversizedCode

def quotedBlankLines : Nat → Cursor → Except ReadError Scanned
  | 0, cursor => .ok ([], cursor)
  | fuel + 1, cursor =>
    if isDocumentMark cursor then .error .malformed
    else
      let cursor := cursor.skipWhile fun c => c == ' ' || c == '\t'
      match cursor.lineEnd? with
      | none => .ok ([], cursor)
      | some (lineEnd, after) => do
        let (more, last) ← quotedBlankLines fuel after
        return (lineEnd :: more, last)

def blankLinesFrom (cursor : Cursor) : Except ReadError Scanned :=
  quotedBlankLines (cursor.rest.length + 1) cursor

def quotedGap (cursor : Cursor) : Except ReadError Scanned := do
  let (blanks, after) := cursor.takeWhile fun c => c == ' ' || c == '\t'
  match after.peek, after.lineEnd? with
  | none, _ => .error .malformed
  | some _, none => return (blanks, after)
  | some _, some (lineEnd, start) =>
    let (blankLines, last) ← blankLinesFrom start
    return (folded lineEnd blankLines, last)

/-- A backslash in double quotes, with what it stands for. -/
def escaped (cursor : Cursor) : Except ReadError Quoted :=
  match cursor.peek with
  | none => .error .malformed
  | some c =>
    match escapes.lookup c, codeLength? c, cursor.lineEnd? with
    | some letter, _, _ => .ok ([.char letter], cursor.next)
    | none, some length, _ => do
      let (letter, after) ← codedLetter length cursor.next
      return ([letter], after)
    | none, none, some (_, after) => do
      let (blankLines, last) ← blankLinesFrom after
      return (blankLines.map .char, last)
    | none, none, none => .error .malformed

def quotedRest (double : Bool) : Nat → Cursor → Except ReadError Quoted
  | 0, _ => .error .malformed
  | fuel + 1, cursor =>
    let continueWith (letters : List Letter) (after : Cursor) : Except ReadError Quoted := do
      let (more, last) ← quotedRest double fuel after
      return (letters ++ more, last)
    let keep (c : Char) (after : Cursor) : Except ReadError Quoted := continueWith [.char c] after
    match cursor.rest with
    | [] => .error .malformed
    | '"' :: _ => if double then .ok ([], cursor.next) else keep '"' cursor.next
    | '\'' :: '\'' :: _ => keep '\'' (if double then cursor.next else cursor.skip 2)
    | '\'' :: _ => if double then keep '\'' cursor.next else .ok ([], cursor.next)
    | '\\' :: _ =>
      if double then do
        let (letters, after) ← escaped cursor.next
        continueWith letters after
      else keep '\\' cursor.next
    | c :: _ =>
      if c == ' ' || c == '\t' || isLineEnd c then do
        let (gap, after) ← quotedGap cursor
        continueWith (gap.map .char) after
      else keep c cursor.next

def quotedScalar (double : Bool) (cursor : Cursor) : Except ReadError Quoted :=
  quotedRest double (cursor.rest.length + 1) cursor.next

/-! ### Block scalars -/

/-- What becomes of the line ends after the last line of a block. -/
inductive Chomping where
  | strip
  | clip
  | keep

def chomping? : Option Char → Option Chomping
  | some '+' => some .keep
  | some '-' => some .strip
  | _ => none

/-- A digit from one to nine, or nothing; zero is refused. -/
def indentDigit? (letter : Option Char) : Except ReadError (Option Nat) :=
  match letter.bind (Text.asciiDigit? 10) with
  | some 0 => .error .malformed
  | digit => .ok digit

def blockHeader (rules : Rules) (cursor : Cursor) : Except ReadError (Chomping × Option Nat × Cursor) := do
  let (chomping, indent, after) ←
    match chomping? cursor.peek with
    | some chomping => do
      let indent ← indentDigit? cursor.next.peek
      pure (chomping, indent, if indent.isSome then cursor.next.next else cursor.next)
    | none =>
      match ← indentDigit? cursor.peek with
      | none => pure (Chomping.clip, none, cursor)
      | some indent =>
        match chomping? cursor.next.peek with
        | some chomping => pure (chomping, some indent, cursor.next.next)
        | none => pure (Chomping.clip, some indent, cursor.next)
  if endsWord after.peek then return (chomping, indent, ← restOfLine rules after) else .error .malformed

/-- Blank lines before a block's first line, and the deepest indentation seen. -/
def leadingLines : Nat → Nat → Cursor → List Char × Nat × Cursor
  | 0, deepest, cursor => ([], deepest, cursor)
  | fuel + 1, deepest, cursor =>
    let after := cursor.skipSpaces
    let deepest := if after.passed = cursor.passed then deepest else max deepest after.column
    match after.lineEnd? with
    | none => ([], deepest, after)
    | some (lineEnd, start) =>
      let (more, found, last) := leadingLines fuel deepest start
      (lineEnd :: more, found, last)

def blockBlankLines (indent : Nat) : Nat → Cursor → Scanned
  | 0, cursor => ([], cursor)
  | fuel + 1, cursor =>
    let after := cursor.indentTo indent
    match after.lineEnd? with
    | none => ([], after)
    | some (lineEnd, start) =>
      let (more, last) := blockBlankLines indent fuel start
      (lineEnd :: more, last)

def isBlankLetter (letter : Option Char) : Bool := letter == some ' ' || letter == some '\t'

/-- The lines of a block: their letters, the last line end, and the blank lines after it. A block without
indentation ends before a document mark. -/
def blockLines (rules : Rules) (isFolded : Bool) (indent : Nat) :
    Nat → List Char → Cursor → List Char × List Char × List Char × Cursor
  | 0, blankLines, cursor => ([], [], blankLines, cursor)
  | fuel + 1, blankLines, cursor =>
    if cursor.column = indent && cursor.peek.isSome then
      let flush := !isBlankLetter cursor.peek
      let (line, atEnd) := cursor.takeWhile (!rules.isLineEnd ·)
      let (lineEnd, start) :=
        match atEnd.lineEnd? with
        | some (lineEnd, start) => ([lineEnd], start)
        | none => ([], atEnd)
      let (nextBlank, after) := blockBlankLines indent (start.rest.length + 1) start
      let begun := blankLines ++ line
      let isOver := indent = 0 && isDocumentMark after
      if after.column = indent && after.peek.isSome && !isOver then
        let joint :=
          if isFolded && lineEnd == ['\n'] && flush && !isBlankLetter after.peek then
            if nextBlank.isEmpty then [' '] else []
          else lineEnd
        let (more, lastEnd, lastBlank, last) := blockLines rules isFolded indent fuel nextBlank after
        (begun ++ joint ++ more, lastEnd, lastBlank, last)
      else (begun, lineEnd, nextBlank, after)
    else ([], [], blankLines, cursor)

/-- The column of a block below an indentation, if none is given; tolerant readers allow the first one for a
whole document. -/
def leastColumn (rules : Rules) (indent : Int) : Nat :=
  (max (indent + 1) (if rules.isTolerant then 0 else 1)).toNat

def blockScalar (rules : Rules) (isFolded : Bool) (indent : Int) (cursor : Cursor) : Except ReadError Scanned := do
  let (chomping, given, start) ← blockHeader rules cursor.next
  let fuel := start.rest.length + 1
  let (blankLines, depth, first) :=
    match given with
    | some extra =>
      let depth := (max (indent + 1) 1).toNat + extra - 1
      let (blankLines, first) := blockBlankLines depth fuel start
      (blankLines, depth, first)
    | none =>
      let (blankLines, deepest, first) := leadingLines fuel 0 start
      (blankLines, max (leastColumn rules indent) deepest, first)
  let (letters, lastEnd, lastBlank, last) := blockLines rules isFolded depth fuel blankLines first
  return match chomping with
    | .strip => (letters, last)
    | .clip => (letters ++ lastEnd, last)
    | .keep => (letters ++ lastEnd ++ lastBlank, last)

end BoxTree.Yaml
