import BoxTree.Text.Digit

/-! Patterns: texts with places in braces, each for the value that some names lead to. A doubled brace stands for
itself. -/

namespace BoxTree

namespace Pattern

inductive Step where
  | member (name : String)
  | item (name : String)

def Step.name : Step → String
  | member name | item name => name

/-- How the value in a place is shown: by itself, in quotes, or in quotes with ASCII letters alone. -/
inductive Form where
  | plain
  | quoted
  | ascii
  | unknown (letter : Char)

def Form.ofLetter (letter : Char) : Form :=
  if letter == 's' then plain else if letter == 'r' then quoted else if letter == 'a' then ascii else unknown letter

/-- A part of a pattern, up to the first one that is written wrongly. -/
inductive Piece where
  | letters (content : String)
  /-- A place for a value. The steps to it end where they are written wrongly. -/
  | place (name : String) (steps : List Step) (fault : Option String) (form : Form) (layout : String)
  | fault (reason : String)

def steps : Nat → List Char → List Step × Option String
  | 0, _ | _, [] => ([], none)
  | fuel + 1, '.' :: rest =>
    match rest.span fun c => c != '.' && c != '[' with
    | ([], _) => ([], some "Empty attribute in format string")
    | (name, after) => let (more, fault) := steps fuel after; (.member (String.ofList name) :: more, fault)
  | fuel + 1, '[' :: rest =>
    match rest.span (· != ']') with
    | (_, []) => ([], some "Missing ']' in format string")
    | ([], _) => ([], some "Empty attribute in format string")
    | (name, _ :: after) => let (more, fault) := steps fuel after; (.item (String.ofList name) :: more, fault)
  | _, _ => ([], some "Only '.' or '[' may follow ']' in format field specifier")

/-- The name of a place, and what follows it. Between square brackets any letter is part of it. -/
def nameOf : Nat → List Char → Except String (List Char × List Char)
  | 0, letters => .ok ([], letters)
  | _, [] => .ok ([], [])
  | fuel + 1, c :: rest =>
    if c == '\x7b' then .error "unexpected '\x7b' in field name"
    else if c == '\x7d' || c == ':' || c == '!' then .ok ([], c :: rest)
    else if c == '[' then
      let (inside, after) := rest.span (· != ']')
      (fun (name, last) => (c :: inside ++ name, last)) <$> nameOf fuel after
    else (fun (name, last) => (c :: name, last)) <$> nameOf fuel rest

/-- The layout of a place, up to the brace that closes the place, and what follows it. -/
def layoutOf : Nat → List Char → Except String (List Char × List Char)
  | _, [] => .error "unmatched '\x7b' in format spec"
  | 0, '\x7d' :: rest => .ok ([], rest)
  | depth, c :: rest =>
    let inside := if c == '\x7b' then depth + 1 else if c == '\x7d' then depth - 1 else depth
    (fun (layout, last) => (c :: layout, last)) <$> layoutOf inside rest

/-- How the value in a place is shown, after its name, and what follows the place. -/
def afterName : List Char → Except String (Form × List Char × List Char)
  | '\x7d' :: rest => .ok (.plain, [], rest)
  | ':' :: rest => (.plain, ·) <$> layoutOf 0 rest
  | ['!'] => .error "end of string while looking for conversion specifier"
  | ['!', _] => .error "unmatched '\x7b' in format spec"
  | '!' :: letter :: '\x7d' :: rest => .ok (.ofLetter letter, [], rest)
  | '!' :: letter :: ':' :: rest => (.ofLetter letter, ·) <$> layoutOf 0 rest
  | '!' :: _ => .error "expected ':' after conversion specifier"
  | _ => .error "expected '\x7d' before end of string"

def placeOf (letters : List Char) : Except String (Piece × List Char) := do
  let (name, after) ← nameOf (letters.length + 1) letters
  let (form, layout, rest) ← afterName after
  let (first, inner) := name.span fun c => c != '.' && c != '['
  let (steps, fault) := steps inner.length inner
  return (.place (String.ofList first) steps fault form (String.ofList layout), rest)

def piecesFrom : Nat → List Char → List Piece
  | 0, _ | _, [] => []
  | fuel + 1, letters =>
    let (before, rest) := letters.span fun c => c != '\x7b' && c != '\x7d'
    .letters (String.ofList before) ::
      match rest with
      | [] => []
      | '\x7b' :: '\x7b' :: more => .letters "\x7b" :: piecesFrom fuel more
      | '\x7d' :: '\x7d' :: more => .letters "\x7d" :: piecesFrom fuel more
      | ['\x7b'] => [.fault "Single '\x7b' encountered in format string"]
      | '\x7b' :: more =>
        match placeOf more with
        | .ok (piece, after) => piece :: piecesFrom fuel after
        | .error reason => [.fault reason]
      | _ => [.fault "Single '\x7d' encountered in format string"]

def pieces (content : String) : List Piece := piecesFrom (content.length + 1) content.toList

end Pattern
end BoxTree
