import BoxTree.Text.Blank

/-! Files of variables: lines such as `NAME=text` or `export NAME="text"`, with comments. A text may
ask for another variable as `${NAME}`, or as `${NAME:-text}` with a text for the case that there is none. -/

namespace BoxTree.VariableFile

inductive Statement where
  /-- A variable; without an equals sign it has no text. -/
  | binding (name : String) (content : Option String)
  | nothing
  | unreadable
deriving DecidableEq

def isGap (c : Char) : Bool := Text.isSpacing c && c != '\n' && c != '\r'

def skipGap (letters : List Char) : List Char := letters.dropWhile isGap

def endsLine (c : Char) : Bool := c == '\n' || c == '\r'

def skipLine (letters : List Char) : List Char := (letters.dropWhile fun c => !endsLine c).drop 1

/-- The letters after a leading `export`. -/
def afterExport (letters : List Char) : List Char :=
  if "export".toList.isPrefixOf letters then
    let rest := letters.drop 6
    if (skipGap rest).length < rest.length then skipGap rest else letters
  else letters

/-- A name, and what follows it. A comment has no name. -/
def name? (letters : List Char) : Option (Option String × List Char) :=
  match letters with
  | '#' :: _ => some (none, letters)
  | '\'' :: rest =>
    match rest.span (· != '\'') with
    | (first :: more, _ :: after) => some (some (String.ofList (first :: more)), after)
    | _ => none
  | _ =>
    match letters.span fun c => c != '=' && c != '#' && !Text.isSpacing c with
    | ([], _) => none
    | (found, after) => some (some (String.ofList found), after)

/-- The places of a quote: those without a backslash before them, and those with one. -/
def quotePlaces (quote : Char) (letters : List Char) : List Nat × List Nat :=
  let places := (List.range letters.length).filter fun place => letters[place]? == some quote
  places.partition fun place => place == 0 || letters[place - 1]? != some '\\'

/-- Where a quoted text ends: at its first bare quote, or else at its last one of any kind. -/
def closing? (quote : Char) (letters : List Char) : Option Nat :=
  match quotePlaces quote letters with
  | (bare :: _, _) => some bare
  | ([], escaped) => escaped.getLast?

def quotedEscape? (quote c : Char) : Option Char :=
  if quote == '\'' then if c == '\\' || c == '\'' then some c else none
  else
    [('\\', '\\'), ('\'', '\''), ('"', '"'), ('a', '\x07'), ('b', '\x08'), ('f', '\x0c'), ('n', '\n'),
      ('r', '\r'), ('t', '\t'), ('v', '\x0b')].lookup c

/-- The letters that a quoted text stands for. -/
def unescape (quote : Char) : List Char → List Char
  | '\\' :: c :: rest =>
    match quotedEscape? quote c with
    | some letter => letter :: unescape quote rest
    | none => '\\' :: unescape quote (c :: rest)
  | c :: rest => c :: unescape quote rest
  | [] => []

def beforeComment : List Char → List Char
  | [] => []
  | c :: rest =>
    if Text.isSpacing c && (rest.dropWhile Text.isSpacing).head? == some '#' then [] else c :: beforeComment rest

def content? (letters : List Char) : Option (String × List Char) :=
  let quotedText (quote : Char) (rest : List Char) : Option (String × List Char) :=
    (closing? quote rest).map fun place =>
      (String.ofList (unescape quote (rest.take place)), rest.drop (place + 1))
  match letters with
  | '\'' :: rest => quotedText '\'' rest
  | '"' :: rest => quotedText '"' rest
  | _ =>
    let (line, after) := letters.span fun c => !endsLine c
    some (String.ofList (Text.trimEnd Text.isSpacing (beforeComment line)), after)

/-- The end of a line after a statement, perhaps with a comment before it. -/
def lineEnd? (letters : List Char) : Option (List Char) :=
  let afterComment :=
    match skipGap letters with
    | '#' :: rest => rest.dropWhile fun c => !endsLine c
    | rest => rest
  match afterComment with
  | [] => some []
  | c :: rest => if endsLine c then some rest else none

/-- The first statement and what follows it; one that cannot be read ends with its line. -/
def statement (letters : List Char) : Statement × List Char :=
  match letters.dropWhile Text.isSpacing with
  | [] => (.nothing, [])
  | start =>
    let named := afterExport start
    match name? named with
    | none => (.unreadable, skipLine named)
    | some (name, afterName) =>
      let finish (content : Option String) (rest : List Char) : Statement × List Char :=
        match lineEnd? rest, name with
        | none, _ => (.unreadable, skipLine rest)
        | some after, some name => (.binding name content, after)
        | some after, none => (.nothing, after)
      match skipGap afterName with
      | '=' :: rest =>
        match content? (skipGap rest) with
        | some (content, after) => finish (some content) after
        | none => (.unreadable, skipLine (skipGap rest))
      | rest => finish none rest

/-- The statements of a file, each with the number of the line on which reading it began. -/
def statements : Nat → Nat → List Char → List (Nat × Statement)
  | 0, _, _ => []
  | _, _, [] => []
  | fuel + 1, line, letters =>
    let (found, rest) := statement letters
    let passed := (letters.take (letters.length - rest.length)).count '\n'
    (line, found) :: statements fuel (line + passed) rest

def read (text : String) : List (Nat × Statement) := statements text.length 1 text.toList

/-- A variable that a text asks for after a dollar sign and a brace: its name, the text for the case that
there is none, and what follows. -/
def request? (letters : List Char) : Option (String × String × List Char) :=
  let (name, after) := letters.span fun c => c != '\x7d' && c != ':'
  match after with
  | '\x7d' :: rest => some (String.ofList name, "", rest)
  | ':' :: '-' :: more =>
    match more.span (· != '\x7d') with
    | (default, _ :: rest) => some (String.ofList name, String.ofList default, rest)
    | (_, []) => none
  | _ => none

def filled (valueOf : String → Option String) : Nat → List Char → List Char
  | 0, letters => letters
  | _, [] => []
  | fuel + 1, '$' :: '\x7b' :: rest =>
    match request? rest with
    | some (name, default, after) => ((valueOf name).getD default).toList ++ filled valueOf fuel after
    | none => '$' :: filled valueOf fuel ('\x7b' :: rest)
  | fuel + 1, c :: rest => c :: filled valueOf fuel rest

/-- Add a variable to those of a file, or give it a new text in its old place. -/
def put (name : String) (content : Option String) :
    List (String × Option String) → List (String × Option String)
  | [] => [(name, content)]
  | (other, old) :: rest =>
    if other == name then (name, content) :: rest else (other, old) :: put name content rest

/-- The variables of a file among those of an environment, which count before them. -/
def entries (environment : List (String × String)) (text : String) : List (String × Option String) :=
  (read text).foldl
    (fun held (_, statement) =>
      match statement with
      | .binding name content =>
        let valueOf (name : String) : Option String :=
          (environment.lookup name).or ((held.lookup name).map (·.getD ""))
        put name (content.map fun text => String.ofList (filled valueOf text.length text.toList)) held
      | _ => held)
    []

inductive Fault where
  | nullLetter
  | equalsSign
deriving DecidableEq

def Fault.message : Fault → String
  | nullLetter => "embedded null byte"
  | equalsSign => "illegal environment variable name"

def checked (name content : String) : Except Fault (String × String) :=
  if name.toList.contains '\x00' || content.toList.contains '\x00' then .error .nullLetter
  else if name.toList.contains '=' then .error .equalsSign
  else .ok (name, content)

/-- An environment with the variables of a file that it does not hold itself. -/
def extend (environment : List (String × String)) (text : String) : Except Fault (List (String × String)) := do
  let missing := (entries environment text).filterMap fun (name, content) =>
    if (environment.lookup name).isSome then none else content.map (name, ·)
  return environment ++ (← missing.mapM fun (name, content) => checked name content)

def unreadableLines (text : String) : List Nat :=
  (read text).filterMap fun (line, statement) => if statement = .unreadable then some line else none

end BoxTree.VariableFile
