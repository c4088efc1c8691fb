/-! The words of a command line: options with their values, and words that are no options. Options are
spelled `--name` or, with one letter, `-n`. Single letters may share a word, and a value may follow in the
word itself (`--name=value`, `-nvalue`) or be the next word. After `--` no word is an option. -/

namespace BoxTree.Command

/-- An option. Its first spelling stands for it. -/
structure Switch where
  spellings : List String
  takesValue : Bool := false

/-- Options in the order in which they were given, and the other words. -/
structure Words where
  given : List (String × Option String)
  plain : List String
deriving DecidableEq

namespace Switch

def name (switch : Switch) : String := switch.spellings.headD ""

def find? (switches : List Switch) (spelling : String) : Option Switch :=
  switches.find? fun switch => switch.spellings.contains spelling

end Switch

namespace Words

/-- An option with its value, which may be the next word, and the words that are left. -/
def valued? (switch : Switch) (value : Option String) (rest : List String) :
    Option ((String × Option String) × List String) :=
  match switch.takesValue, value, rest with
  | true, some value, rest => some ((switch.name, some value), rest)
  | true, none, value :: rest => some ((switch.name, some value), rest)
  | true, none, [] => none
  | false, none, rest => some ((switch.name, none), rest)
  | false, some _, _ => none

/-- A word of single letters: the letters after one that takes a value are its value. -/
def letters? (switches : List Switch) (rest : List String) :
    List Char → Option (List (String × Option String) × List String)
  | [] => some ([], rest)
  | c :: letters =>
    match Switch.find? switches (String.ofList ['-', c]) with
    | none => none
    | some switch =>
      if switch.takesValue then
        let value := if letters.isEmpty then none else some (String.ofList letters)
        (valued? switch value rest).map fun (given, rest) => ([given], rest)
      else do
        let (given, rest) ← letters? switches rest letters
        return ((switch.name, none) :: given, rest)

def spellingAndValue (word : String) : String × Option String :=
  match word.toList.span (· != '=') with
  | (spelling, _ :: value) => (String.ofList spelling, some (String.ofList value))
  | (_, []) => (word, none)

/-- Whether a spelling is more than a dash and a letter. -/
def isLong (spelling : String) : Bool := 2 < spelling.length

/-- The options in a word that begins with a dash, and the words that are left. -/
def options? (switches : List Switch) (word : String) (rest : List String) :
    Option (List (String × Option String) × List String) :=
  let (spelling, value) := spellingAndValue word
  match if isLong spelling then Switch.find? switches spelling else none with
  | some switch => (valued? switch value rest).map fun (given, rest) => ([given], rest)
  | none => if "--".toList.isPrefixOf word.toList then none else letters? switches rest (word.toList.drop 1)

def isOption (word : String) : Bool := "-".toList.isPrefixOf word.toList && 1 < word.length

/-- Read words. Unless options may follow other words, the first word that is no option ends them. -/
def readFrom? (switches : List Switch) (mixed : Bool) : Nat → List String → Option Words
  | 0, _ => none
  | _, [] => some ⟨[], []⟩
  | fuel + 1, word :: rest =>
    if word == "--" then some ⟨[], rest⟩
    else if isOption word then do
      let (given, rest) ← options? switches word rest
      let words ← readFrom? switches mixed fuel rest
      return { words with given := given ++ words.given }
    else if mixed then do
      let words ← readFrom? switches mixed fuel rest
      return { words with plain := word :: words.plain }
    else some ⟨[], word :: rest⟩

def read? (switches : List Switch) (mixed : Bool) (words : List String) : Option Words :=
  readFrom? switches mixed (words.length + 1) words

def has (words : Words) (name : String) : Bool := words.given.any (·.1 == name)

/-- The value of an option; of several the last counts. -/
def value? (words : Words) (name : String) : Option String :=
  (words.given.reverse.lookup name).join

def lastIs (words : Words) (name opposite : String) : Bool :=
  match words.given.reverse.find? fun given => given.1 == name || given.1 == opposite with
  | some given => given.1 == name
  | none => false

end Words
end BoxTree.Command
