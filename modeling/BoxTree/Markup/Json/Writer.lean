import BoxTree.Text.Units
import BoxTree.Value.Show

/-! JSON text of a value on one line, in ASCII letters only. Values with no form of their own are
written as texts. -/

namespace BoxTree.Json

def asciiEscape (c : Char) : List Char :=
  if c == '"' then ['\\', '"']
  else if c == '\\' then ['\\', '\\']
  else if c == '\n' then ['\\', 'n']
  else if c == '\r' then ['\\', 'r']
  else if c == '\t' then ['\\', 't']
  else if c == '\x0c' then ['\\', 'f']
  else if c == '\x08' then ['\\', 'b']
  else if 0x20 ≤ c.toNat && c.toNat < 0x7f then [c]
  else (Text.charUnits c).flatMap fun unit => ['\\', 'u'] ++ Text.hexDigits 4 unit

def writeText (content : Wording) : String :=
  let escape (letter : Letter) : List Char := (letter.char?.map asciiEscape).getD letter.displayed
  "\"" ++ String.ofList (content.letters.flatMap escape) ++ "\""

def writeDouble (number : Double) : String :=
  if number.isNaN then "NaN"
  else if number.isFinite then number.text
  else if number.isNegative then "-Infinity" else "Infinity"

def memberName : Value → Wording
  | .null => "null"
  | .bool truth => if truth then "true" else "false"
  | .double number => writeDouble number
  | key => key.plain

mutual
def write : Value → String
  | .null => "null"
  | .bool truth => if truth then "true" else "false"
  | .int number => toString number
  | .double number => writeDouble number
  | .text content => writeText content
  | .list items => "[" ++ ", ".intercalate (writeItems items) ++ "]"
  | .tuple items => "[" ++ ", ".intercalate (writeItems items) ++ "]"
  | .map entries => "\x7b" ++ ", ".intercalate (writeMembers entries) ++ "\x7d"
  | value => writeText value.shown

def writeItems : List Value → List String
  | [] => []
  | item :: rest => write item :: writeItems rest

def writeMembers : List (Value × Value) → List String
  | [] => []
  | (key, value) :: rest => (writeText (memberName key) ++ ": " ++ write value) :: writeMembers rest
end

end BoxTree.Json
