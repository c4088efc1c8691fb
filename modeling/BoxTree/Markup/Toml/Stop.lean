import BoxTree.Text.Integer
import BoxTree.Text.Position
import BoxTree.Text.Quoted

/-! Why a text is no TOML document, and where reading it stopped. -/

namespace BoxTree.Toml

abbrev Key := List String

def Key.shown : Key → String
  | [only] => "(" ++ Text.quoted only ++ ",)"
  | names => "(" ++ ", ".intercalate (names.map Text.quoted) ++ ")"

inductive Cause where
  | noStatement
  | noLineEnd
  | noEquals
  | noKey
  | noValue
  | noDate
  | openArray
  | openTable
  | openText
  | noQuotes (quotes : String)
  | noTableEnd
  | noTablesEnd
  | illegal (letter : Char)
  | invalid (letter : Char)
  | unknownEscape
  | noHexDigits
  | noScalarValue
  | repeated (name : String)
  | closed (key : Key)
  | declaredTwice (key : Key)
  | redefined (key : Key)
  | taken

namespace Cause

def text : Cause → String
  | noStatement => "Invalid statement"
  | noLineEnd => "Expected newline or end of document after a statement"
  | noEquals => "Expected '=' after a key in a key/value pair"
  | noKey => "Invalid initial character for a key part"
  | noValue => "Invalid value"
  | noDate => "Invalid date or datetime"
  | openArray => "Unclosed array"
  | openTable => "Unclosed inline table"
  | openText => "Unterminated string"
  | noQuotes quotes => "Expected " ++ Text.quoted quotes
  | noTableEnd => "Expected ']' at the end of a table declaration"
  | noTablesEnd => "Expected ']]' at the end of an array declaration"
  | illegal letter => "Illegal character " ++ Text.quoted (String.singleton letter)
  | invalid letter => "Found invalid character " ++ Text.quoted (String.singleton letter)
  | unknownEscape => "Unescaped '\\' in a string"
  | noHexDigits => "Invalid hex value"
  | noScalarValue => "Escaped character is not a Unicode scalar value"
  | repeated name => "Duplicate inline table key " ++ Text.quoted name
  | closed key => "Cannot mutate immutable namespace " ++ key.shown
  | declaredTwice key => "Cannot declare " ++ key.shown ++ " twice"
  | redefined key => "Cannot redefine namespace " ++ key.shown
  | taken => "Cannot overwrite a value"

end Cause

inductive Error where
  /-- A cause with its line and column, or at the end of the text. -/
  | misplaced (cause : Cause) (place : Option (Nat × Nat))
  | number (fault : Text.IntegerFault)

def Error.message : Error → String
  | misplaced cause none => s!"{cause.text} (at end of document)"
  | misplaced cause (some (line, column)) => s!"{cause.text} (at line {line}, column {column})"
  | number fault => fault.message 10 ""

inductive Stop where
  /-- A cause and the number of letters from it to the end. -/
  | misplaced (cause : Cause) (left : Nat)
  | number (fault : Text.IntegerFault)

def Stop.error (letters : List Char) : Stop → Error
  | misplaced cause 0 => .misplaced cause none
  | misplaced cause left =>
    .misplaced cause (some (Text.lineAndColumn (letters.take (letters.length - left))))
  | number fault => .number fault

abbrev Parsed (α : Type) := α × List Char

def stop {α : Type} (cause : Cause) (rest : List Char) : Except Stop α :=
  .error (.misplaced cause rest.length)

end BoxTree.Toml
