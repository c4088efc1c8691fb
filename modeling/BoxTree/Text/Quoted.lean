import BoxTree.Text.PrintableTable
import BoxTree.Text.Wording

/-! Quoted text as messages and log lines show it: single quotes unless the text holds a single quote
and no double one, and escapes for the quote, the backslash and whatever has no printed form. -/

namespace BoxTree

namespace Text

def isPrintable (c : Char) : Bool :=
  if c.toNat < 0x7f then 0x20 ≤ c.toNat
  else !unprintableRanges.any fun (first, last) => first ≤ c.toNat && c.toNat ≤ last

def quoteFor (letters : List Char) : Char :=
  if letters.contains '\'' && !letters.contains '"' then '"' else '\''

/-- Escapes that do not depend on which letters are printable. -/
def escapePlain? (quote c : Char) : Option (List Char) :=
  if c == quote || c == '\\' then some ['\\', c]
  else if c == '\n' then some ['\\', 'n']
  else if c == '\r' then some ['\\', 'r']
  else if c == '\t' then some ['\\', 't']
  else none

def escapeCode (c : Char) : List Char :=
  let code := c.toNat
  if code < 0x100 then ['\\', 'x'] ++ hexDigits 2 code
  else if code < 0x10000 then ['\\', 'u'] ++ hexDigits 4 code
  else ['\\', 'U'] ++ hexDigits 8 code

def escapeLetter (quote c : Char) : List Char :=
  match escapePlain? quote c with
  | some escaped => escaped
  | none => if isPrintable c then [c] else escapeCode c

def quoted (text : String) : String :=
  let quote := quoteFor text.toList
  String.ofList (quote :: text.toList.flatMap (escapeLetter quote) ++ [quote])

def asciiShown (shown : String) : String :=
  String.ofList (shown.toList.flatMap fun c => if c.toNat < 0x7f then [c] else escapeCode c)

/-- A byte string, marked by a leading `b`. -/
def quotedBytes (bytes : List UInt8) : String :=
  let letters := bytes.map fun byte => Char.ofNat byte.toNat
  let quote := quoteFor letters
  let escape (c : Char) : List Char :=
    match escapePlain? quote c with
    | some escaped => escaped
    | none => if 0x20 ≤ c.toNat && c.toNat < 0x7f then [c] else ['\\', 'x'] ++ hexDigits 2 c.toNat
  String.ofList ('b' :: quote :: letters.flatMap escape ++ [quote])

end Text

def Wording.quoted : Wording → String
  | whole content => Text.quoted content
  | broken content =>
    let quote := Text.quoteFor (content.letters.map Letter.standIn)
    let escape (letter : Letter) : List Char := (letter.char?.map (Text.escapeLetter quote)).getD letter.displayed
    String.ofList (quote :: content.letters.flatMap escape ++ [quote])

end BoxTree
