/-! Places in a text, as messages give them. -/

namespace BoxTree.Text

/-- The line and the column, from one, of the letter after `before`. -/
def lineAndColumn (before : List Char) : Nat × Nat :=
  (before.count '\n' + 1, (before.reverse.takeWhile (· != '\n')).length + 1)

/-- A text read from a file: a carriage return, alone or before a line feed, ends a line. -/
def unixLines : List Char → List Char
  | [] => []
  | '\r' :: '\n' :: rest => '\n' :: unixLines rest
  | '\r' :: rest => '\n' :: unixLines rest
  | c :: rest => c :: unixLines rest

end BoxTree.Text
