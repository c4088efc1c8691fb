/-! Blank letters: the ASCII ones, the separators of records and units, and those above ASCII. -/

namespace BoxTree.Text

def isAsciiBlank (c : Char) : Bool :=
  c == ' ' || (0x09 ≤ c.toNat && c.toNat ≤ 0x0d)

/-- The blanks above ASCII: next line and the space, line and paragraph separators. -/
def isWideBlank (c : Char) : Bool :=
  [0x85, 0xa0, 0x1680, 0x2028, 0x2029, 0x202f, 0x205f, 0x3000].contains c.toNat
    || (0x2000 ≤ c.toNat && c.toNat ≤ 0x200a)

def isBlank (c : Char) : Bool := isAsciiBlank c || isWideBlank c

def isSeparator (c : Char) : Bool := 0x1c ≤ c.toNat && c.toNat ≤ 0x1f

def isSpacing (c : Char) : Bool := isBlank c || isSeparator c

def trimEnd (isDropped : Char → Bool) (letters : List Char) : List Char :=
  (letters.reverse.dropWhile isDropped).reverse

def trimBlanks (letters : List Char) : List Char := trimEnd isBlank (letters.dropWhile isBlank)

def trimmed (text : String) : String :=
  String.ofList (trimEnd isSpacing (text.toList.dropWhile isSpacing))

end BoxTree.Text
