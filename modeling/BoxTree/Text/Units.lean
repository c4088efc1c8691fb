/-! Text as UTF-16 code units. Keys of canonical objects are ordered by these units, so letters above
the basic plane come before the private-use area. -/

namespace BoxTree.Text

def charUnits (c : Char) : List Nat :=
  let code := c.toNat
  if code < 0x10000 then [code]
  else [0xd800 + (code - 0x10000) / 0x400, 0xdc00 + (code - 0x10000) % 0x400]

def units (text : String) : List Nat :=
  text.toList.flatMap charUnits

/-- The order of texts by their units, a shorter text before its extensions. -/
def unitsLe (left right : String) : Bool :=
  !(units right).lex (units left)

end BoxTree.Text
