/-! Bytes written in base sixty-four. Letters that are no digits are passed over. -/

namespace BoxTree.Text

def base64Digit? (c : Char) : Option Nat :=
  let code := c.toNat
  if 0x41 ≤ code && code ≤ 0x5a then some (code - 0x41)
  else if 0x61 ≤ code && code ≤ 0x7a then some (code - 0x61 + 26)
  else if 0x30 ≤ code && code ≤ 0x39 then some (code - 0x30 + 52)
  else if c == '+' then some 62
  else if c == '/' then some 63
  else none

/-- Read digits in groups of four. `count` digits of the present group came before, `left` holds their
unused bits, and `pads` padding marks came right before. A group may be cut short by padding only. -/
def base64From (count left pads : Nat) : List Char → Option (List UInt8)
  | [] => if count = 0 then some [] else none
  | '=' :: rest =>
    if 2 ≤ count && 4 ≤ count + pads + 1 then some []
    else base64From count left (if 2 ≤ count then pads + 1 else pads) rest
  | c :: rest =>
    match base64Digit? c with
    | none => base64From count left pads rest
    | some digit =>
      let byte (value : Nat) (more : Option (List UInt8)) := more.map (UInt8.ofNat value :: ·)
      match count with
      | 0 => base64From 1 digit 0 rest
      | 1 => byte (left * 4 + digit / 16) (base64From 2 (digit % 16) 0 rest)
      | 2 => byte (left * 16 + digit / 4) (base64From 3 (digit % 4) 0 rest)
      | _ => byte (left * 64 + digit) (base64From 0 0 0 rest)

def base64? (letters : List Char) : Option (List UInt8) := base64From 0 0 0 letters

end BoxTree.Text
