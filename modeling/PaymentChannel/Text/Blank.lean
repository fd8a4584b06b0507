/-! Blank characters and texts that say nothing. -/

namespace PaymentChannel

/-- Whether Unicode counts a character as white space. -/
def isBlank (char : Char) : Bool :=
  let code := char.toNat
  (0x09 ≤ code && code ≤ 0x0d) || code == 0x20 || code == 0x85 || code == 0xa0 || code == 0x1680
    || (0x2000 ≤ code && code ≤ 0x200a) || code == 0x2028 || code == 0x2029 || code == 0x202f
    || code == 0x205f || code == 0x3000

/-- Whether a text has a character that is not blank. -/
def hasContent (text : String) : Bool :=
  text.toList.any (!isBlank ·)

end PaymentChannel
