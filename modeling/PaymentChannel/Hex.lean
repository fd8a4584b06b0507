import PaymentChannel.Bytes

/-! Hexadecimal text of byte strings.
Printing uses one letter case throughout; reading takes either case and names what it refuses.
-/

namespace PaymentChannel

/-- Why a text is not the hexadecimal form of a byte string. -/
inductive HexError
  | oddLength (length : Nat)
  | invalidCharacter (byte : UInt8)
  | wrongLength (length expected : Nat)
deriving DecidableEq

/-- What is told to the reader of a refused text. -/
def HexError.message : HexError → String
  | .oddLength length => s!"odd hex string length {length}"
  | .invalidCharacter byte => s!"invalid hex character {byte.toNat}"
  | .wrongLength length expected => s!"bad hex string length {length} (expected {expected})"

namespace Hex

/-- The letters of the digits above nine. -/
inductive Case
  | lower
  | upper
deriving DecidableEq

/-- The character of a digit below sixteen. -/
def digitChar (letters : Case) (digit : Nat) : Char :=
  if digit < 10 then Char.ofNat (48 + digit)
  else match letters with
    | .lower => Char.ofNat (87 + digit)
    | .upper => Char.ofNat (55 + digit)

/-- Two digits for each byte, the higher one first. -/
def encodeChars (letters : Case) (bytes : List UInt8) : List Char :=
  bytes.flatMap fun byte =>
    [digitChar letters (byte.toNat / 16), digitChar letters (byte.toNat % 16)]

/-- The hexadecimal text of some bytes. -/
def encode (bytes : List UInt8) (letters : Case := .lower) : String :=
  String.ofList (encodeChars letters bytes)

/-- The value of a digit given by its ASCII code, in either case. -/
def digit? (code : UInt8) : Option UInt8 :=
  if 48 ≤ code ∧ code ≤ 57 then some (code - 48)
  else if 97 ≤ code ∧ code ≤ 102 then some (code - 87)
  else if 65 ≤ code ∧ code ≤ 70 then some (code - 55)
  else none

/-- The bytes written by pairs of digits; the first code that is no digit is refused. -/
def decodePairs : List UInt8 → Except HexError (List UInt8)
  | high :: low :: rest =>
      match digit? high, digit? low with
      | some upper, some lower => (decodePairs rest).map ((upper * 16 + lower) :: ·)
      | none, _ => .error (.invalidCharacter high)
      | _, none => .error (.invalidCharacter low)
  | [single] => .error (.invalidCharacter single)
  | [] => .ok []

/-- The bytes written by a text, whose length in UTF-8 is looked at first. -/
def decode (text : String) : Except HexError (List UInt8) :=
  let codes := text.toUTF8.toList
  if codes.length % 2 = 1 then .error (.oddLength codes.length) else decodePairs codes

end Hex

namespace Bytes

/-- The lower-case hexadecimal text of a byte string. -/
def hex {n : Nat} (bytes : Bytes n) : String :=
  Hex.encode bytes.toList

/-- A short form for people: the first and the last four bytes. -/
def abbreviated {n : Nat} (bytes : Bytes n) (letters : Hex.Case := .lower) : String :=
  Hex.encode (bytes.toList.take 4) letters ++ ".."
    ++ Hex.encode (bytes.toList.drop (n - 4)) letters

/-- The string of `n` bytes that a text writes; digits are looked at before the length. -/
def ofHex (n : Nat) (text : String) : Except HexError (Bytes n) := do
  let bytes ← Hex.decode text
  match ofList? n bytes with
  | some bytes => pure bytes
  | none => throw (.wrongLength bytes.length n)

/-- The string of `n` bytes that a text writes, if it writes one. -/
def ofHex? (n : Nat) (text : String) : Option (Bytes n) :=
  (ofHex n text).toOption

end Bytes

end PaymentChannel
