import PaymentChannel.Curve.Point
import PaymentChannel.Hex

/-! Signatures as pairs of scalars and their two written forms.
The compact form has a fixed length. The distinguished form, which transactions carry, writes each
scalar as a signed integer of the least length.
-/

namespace PaymentChannel

open Curve

/-- A signature: the abscissa of the nonce point and the scalar that answers for the message. -/
structure Signature where
  r : Scalar
  s : Scalar
deriving DecidableEq

namespace Signature

/-- The bytes of `r`. -/
def rBytes (signature : Signature) : Bytes 32 := .ofNat 32 signature.r.val

/-- The bytes of `s`. -/
def sBytes (signature : Signature) : Bytes 32 := .ofNat 32 signature.s.val

/-- The signature with the given scalars, unless one is not below the order. -/
def ofCompact? (r s : Bytes 32) : Option Signature := do
  return ⟨← Residue.ofNat? order r.toNat, ← Residue.ofNat? order s.toNat⟩

/-- The bytes after the leading zeros. -/
def trimZeros (bytes : List UInt8) : List UInt8 :=
  bytes.dropWhile (· == 0)

/-- The least bytes that read as a number without becoming negative: a zero stands in front of a
high first bit, and zero itself is one byte.
-/
def integerBytes (bytes : List UInt8) : List UInt8 :=
  match trimZeros bytes with
  | [] => [0]
  | first :: rest => if first < 0x80 then first :: rest else 0 :: first :: rest

/-- A tag, the length of the content and the content, which is short. -/
def element (tag : UInt8) (content : List UInt8) : List UInt8 :=
  tag :: UInt8.ofNat content.length :: content

/-- The distinguished form of the signature. -/
def toDer (signature : Signature) : List UInt8 :=
  element 0x30 (element 2 (integerBytes signature.rBytes.toList)
    ++ element 2 (integerBytes signature.sBytes.toList))

/-- The longest distinguished form of a signature, in bytes. -/
def maxDerLength : Nat := 72

/-- Splits an element with the given tag and a short length off the front of some bytes. -/
def splitElement? (tag : UInt8) : List UInt8 → Option (List UInt8 × List UInt8)
  | first :: length :: rest =>
      if first = tag ∧ length < 0x80 ∧ length.toNat ≤ rest.length then
        some (rest.take length.toNat, rest.drop length.toNat)
      else none
  | _ => none

/-- Whether an integer is written with no more bytes than it needs. -/
def isShortest : List UInt8 → Bool
  | [] => false
  | [_] => true
  | first :: second :: _ =>
      !(first == 0 && second < 0x80) && !(first == 0xff && second ≥ 0x80)

/-- The scalar that an integer of the least length stands for; zero stands in for an integer that
is negative or not below the order.
-/
def scalarOfInteger? (bytes : List UInt8) : Option Scalar :=
  if isShortest bytes then
    if bytes.headD 0 < 0x80 then
      some ((Residue.ofNat? order (ofBigEndian bytes)).getD 0)
    else some 0
  else none

/-- Reads the distinguished form of a signature, with nothing after it or inside it left over. -/
def ofDer? (bytes : List UInt8) : Option Signature := do
  let (content, after) ← splitElement? 0x30 bytes
  let (rPart, rest) ← splitElement? 2 content
  let (sPart, leftover) ← splitElement? 2 rest
  let r ← scalarOfInteger? rPart
  let s ← scalarOfInteger? sPart
  if after = [] ∧ leftover = [] then some ⟨r, s⟩ else none

/-- The distinguished form as hexadecimal text. -/
def hex (signature : Signature) : String := Hex.encode signature.toDer

/-- Reads a signature from hexadecimal text, which is not longer than a signature can need. -/
def ofHex? (text : String) : Option Signature := do
  let bytes ← (Hex.decode text).toOption
  if bytes.length ≤ maxDerLength then ofDer? bytes else none

end Signature

end PaymentChannel
