import PaymentChannel.Curve.Point
import PaymentChannel.Hex

/-! Secret keys, public keys and the byte strings that stand for them.
A public key is a point of the curve, held by its abscissa and the parity of its ordinate, which
is also how it is written; two keys are equal exactly when their written forms are.
-/

namespace PaymentChannel

open Curve

/-- A point of the curve other than the neutral one. -/
structure PublicKey where
  x : Coordinate
  /-- Whether the ordinate is odd. -/
  odd : Bool
  onCurve : HasPoint x odd
deriving DecidableEq

namespace PublicKey

@[ext] theorem ext {left right : PublicKey} (sameX : left.x = right.x)
    (sameParity : left.odd = right.odd)
    : left = right := by
  obtain ⟨x, odd, _⟩ := left
  obtain ⟨_, _, _⟩ := right
  cases sameX
  cases sameParity
  rfl

/-- The key with the given abscissa and parity, if the curve has a point there. -/
def ofAbscissa? (x : Coordinate) (odd : Bool) : Option PublicKey :=
  if found : HasPoint x odd then some ⟨x, odd, found⟩ else none

/-- The point that the key stands for. -/
def point (key : PublicKey) : Point :=
  .affine key.x ((ordinate? key.x key.odd).get key.onCurve)

/-- The written form: the parity of the ordinate, then the abscissa. -/
def toBytes (key : PublicKey) : Bytes 33 :=
  ⟨(if key.odd then 3 else 2) :: bigEndian 32 key.x.val, by simp⟩

/-- The coordinate spelled by 32 bytes, if it is reduced. -/
def coordinate? (bytes : List UInt8) : Option Coordinate :=
  Residue.ofNat? fieldPrime (ofBigEndian bytes)

/-- The key given by both coordinates, which have to satisfy the equation of the curve. -/
def ofCoordinates? (x y : Coordinate) : Option PublicKey :=
  if y * y = curveSide x then ofAbscissa? x (y.val % 2 == 1) else none

/-- Reads a key of 33 bytes, or of 65 bytes when both coordinates are given. A first byte of 6 or
7 gives the parity beside the ordinate, and has to be right.
-/
def ofBytes? : List UInt8 → Option PublicKey
  | [] => none
  | form :: rest =>
      if rest.length = 32 then
        if form = 2 ∨ form = 3 then do
          ofAbscissa? (← coordinate? rest) (form == 3)
        else none
      else if rest.length = 64 then
        if form = 4 ∨ form = 6 ∨ form = 7 then do
          let x ← coordinate? (rest.take 32)
          let y ← coordinate? (rest.drop 32)
          if form ≠ 4 ∧ (y.val % 2 == 1) ≠ (form == 7) then none else ofCoordinates? x y
        else none
      else none

/-- The written form as hexadecimal text. -/
def hex (key : PublicKey) : String := key.toBytes.hex

/-- Reads a key from the hexadecimal text of a written form. -/
def ofHex? (text : String) : Option PublicKey :=
  (Hex.decode text).toOption.bind ofBytes?

end PublicKey

/-- A multiplier of the base point other than zero. -/
structure SecretKey where
  scalar : Scalar
  ne_zero : scalar.val ≠ 0
deriving DecidableEq

namespace SecretKey

/-- The least secret key. -/
def one : SecretKey := ⟨⟨1, by decide⟩, by decide⟩

/-- The key spelled by 32 bytes, unless they spell zero or a number past the order. -/
def ofBytes? (bytes : Bytes 32) : Option SecretKey := do
  let scalar ← Residue.ofNat? order bytes.toNat
  if ne_zero : scalar.val ≠ 0 then some ⟨scalar, ne_zero⟩ else none

/-- The bytes that spell the key. -/
def toBytes (key : SecretKey) : Bytes 32 :=
  .ofNat 32 key.scalar.val

/-- The base point's own key, the public key of the least secret key. -/
def basePublicKey : PublicKey :=
  ⟨Point.base.x, false, by decide +kernel⟩

/-- The multiple of the base point by the key. A multiple that is not neutral lies on the curve,
so the base point is never taken in its place.
-/
def publicKey (key : SecretKey) : PublicKey :=
  match (baseMultiple key.scalar).coordinates? with
  | some (x, y) => (PublicKey.ofAbscissa? x (y.val % 2 == 1)).getD basePublicKey
  | none => basePublicKey

/-- The key as hexadecimal text. -/
def hex (key : SecretKey) : String := key.toBytes.hex

/-- Reads a key from hexadecimal text. -/
def ofHex? (text : String) : Option SecretKey :=
  (Bytes.ofHex? 32 text).bind ofBytes?

end SecretKey

end PaymentChannel
