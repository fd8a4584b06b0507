import PaymentChannel.Bytes
import PaymentChannel.Curve.Residue

/-! The group of the curve y² = x³ + 7 over a prime field, on which keys and signatures live.
Sums are computed in coordinates with a common denominator, so that a multiple of a point costs
no division.
-/

namespace PaymentChannel

namespace Curve

/-- The number of elements of the field of coordinates. -/
def fieldPrime : Nat := 0xfffffffffffffffffffffffffffffffffffffffffffffffffffffffefffffc2f

/-- The number of points of the curve. -/
def order : Nat := 0xfffffffffffffffffffffffffffffffebaaedce6af48a03bbfd25e8cd0364141

instance : Modulus fieldPrime := ⟨by decide⟩
instance : Modulus order := ⟨by decide⟩

/-- A coordinate of a point. -/
abbrev Coordinate := Residue fieldPrime

/-- A multiplier of points. -/
abbrev Scalar := Residue order

/-- A point with coordinates x / z² and y / z³, or the neutral point when z is zero. -/
structure Point where
  x : Coordinate
  y : Coordinate
  z : Coordinate

/-- A point of the plane. -/
def Point.affine (x y : Coordinate) : Point := ⟨x, y, 1⟩

/-- The neutral point of the group. -/
def Point.neutral : Point := ⟨1, 1, 0⟩

/-- The point of which every public key is a multiple. -/
def Point.base : Point :=
  .affine
    (.ofNat 0x79be667ef9dcbbac55a06295ce870b07029bfcdb2dce28d959f2815b16f81798)
    (.ofNat 0x483ada7726a3c4655da4fbfc0e1108a8fd17b448a68554199c47d08ffb10d4b8)

/-- Twice a point. A number is reduced only before it becomes a factor, and what is subtracted is
taken from a multiple of the prime.
-/
def Point.double (point : Point) : Point :=
  let p := fieldPrime
  let x := point.x.val
  let y := point.y.val
  let slope := 3 * (x * x % p)
  let square := y * y % p
  let middle := 4 * (x * square) % p
  let newX : Coordinate := .ofNat (slope * slope + 2 * (p - middle))
  ⟨newX, .ofNat (slope * (middle + (p - newX.val)) + 8 * (p * p - square * square)),
    .ofNat (2 * (y * point.z.val))⟩

/-- The sum of two points. -/
def Point.add (left right : Point) : Point :=
  if left.z.val = 0 then right
  else if right.z.val = 0 then left
  else
    let p := fieldPrime
    let leftZ := left.z.val
    let rightZ := right.z.val
    let leftSquare := leftZ * leftZ % p
    let rightSquare := rightZ * rightZ % p
    let u := left.x.val * rightSquare % p
    let s := left.y.val * (rightSquare * rightZ % p) % p
    let h := (right.x.val * leftSquare + (p - u)) % p
    let r := (right.y.val * (leftSquare * leftZ % p) + (p - s)) % p
    if h = 0 then
      if r = 0 then left.double else .neutral
    else
      let h2 := h * h % p
      let h3 := h * h2 % p
      let v := u * h2 % p
      let x : Coordinate := .ofNat (r * r + (p - h3) + 2 * (p - v))
      ⟨x, .ofNat (r * (v + (p - x.val)) + s * (p - h3)), .ofNat (h * (leftZ * rightZ % p))⟩

-----------------------------------------------------------------------------------------
-- Multiples
-----------------------------------------------------------------------------------------

/-- The multiples of a point by the numbers of so many bits, in increasing order. A number is twice
its upper part with its lowest bit, so each multiple takes few sums.
-/
def Point.multiples : (bits : Nat) → Point → List Point
  | 0, _ => [.neutral]
  | bits + 1, point => (multiples bits point.double).flatMap fun even => [even, even.add point]

/-- The multiple of a point by the low `count` hexadecimal digits of a number, from its multiples
by one digit.
-/
def Point.multipleBy (digits : List Point) : (count factor : Nat) → Point
  | 0, _ => .neutral
  | count + 1, factor =>
      (multipleBy digits count (factor / 16)).double.double.double.double.add
        (digits.getD (factor % 16) .neutral)

/-- The multiple of a point by a scalar. -/
def Point.smul (point : Point) (scalar : Scalar) : Point :=
  multipleBy (point.multiples 4) 64 scalar.val

/-- The multiples by one hexadecimal digit of a point, of its sixteenfold, and so on. -/
def Point.places : (count : Nat) → Point → List (Array Point)
  | 0, _ => []
  | count + 1, point =>
      .mk (point.multiples 4) :: places count point.double.double.double.double

/-- The sum of the multiples that the hexadecimal digits of a number choose, one at each place. -/
def Point.choose : List (Array Point) → (factor : Nat) → Point
  | [], _ => .neutral
  | place :: places, factor =>
      (choose places (factor / 16)).add (place.getD (factor % 16) .neutral)

/-- The multiples of the base point by one digit, at each place of a scalar from the lowest on. -/
def basePlaces : List (Array Point) := Point.places 64 .base

/-- The multiple of the base point by a scalar. -/
def baseMultiple (scalar : Scalar) : Point := Point.choose basePlaces scalar.val

-----------------------------------------------------------------------------------------
-- Points in the plane
-----------------------------------------------------------------------------------------

/-- The coordinates of a point in the plane, which the neutral point does not have. -/
def Point.coordinates? (point : Point) : Option (Coordinate × Coordinate) :=
  if point.z = 0 then none
  else
    let w := point.z.inverse
    let w2 := w * w
    some (point.x * w2, point.y * (w2 * w))

/-- The right side of the equation of the curve. -/
def curveSide (x : Coordinate) : Coordinate :=
  x * x * x + .ofNat 7

/-- The ordinate of the given parity at an abscissa, if the curve has a point there. The field
has a prime of the form 4k + 3 as its size, so the power is a root whenever there is one.
-/
def ordinate? (x : Coordinate) (odd : Bool) : Option Coordinate :=
  let root := (curveSide x).power ((fieldPrime + 1) / 4)
  if root * root = curveSide x then
    some (if (root.val % 2 == 1) = odd then root else -root)
  else none

/-- The curve has a point with this abscissa and an ordinate of this parity. -/
def HasPoint (x : Coordinate) (odd : Bool) : Prop :=
  (ordinate? x odd).isSome = true

instance (x : Coordinate) (odd : Bool) : Decidable (HasPoint x odd) :=
  inferInstanceAs (Decidable (_ = true))

end Curve

end PaymentChannel
