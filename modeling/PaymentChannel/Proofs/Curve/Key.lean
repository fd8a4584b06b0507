import Mathlib.FieldTheory.Finite.Basic
import PaymentChannel.Curve.Key
import PaymentChannel.Proofs.Curve.Group

/-! A public key stands for its secret key's multiple of the base point.
The coordinates of a point are those of what it stands for, and a key keeps only the parity of its
ordinate, from which the root of the curve's right side gives the ordinate back.
-/

namespace PaymentChannel

namespace Curve

open Residue

/-- The abscissa of an element of the group, unless it is neutral. -/
def abscissa? : Group → Option (ZMod fieldPrime)
  | .zero => none
  | .some x _ _ => some x

theorem abscissa?_neg (element : Group) : abscissa? (-element) = abscissa? element := by
  cases element <;> rfl

theorem Point.Stands.coordinates?_some {point : Point} {x y : ZMod fieldPrime}
    {smooth : equation.Nonsingular x y} (stands : point.Stands (.some x y smooth))
    : ∃ newX newY, point.coordinates? = some (newX, newY) ∧ newX.toZMod = x ∧ newY.toZMod = y := by
  obtain ⟨z_ne, hx, hy⟩ := stands
  have nonzero : point.z ≠ 0 := fun eq => z_ne (toZMod_eq_zero.mpr eq)
  have below : fieldPrime ≤ 2 ^ 256 := by decide
  refine ⟨_, _, by rw [Point.coordinates?, if_neg nonzero], ?_, ?_⟩
  · rw [toZMod_mul, toZMod_mul, toZMod_inverse below, hx]
    field_simp
  · rw [toZMod_mul, toZMod_mul, toZMod_mul, toZMod_inverse below, hy]
    field_simp

theorem Point.Stands.abscissa? {point : Point} {element : Group} (stands : point.Stands element)
    : point.coordinates?.map (fun coordinates => coordinates.1.toZMod)
        = Curve.abscissa? element := by
  cases element with
  | zero =>
      have vanishes : point.z = 0 := toZMod_eq_zero.mp stands
      rw [Point.coordinates?, if_pos vanishes]
      rfl
  | some x y smooth =>
      obtain ⟨newX, newY, found, hx, _⟩ := stands.coordinates?_some
      rw [found, Option.map_some, hx]
      rfl

-----------------------------------------------------------------------------------------
-- Square roots
-----------------------------------------------------------------------------------------

/-- Negation changes the parity of a coordinate other than zero, as the prime is odd. -/
theorem neg_parity {y : Coordinate} (nonzero : y.val ≠ 0) : (-y).val % 2 ≠ y.val % 2 := by
  have odd : fieldPrime % 2 = 1 := by decide
  have below := y.val_lt
  have negated := val_neg nonzero
  omega

/-- The root of a square is found by its parity. -/
theorem ordinate?_eq_some {x y : Coordinate} (onCurve : y * y = curveSide x)
    : ordinate? x (y.val % 2 == 1) = some y := by
  have square : (curveSide x).toZMod = y.toZMod ^ 2 := by rw [← onCurve, toZMod_mul, pow_two]
  have quarter : 2 * ((fieldPrime + 1) / 4) * 2 = fieldPrime + 1 := by decide
  have below : (fieldPrime + 1) / 4 < 2 ^ 256 := by decide
  have power := toZMod_power (curveSide x) below
  have root : (curveSide x).power ((fieldPrime + 1) / 4)
      * (curveSide x).power ((fieldPrime + 1) / 4) = curveSide x := by
    rw [← toZMod_inj, toZMod_mul, power, square, ← pow_mul, ← pow_two, ← pow_mul, quarter,
      pow_succ, ZMod.pow_card, pow_two]
  unfold ordinate?
  generalize (curveSide x).power ((fieldPrime + 1) / 4) = found at root
  simp only [if_pos root]
  have both : found = y ∨ found = -y := by
    rw [← onCurve, ← toZMod_inj, toZMod_mul, toZMod_mul, mul_self_eq_mul_self_iff] at root
    rwa [← toZMod_neg, toZMod_inj, toZMod_inj] at root
  obtain rfl | rfl := both
  · rw [if_pos rfl]
  · by_cases zero : y.val = 0
    · have fixed : -y = y := by
        rw [eq_zero_iff.mpr zero, ← toZMod_inj, toZMod_neg, toZMod_zero, neg_zero]
      rw [fixed, if_pos rfl]
    · have parity := neg_parity zero
      have opposite : ¬ ((-y).val % 2 == 1) = (y.val % 2 == 1) := by
        rw [Bool.eq_iff_iff, beq_iff_eq, beq_iff_eq]
        omega
      rw [if_neg opposite]
      exact congrArg some (toZMod_inj.mp (by rw [toZMod_neg, toZMod_neg, neg_neg]))

/-- The curve has no point with the ordinate zero: -7 has no cube root, as its power by a third of the
order of the multiplicative group is not one.
-/
theorem curveSide_ne_zero (x : Coordinate) : curveSide x ≠ 0 := by
  intro vanishes
  have third : (fieldPrime - 1) / 3 < 2 ^ 256 := by decide
  have thrice : 3 * ((fieldPrime - 1) / 3) = fieldPrime - 1 := by decide
  have cube : x.toZMod ^ 3 = (.ofNat (fieldPrime - 7) : Coordinate).toZMod := by
    have side := congrArg Residue.toZMod vanishes
    simp only [curveSide, toZMod_add, toZMod_mul, toZMod_ofNat, toZMod_zero] at side
    rw [toZMod_ofNat, Nat.cast_sub (by decide), ZMod.natCast_self]
    linear_combination side
  have nonzero : x.toZMod ≠ 0 := by
    intro zero
    rw [zero, zero_pow three_ne_zero, toZMod_ofNat] at cube
    exact natCast_ne_zero (fieldPrime - 7) (by decide) cube.symm
  have one : (.ofNat (fieldPrime - 7) : Coordinate).power ((fieldPrime - 1) / 3) = 1 := by
    rw [← toZMod_inj, toZMod_power _ third, ← cube, ← pow_mul, thrice, toZMod_one]
    exact ZMod.pow_card_sub_one_eq_one nonzero
  exact absurd one (by decide +kernel)

/-- The curve has a point wherever the equation has a solution of the given parity. -/
theorem hasPoint_iff {x : Coordinate} {odd : Bool}
    : HasPoint x odd ↔ ∃ y, y * y = curveSide x ∧ (y.val % 2 == 1) = odd := by
  constructor
  · intro has
    unfold HasPoint ordinate? at has
    generalize (curveSide x).power ((fieldPrime + 1) / 4) = root at has
    have square : root * root = curveSide x := by
      by_contra none
      simp [none] at has
    by_cases same : (root.val % 2 == 1) = odd
    · exact ⟨root, square, same⟩
    have nonzero : root.val ≠ 0 := by
      intro zero
      rw [eq_zero_iff.mpr zero] at square
      exact curveSide_ne_zero x (square.symm.trans (by decide +kernel))
    refine ⟨-root, ?_, ?_⟩
    · rw [← square, ← toZMod_inj, toZMod_mul, toZMod_mul, toZMod_neg, neg_mul_neg]
    · have parity := neg_parity nonzero
      cases odd with
      | false =>
          simp only [beq_eq_false_iff_ne] at same ⊢
          omega
      | true =>
          simp only [beq_iff_eq] at same ⊢
          omega
  · rintro ⟨y, onCurve, rfl⟩
    rw [HasPoint, ordinate?_eq_some onCurve, Option.isSome_some]

end Curve

-----------------------------------------------------------------------------------------
-- Public keys
-----------------------------------------------------------------------------------------

open Curve Residue

theorem PublicKey.ofAbscissa?_eq_some {x y : Coordinate} (onCurve : y * y = curveSide x)
    : ∃ key, ofAbscissa? x (y.val % 2 == 1) = some key ∧ key.point = .affine x y := by
  have found := ordinate?_eq_some onCurve
  have has : HasPoint x (y.val % 2 == 1) := by rw [HasPoint, found, Option.isSome_some]
  refine ⟨⟨x, _, has⟩, by rw [ofAbscissa?, dif_pos has], ?_⟩
  simp only [point, found, Option.get_some]

/-- The multiple of the base point by a scalar other than zero is not neutral. -/
theorem Curve.nsmul_generator_ne_zero {scalar : Scalar} (nonzero : scalar.val ≠ 0)
    : scalar.val • generator ≠ 0 := by
  rw [ne_eq, ← addOrderOf_dvd_iff_nsmul_eq_zero, addOrderOf_generator]
  intro divides
  exact nonzero (Nat.eq_zero_of_dvd_of_lt divides scalar.val_lt)

/-- The point of a public key is the secret key's multiple of the base point. -/
theorem SecretKey.publicKey_stands (key : SecretKey)
    : key.publicKey.point.Stands (key.scalar.val • generator) := by
  have stands := stands_baseMultiple key.scalar
  have proper := nsmul_generator_ne_zero key.ne_zero
  generalize key.scalar.val • generator = element at stands proper
  cases element with
  | zero => exact absurd rfl proper
  | some x y smooth =>
      obtain ⟨newX, newY, found, rfl, rfl⟩ := stands.coordinates?_some
      have onCurve : newY * newY = curveSide newX := by
        have equation := equation_iff.mp smooth.1
        rw [← toZMod_inj, curveSide, toZMod_mul, toZMod_add, toZMod_mul, toZMod_mul,
          toZMod_ofNat]
        linear_combination equation
      obtain ⟨written, read, eq⟩ := PublicKey.ofAbscissa?_eq_some onCurve
      have key_eq : key.publicKey = written := by
        unfold publicKey
        rw [found]
        change (PublicKey.ofAbscissa? newX _).getD basePublicKey = written
        rw [read, Option.getD_some]
      obtain ⟨_, affine⟩ := Point.stands_affine onCurve
      rw [key_eq, eq]
      exact affine

end PaymentChannel
