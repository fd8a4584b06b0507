import Mathlib.AlgebraicGeometry.EllipticCurve.Affine.Point
import Mathlib.Tactic.LinearCombination
import PaymentChannel.Proofs.Curve.Primes

/-! Points compute in the group of the curve over the field of coordinates.
The coordinates of a point have a common denominator, so a point stands for an element of the
group, and the formulas for sums are those of the chord and the tangent without their divisions.
-/

namespace PaymentChannel

namespace Curve

open Residue

/-- The curve y² = x³ + 7 over the field of coordinates. -/
def equation : WeierstrassCurve.Affine (ZMod fieldPrime) := ⟨0, 0, 0, 0, 7⟩

/-- The group of the curve. -/
abbrev Group := equation.Point

theorem equation_iff {x y : ZMod fieldPrime} : equation.Equation x y ↔ y ^ 2 = x ^ 3 + 7 := by
  rw [WeierstrassCurve.Affine.equation_iff]
  simp only [equation, zero_mul, add_zero]

/-- A natural number that the prime does not divide is not zero in the field. -/
theorem natCast_ne_zero (value : Nat) (ne : value % fieldPrime ≠ 0)
    : (value : ZMod fieldPrime) ≠ 0 := by
  rw [ne_eq, ZMod.natCast_eq_zero_iff, Nat.dvd_iff_mod_eq_zero]
  exact ne

theorem two_ne_zero : (2 : ZMod fieldPrime) ≠ 0 := natCast_ne_zero 2 (by decide)

/-- Every point of the curve is smooth. -/
theorem nonsingular_of_equation {x y : ZMod fieldPrime} (onCurve : y ^ 2 = x ^ 3 + 7)
    : equation.Nonsingular x y := by
  rw [WeierstrassCurve.Affine.nonsingular_iff', equation_iff]
  refine ⟨onCurve, ?_⟩
  simp only [equation, zero_mul, mul_zero, add_zero, zero_sub]
  by_cases ordinate : y = 0
  · refine .inl fun tangent => natCast_ne_zero 7 (by decide) ?_
    have three : (3 : ZMod fieldPrime) ≠ 0 := natCast_ne_zero 3 (by decide)
    have abscissa : x = 0 := by simpa [three] using tangent
    rw [ordinate, abscissa] at onCurve
    linear_combination -onCurve
  · exact .inr (mul_ne_zero two_ne_zero ordinate)

-----------------------------------------------------------------------------------------
-- What the coordinates stand for
-----------------------------------------------------------------------------------------

/-- The coordinates stand for an element of the group. -/
def Point.Stands (point : Point) : Group → Prop
  | .zero => point.z.toZMod = 0
  | .some x y _ =>
      point.z.toZMod ≠ 0 ∧ point.x.toZMod = x * point.z.toZMod ^ 2
        ∧ point.y.toZMod = y * point.z.toZMod ^ 3

theorem Point.stands_some_iff {point : Point} {x y : ZMod fieldPrime}
    {smooth : equation.Nonsingular x y}
    : point.Stands (.some x y smooth)
        ↔ point.z.toZMod ≠ 0 ∧ point.x.toZMod = x * point.z.toZMod ^ 2
            ∧ point.y.toZMod = y * point.z.toZMod ^ 3 := Iff.rfl

theorem Point.Stands.eq_zero {point : Point} {element : Group} (stands : point.Stands element)
    (vanishes : point.z = 0)
    : element = 0 := by
  cases element with
  | zero => rfl
  | some x y smooth => exact absurd (toZMod_eq_zero.mpr vanishes) stands.1

theorem Point.stands_neutral : Point.neutral.Stands 0 :=
  toZMod_zero

theorem Point.stands_affine {x y : Coordinate} (onCurve : y * y = curveSide x)
    : ∃ smooth, (Point.affine x y).Stands (.some x.toZMod y.toZMod smooth) := by
  refine ⟨nonsingular_of_equation ?_, ?_⟩
  · have sides := congrArg toZMod onCurve
    simp only [curveSide, toZMod_mul, toZMod_add, toZMod_ofNat] at sides
    linear_combination sides
  · simp only [Stands, affine, toZMod_one, one_pow, mul_one, ne_eq, one_ne_zero,
      not_false_eq_true, and_self]

/-- What is subtracted from a multiple of the prime counts with its opposite sign. -/
theorem natCast_sub_left {total part : Nat} (divides : fieldPrime ∣ total) (within : part ≤ total)
    : ((total - part : Nat) : ZMod fieldPrime) = -part := by
  rw [Nat.cast_sub within, (ZMod.natCast_eq_zero_iff _ _).mpr divides, zero_sub]

-----------------------------------------------------------------------------------------
-- The tangent
-----------------------------------------------------------------------------------------

theorem Point.double_x (point : Point)
    : point.double.x.toZMod
        = 9 * point.x.toZMod ^ 4 - 8 * point.x.toZMod * point.y.toZMod ^ 2 := by
  have middle := Nat.mod_lt (4 * (point.x.val * (point.y.val * point.y.val % fieldPrime)))
    (Modulus.pos : 0 < fieldPrime)
  simp only [double, toZMod_ofNat, Nat.cast_add, Nat.cast_mul,
    natCast_sub_left (dvd_refl _) middle.le, ZMod.natCast_mod, Nat.cast_ofNat, natCast_val]
  ring

theorem Point.double_y (point : Point)
    : point.double.y.toZMod
        = 3 * point.x.toZMod ^ 2 * (4 * point.x.toZMod * point.y.toZMod ^ 2
            - point.double.x.toZMod) - 8 * point.y.toZMod ^ 4 := by
  have square := Nat.mod_lt (point.y.val * point.y.val) (Modulus.pos : 0 < fieldPrime)
  have product : point.y.val * point.y.val % fieldPrime * (point.y.val * point.y.val % fieldPrime)
      ≤ fieldPrime * fieldPrime := Nat.mul_le_mul square.le square.le
  simp only [double, toZMod_ofNat, Nat.cast_add, Nat.cast_mul,
    natCast_sub_left (dvd_refl _) (val_lt _).le, natCast_sub_left (dvd_mul_right _ _) product,
    ZMod.natCast_mod, Nat.cast_ofNat, natCast_val]
  ring

theorem Point.double_z (point : Point)
    : point.double.z.toZMod = 2 * (point.y.toZMod * point.z.toZMod) := by
  simp only [double, toZMod_ofNat, Nat.cast_mul, Nat.cast_ofNat, natCast_val]

/-- The tangent's formulas give twice an element. -/
theorem Point.Stands.double {point : Point} {element : Group} (stands : point.Stands element)
    : point.double.Stands (element + element) := by
  cases element with
  | zero =>
      have vanishes : point.z.toZMod = 0 := stands
      change point.double.z.toZMod = 0
      rw [double_z, vanishes, mul_zero, mul_zero]
  | some x y smooth =>
      obtain ⟨z_ne, hx, hy⟩ := stands
      have negated : equation.negY x y = -y := by
        simp only [WeierstrassCurve.Affine.negY, equation, zero_mul, sub_zero]
      by_cases ordinate : y = 0
      · have vertical : y = equation.negY x y := by rw [negated, ordinate, neg_zero]
        rw [WeierstrassCurve.Affine.Point.add_self_of_Y_eq vertical]
        change point.double.z.toZMod = 0
        rw [double_z, hy, ordinate, zero_mul, zero_mul, mul_zero]
      · have twice_ne : 2 * y ≠ 0 := mul_ne_zero two_ne_zero ordinate
        have sloped : y ≠ equation.negY x y := by
          rw [negated]
          intro eq
          exact twice_ne (by linear_combination eq)
        rw [WeierstrassCurve.Affine.Point.add_self_of_Y_ne sloped]
        have slope : equation.slope x x y y * (2 * y) = 3 * x ^ 2 := by
          rw [WeierstrassCurve.Affine.slope_of_Y_ne rfl sloped, negated]
          simp only [equation, zero_mul, mul_zero, add_zero, sub_zero, sub_neg_eq_add, ← two_mul]
          exact div_mul_cancel₀ _ twice_ne
        rw [stands_some_iff, WeierstrassCurve.Affine.addY, WeierstrassCurve.Affine.negAddY,
          double_y, double_x, double_z, hx, hy]
        simp only [WeierstrassCurve.Affine.addX, WeierstrassCurve.Affine.negY, equation, zero_mul,
          add_zero, sub_zero] at slope ⊢
        generalize WeierstrassCurve.Affine.slope _ x x y y = tangent at slope ⊢
        generalize point.z.toZMod = z at z_ne ⊢
        refine ⟨?_, ?_, ?_⟩
        · have nonzero := mul_ne_zero twice_ne (pow_ne_zero 4 z_ne)
          intro eq
          exact nonzero (by linear_combination eq)
        · linear_combination -(z ^ 8 * (tangent * (2 * y) + 3 * x ^ 2)) * slope
        · linear_combination z ^ 12 * ((tangent * (2 * y)) ^ 2
            + 3 * x ^ 2 * (tangent * (2 * y)) + 9 * x ^ 4 - 12 * x * y ^ 2) * slope

-----------------------------------------------------------------------------------------
-- The chord
-----------------------------------------------------------------------------------------

/-- The difference of two abscissas over a common denominator. -/
def Point.run (left right : Point) : ZMod fieldPrime :=
  right.x.toZMod * left.z.toZMod ^ 2 - left.x.toZMod * right.z.toZMod ^ 2

/-- The difference of two ordinates over a common denominator. -/
def Point.rise (left right : Point) : ZMod fieldPrime :=
  right.y.toZMod * left.z.toZMod ^ 3 - left.y.toZMod * right.z.toZMod ^ 3

/-- What the sum of two points is when neither is neutral. -/
inductive Point.Sum (left right : Point) : Prop
  | same (run : left.run right = 0) (rise : left.rise right = 0)
      (eq : left.add right = left.double)
  | opposite (run : left.run right = 0) (rise : left.rise right ≠ 0)
      (eq : left.add right = .neutral)
  | chord (run : left.run right ≠ 0)
      (x : (left.add right).x.toZMod = left.rise right ^ 2 - left.run right ^ 3
        - 2 * (left.x.toZMod * right.z.toZMod ^ 2) * left.run right ^ 2)
      (y : (left.add right).y.toZMod
        = left.rise right * (left.x.toZMod * right.z.toZMod ^ 2 * left.run right ^ 2
            - (left.add right).x.toZMod)
          - left.y.toZMod * right.z.toZMod ^ 3 * left.run right ^ 3)
      (z : (left.add right).z.toZMod = left.run right * left.z.toZMod * right.z.toZMod)

theorem Point.sum {left right : Point} (left_ne : left.z.toZMod ≠ 0)
    (right_ne : right.z.toZMod ≠ 0)
    : Sum left right := by
  have left_val : left.z.val ≠ 0 := fun eq => left_ne (by rw [toZMod, eq, Nat.cast_zero])
  have right_val : right.z.val ≠ 0 := fun eq => right_ne (by rw [toZMod, eq, Nat.cast_zero])
  have reduced (value : Nat) : value % fieldPrime ≤ fieldPrime := (Nat.mod_lt _ Modulus.pos).le
  have minus (value : Nat) : ((fieldPrime - value % fieldPrime : Nat) : ZMod fieldPrime) = -value := by
    rw [natCast_sub_left (dvd_refl _) (reduced value), ZMod.natCast_mod]
  have zero_iff (value : Nat) : value % fieldPrime = 0 ↔ (value : ZMod fieldPrime) = 0 := by
    rw [ZMod.natCast_eq_zero_iff, Nat.dvd_iff_mod_eq_zero]
  -- The addition branches on two differences of natural numbers, which are read in the field here.
  have run_eq : ((right.x.val * (left.z.val * left.z.val % fieldPrime)
      + (fieldPrime - left.x.val * (right.z.val * right.z.val % fieldPrime) % fieldPrime) : Nat)
        : ZMod fieldPrime) = left.run right := by
    simp only [Nat.cast_add, Nat.cast_mul, minus, ZMod.natCast_mod, natCast_val, run]
    ring
  have rise_eq : ((right.y.val * (left.z.val * left.z.val % fieldPrime * left.z.val % fieldPrime)
      + (fieldPrime - left.y.val * (right.z.val * right.z.val % fieldPrime * right.z.val % fieldPrime)
          % fieldPrime) : Nat)
        : ZMod fieldPrime) = left.rise right := by
    simp only [Nat.cast_add, Nat.cast_mul, minus, ZMod.natCast_mod, natCast_val, rise]
    ring
  by_cases run : left.run right = 0
  · have level := run
    rw [← run_eq, ← zero_iff] at level
    by_cases rise : left.rise right = 0
    · refine .same run rise ?_
      rw [← rise_eq, ← zero_iff] at rise
      simp only [add, if_neg left_val, if_neg right_val, if_pos level, if_pos rise]
    · refine .opposite run rise ?_
      rw [← rise_eq, ← zero_iff] at rise
      simp only [add, if_neg left_val, if_neg right_val, if_pos level, if_neg rise]
  · have tilted := run
    rw [← run_eq, ← zero_iff] at tilted
    refine .chord run ?_ ?_ ?_
    · simp only [add, if_neg left_val, if_neg right_val, if_neg tilted, toZMod_ofNat,
        Nat.cast_add, Nat.cast_mul, Nat.cast_ofNat, minus, ZMod.natCast_mod, natCast_val,
        Point.run, Point.rise]
      ring
    · simp only [add, if_neg left_val, if_neg right_val, if_neg tilted, toZMod_ofNat,
        Nat.cast_add, Nat.cast_mul, Nat.cast_ofNat, minus,
        natCast_sub_left (dvd_refl _) (val_lt _).le, ZMod.natCast_mod, natCast_val,
        Point.run, Point.rise]
      ring
    · simp only [add, if_neg left_val, if_neg right_val, if_neg tilted, toZMod_ofNat,
        Nat.cast_add, Nat.cast_mul, minus, ZMod.natCast_mod, natCast_val, Point.run]
      ring

section Add

variable {left right : Point} {x₁ y₁ x₂ y₂ : ZMod fieldPrime}
variable {smooth₁ : equation.Nonsingular x₁ y₁} {smooth₂ : equation.Nonsingular x₂ y₂}

theorem Point.Stands.run (hl : left.Stands (.some x₁ y₁ smooth₁))
    (hr : right.Stands (.some x₂ y₂ smooth₂))
    : left.run right = (x₂ - x₁) * (left.z.toZMod * right.z.toZMod) ^ 2 := by
  rw [Point.run, hl.2.1, hr.2.1]
  ring

theorem Point.Stands.rise (hl : left.Stands (.some x₁ y₁ smooth₁))
    (hr : right.Stands (.some x₂ y₂ smooth₂))
    : left.rise right = (y₂ - y₁) * (left.z.toZMod * right.z.toZMod) ^ 3 := by
  rw [Point.rise, hl.2.2, hr.2.2]
  ring

/-- The chord through two points with different abscissas meets the curve at the negated sum. -/
theorem Point.Stands.add_chord (hl : left.Stands (.some x₁ y₁ smooth₁))
    (hr : right.Stands (.some x₂ y₂ smooth₂)) (apart : x₁ ≠ x₂)
    (x : (left.add right).x.toZMod = left.rise right ^ 2 - left.run right ^ 3
      - 2 * (left.x.toZMod * right.z.toZMod ^ 2) * left.run right ^ 2)
    (y : (left.add right).y.toZMod
      = left.rise right * (left.x.toZMod * right.z.toZMod ^ 2 * left.run right ^ 2
          - (left.add right).x.toZMod)
        - left.y.toZMod * right.z.toZMod ^ 3 * left.run right ^ 3)
    (z : (left.add right).z.toZMod = left.run right * left.z.toZMod * right.z.toZMod)
    : (left.add right).Stands (.some x₁ y₁ smooth₁ + .some x₂ y₂ smooth₂) := by
  have slope : equation.slope x₁ x₂ y₁ y₂ * (x₁ - x₂) = y₁ - y₂ := by
    rw [WeierstrassCurve.Affine.slope_of_X_ne apart]
    exact div_mul_cancel₀ _ (sub_ne_zero.mpr apart)
  rw [WeierstrassCurve.Affine.Point.add_of_X_ne apart, stands_some_iff,
    WeierstrassCurve.Affine.addY, WeierstrassCurve.Affine.negAddY]
  generalize equation.slope x₁ x₂ y₁ y₂ = chord at slope ⊢
  simp only [WeierstrassCurve.Affine.addX, WeierstrassCurve.Affine.negY, equation, zero_mul,
    add_zero, sub_zero]
  rw [hl.run hr, hl.rise hr, hl.2.1] at x
  rw [hl.run hr, hl.rise hr, hl.2.1, hl.2.2] at y
  rw [hl.run hr] at z
  have scale : left.z.toZMod * right.z.toZMod ≠ 0 := mul_ne_zero hl.1 hr.1
  generalize left.z.toZMod = z₁ at scale x y z
  generalize right.z.toZMod = z₂ at scale x y z
  have abscissa : (left.add right).x.toZMod
      = (chord ^ 2 - x₁ - x₂) * ((x₂ - x₁) * (z₁ * z₂) ^ 3) ^ 2 := by
    linear_combination x + (z₁ * z₂) ^ 6 * (y₂ - y₁ + chord * (x₂ - x₁)) * slope
  have denominator : (left.add right).z.toZMod = (x₂ - x₁) * (z₁ * z₂) ^ 3 := by
    linear_combination z
  rw [denominator]
  refine ⟨mul_ne_zero (sub_ne_zero.mpr apart.symm) (pow_ne_zero 3 scale), abscissa, ?_⟩
  rw [y, abscissa]
  linear_combination (z₁ * z₂) ^ 9 * (x₂ - x₁) ^ 2 * (2 * x₁ + x₂ - chord ^ 2) * slope

/-- The sum of two points other than the neutral one stands for the sum of what they stand for. -/
theorem Point.Stands.add_some (hl : left.Stands (.some x₁ y₁ smooth₁))
    (hr : right.Stands (.some x₂ y₂ smooth₂))
    : (left.add right).Stands (.some x₁ y₁ smooth₁ + .some x₂ y₂ smooth₂) := by
  have scale : left.z.toZMod * right.z.toZMod ≠ 0 := mul_ne_zero hl.1 hr.1
  have same_x (level : left.run right = 0) : x₁ = x₂ := by
    rw [hl.run hr, mul_eq_zero, or_iff_left (pow_ne_zero 2 scale), sub_eq_zero] at level
    exact level.symm
  cases Point.sum hl.1 hr.1 with
  | same level rest eq =>
      rw [hl.rise hr, mul_eq_zero, or_iff_left (pow_ne_zero 3 scale), sub_eq_zero] at rest
      obtain rfl := same_x level
      obtain rfl := rest
      rw [eq]
      exact hl.double
  | opposite level rest eq =>
      have differ : y₁ ≠ y₂ := by
        intro same
        exact rest (by rw [hl.rise hr, same, sub_self, zero_mul])
      have mirrored := (WeierstrassCurve.Affine.Y_eq_of_X_eq smooth₁.1 smooth₂.1
        (same_x level)).resolve_left differ
      rw [eq, WeierstrassCurve.Affine.Point.add_of_Y_eq (same_x level) mirrored]
      exact stands_neutral
  | chord tilted x y z =>
      have apart : x₁ ≠ x₂ := by
        intro same
        exact tilted (by rw [hl.run hr, same, sub_self, zero_mul])
      exact hl.add_chord hr apart x y z

end Add

/-- The formulas for sums give the sum of the elements. -/
theorem Point.Stands.add {left right : Point} {first second : Group}
    (hl : left.Stands first) (hr : right.Stands second)
    : (left.add right).Stands (first + second) := by
  cases first with
  | zero =>
      have vanishes : left.z = 0 := toZMod_eq_zero.mp hl
      rw [Point.add, if_pos (eq_zero_iff.mp vanishes), ← WeierstrassCurve.Affine.Point.zero_def,
        zero_add]
      exact hr
  | some x₁ y₁ smooth₁ =>
      cases second with
      | zero =>
          have left_ne : left.z.val ≠ 0 :=
            fun eq => hl.1 (toZMod_eq_zero.mpr (eq_zero_iff.mpr eq))
          have vanishes : right.z = 0 := toZMod_eq_zero.mp hr
          rw [Point.add, if_neg left_ne, if_pos (eq_zero_iff.mp vanishes),
            ← WeierstrassCurve.Affine.Point.zero_def, add_zero]
          exact hl
      | some x₂ y₂ smooth₂ => exact hl.add_some hr

-----------------------------------------------------------------------------------------
-- Multiples
-----------------------------------------------------------------------------------------

theorem Point.Stands.multiples {point : Point} {element : Group} (bits place : Nat)
    (stands : point.Stands element) (below : place < 2 ^ bits)
    : ∃ multiple, (point.multiples bits)[place]? = some multiple
        ∧ multiple.Stands (place • element) := by
  induction bits generalizing point element place with
  | zero =>
      obtain rfl : place = 0 := by omega
      exact ⟨.neutral, rfl, by rw [zero_nsmul]; exact stands_neutral⟩
  | succ bits ih =>
      obtain ⟨multiple, found, even⟩ := ih (place / 2) stands.double (by omega)
      rw [← two_nsmul, ← mul_nsmul'] at even
      rw [Point.multiples, getElem?_flatMap_pair, found]
      by_cases low : place % 2 = 0
      · have whole : place / 2 * 2 = place := by omega
        rw [whole] at even
        exact ⟨multiple, by rw [if_pos low, Option.map_some], even⟩
      · have whole : place / 2 * 2 + 1 = place := by omega
        have odd := even.add stands
        rw [← succ_nsmul, whole] at odd
        exact ⟨multiple.add point, by rw [if_neg low, Option.map_some], odd⟩

theorem Point.Stands.sixteenfold {point : Point} {element : Group}
    (stands : point.Stands element)
    : point.double.double.double.double.Stands (16 • element) := by
  have doubled := stands.double.double.double.double
  simp only [← two_nsmul, ← mul_nsmul'] at doubled
  exact doubled

theorem Point.Stands.multipleBy {point : Point} {element : Group} (count factor : Nat)
    (stands : point.Stands element) (below : factor < 16 ^ count)
    : (Point.multipleBy (point.multiples 4) count factor).Stands (factor • element) := by
  induction count generalizing factor with
  | zero =>
      obtain rfl : factor = 0 := by omega
      rw [zero_nsmul]
      exact stands_neutral
  | succ count ih =>
      have high := (ih (factor / 16) (by omega)).sixteenfold
      obtain ⟨multiple, found, low⟩ := stands.multiples 4 (factor % 16) (by omega)
      have sum := high.add low
      rw [← mul_nsmul', ← add_nsmul, Nat.div_add_mod] at sum
      rw [Point.multipleBy, List.getD_eq_getElem?_getD, found, Option.getD_some]
      exact sum

theorem Point.Stands.choose {point : Point} {element : Group} (count factor : Nat)
    (stands : point.Stands element) (below : factor < 16 ^ count)
    : (Point.choose (Point.places count point) factor).Stands (factor • element) := by
  induction count generalizing point element factor with
  | zero =>
      obtain rfl : factor = 0 := by omega
      rw [zero_nsmul]
      exact stands_neutral
  | succ count ih =>
      have high := ih (factor / 16) stands.sixteenfold (by omega)
      obtain ⟨multiple, found, low⟩ := stands.multiples 4 (factor % 16) (by omega)
      have sum := high.add low
      rw [← mul_nsmul', Nat.mul_comm, ← add_nsmul, Nat.div_add_mod] at sum
      rw [Point.places, Point.choose, Array.getD_eq_getD_getElem?, List.getElem?_toArray, found,
        Option.getD_some]
      exact sum

/-- The multiple by a scalar is taken in the group. -/
theorem Point.Stands.smul {point : Point} {element : Group} (stands : point.Stands element)
    (scalar : Scalar)
    : (point.smul scalar).Stands (scalar.val • element) :=
  stands.multipleBy 64 scalar.val (scalar.val_lt.trans (by decide))

-----------------------------------------------------------------------------------------
-- The base point
-----------------------------------------------------------------------------------------

theorem base_onCurve : Point.base.y * Point.base.y = curveSide Point.base.x := by
  decide +kernel

/-- The base point as an element of the group. -/
def generator : Group :=
  .some Point.base.x.toZMod Point.base.y.toZMod (Point.stands_affine base_onCurve).choose

theorem stands_base : Point.base.Stands generator := by
  have stands := (Point.stands_affine base_onCurve).choose_spec
  have affine : Point.base = .affine Point.base.x Point.base.y := by
    simp only [Point.base, Point.affine]
  rw [affine]
  exact stands

theorem stands_baseMultiple (scalar : Scalar)
    : (baseMultiple scalar).Stands (scalar.val • generator) :=
  stands_base.choose 64 scalar.val (scalar.val_lt.trans (by decide))

theorem order_nsmul_generator : order • generator = 0 := by
  have vanishes : (Point.multipleBy (Point.base.multiples 4) 64 order).z = 0 := by decide +kernel
  have below : order < 16 ^ 64 := by decide
  -- The elaborator would otherwise count up to the order to compare two multiples.
  generalize order = total at vanishes below ⊢
  exact (stands_base.multipleBy 64 total below).eq_zero vanishes

/-- The base point generates a subgroup of the given prime size. -/
theorem addOrderOf_generator : addOrderOf generator = order :=
  addOrderOf_eq_prime order_nsmul_generator (WeierstrassCurve.Affine.Point.some_ne_zero _)

end Curve

end PaymentChannel
