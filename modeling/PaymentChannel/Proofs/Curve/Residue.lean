import Mathlib.Data.ZMod.Basic
import Mathlib.Algebra.Field.ZMod
import Mathlib.Tactic.LinearCombination
import Mathlib.Tactic.Ring
import PaymentChannel.Curve.Residue

/-! Residues compute in the ring of integers modulo a number, and in its field when the number is
prime. Each operation is carried to that of the ring, so identities are proved there.
-/

namespace PaymentChannel

namespace Residue

variable {modulus : Nat}

/-- The class as an element of the ring. -/
def toZMod (value : Residue modulus) : ZMod modulus := value.val

theorem natCast_val (value : Residue modulus) : (value.val : ZMod modulus) = value.toZMod := rfl

theorem toZMod_inj {left right : Residue modulus}
    : left.toZMod = right.toZMod ↔ left = right := by
  constructor
  · intro same
    have congruent := (ZMod.natCast_eq_natCast_iff' _ _ _).mp same
    rw [Nat.mod_eq_of_lt left.val_lt, Nat.mod_eq_of_lt right.val_lt] at congruent
    exact Residue.ext congruent
  · intro same
    rw [same]

@[simp] theorem toZMod_add (left right : Residue modulus)
    : (left + right).toZMod = left.toZMod + right.toZMod := by
  change (add left right).toZMod = _
  unfold add toZMod
  by_cases below : left.val + right.val < modulus
  · simp only [below, ↓reduceDIte, Nat.cast_add]
  · simp only [below, ↓reduceDIte]
    rw [Nat.cast_sub (by omega), Nat.cast_add, ZMod.natCast_self, sub_zero]

@[simp] theorem toZMod_sub (left right : Residue modulus)
    : (left - right).toZMod = left.toZMod - right.toZMod := by
  change (sub left right).toZMod = _
  unfold sub toZMod
  by_cases within : right.val ≤ left.val
  · simp only [within, ↓reduceDIte, Nat.cast_sub]
  · have := right.val_lt
    simp only [within, ↓reduceDIte]
    rw [Nat.cast_sub (by omega), Nat.cast_add, ZMod.natCast_self, add_zero]

-----------------------------------------------------------------------------------------
-- Euclid's algorithm
-----------------------------------------------------------------------------------------

/-- One step keeps both numbers multiples of a value, up to multiples of the modulus. -/
theorem euclid_step {first second : Nat} {s t : Int} {value : ZMod modulus}
    (hs : s * value = first) (ht : t * value = second)
    : ((s - (first / second : Nat) * t : Int) : ZMod modulus) * value
        = (first % second : Nat) := by
  have split := congrArg (Nat.cast (R := ZMod modulus)) (Nat.mod_add_div first second)
  rw [Nat.cast_add, Nat.cast_mul] at split
  rw [Int.cast_sub, Int.cast_mul, Int.cast_natCast]
  linear_combination hs - (first / second : Nat) * ht - split

/-- Euclid's algorithm ends at the greatest common divisor, as two steps halve the second
number.
-/
theorem euclid_mul {bits first second : Nat} {s t : Int} {value : ZMod modulus}
    (below : second < 2 ^ bits) (hs : s * value = first) (ht : t * value = second)
    : euclid (2 * bits) first second s t * value = (first.gcd second : Nat) := by
  induction bits generalizing first second s t with
  | zero =>
      obtain rfl : second = 0 := by omega
      simpa only [Nat.mul_zero, euclid, Nat.gcd_zero_right] using hs
  | succ bits ih =>
      have steps : 2 * (bits + 1) = 2 * bits + 1 + 1 := by ring
      rw [steps, euclid]
      by_cases stop : second = 0
      · rw [if_pos stop, stop, Nat.gcd_zero_right]
        exact hs
      · rw [if_neg stop, euclid, Nat.gcd_comm, Nat.gcd_rec]
        by_cases rest : first % second = 0
        · rw [if_pos rest, rest, Nat.gcd_zero_left]
          exact ht
        · have less := Nat.mod_lt first (Nat.pos_of_ne_zero stop)
          have small := Nat.mod_lt second (Nat.pos_of_ne_zero rest)
          have again : second % (first % second) ≤ second - first % second := by
            rw [Nat.mod_eq_sub_mod less.le]
            exact Nat.mod_le _ _
          rw [if_neg rest, Nat.gcd_rec, Nat.gcd_comm]
          exact ih (by omega) (euclid_step hs ht) (euclid_step ht (euclid_step hs ht))

-----------------------------------------------------------------------------------------
-- The ring
-----------------------------------------------------------------------------------------

variable [Modulus modulus]

@[simp] theorem toZMod_ofNat (value : Nat) : (ofNat value : Residue modulus).toZMod = value := by
  simp only [toZMod, ofNat, ZMod.natCast_mod]

@[simp] theorem toZMod_zero : (0 : Residue modulus).toZMod = 0 :=
  (toZMod_ofNat 0).trans Nat.cast_zero

@[simp] theorem toZMod_one : (1 : Residue modulus).toZMod = 1 :=
  (toZMod_ofNat 1).trans Nat.cast_one

@[simp] theorem toZMod_mul (left right : Residue modulus)
    : (left * right).toZMod = left.toZMod * right.toZMod :=
  (toZMod_ofNat _).trans (Nat.cast_mul _ _)

@[simp] theorem toZMod_neg (value : Residue modulus) : (-value).toZMod = -value.toZMod := by
  change (0 - value : Residue modulus).toZMod = _
  rw [toZMod_sub, toZMod_zero, zero_sub]

theorem toZMod_eq_zero {value : Residue modulus} : value.toZMod = 0 ↔ value = 0 := by
  rw [← toZMod_zero, toZMod_inj]

theorem eq_zero_iff {value : Residue modulus} : value = 0 ↔ value.val = 0 := by
  have zero : (0 : Residue modulus).val = 0 := Nat.zero_mod _
  rw [Residue.ext_iff, zero]

theorem val_neg {value : Residue modulus} (nonzero : value.val ≠ 0)
    : (-value).val = modulus - value.val := by
  have zero : (0 : Residue modulus).val = 0 := Nat.zero_mod _
  have past : ¬ value.val ≤ (0 : Residue modulus).val := by omega
  change (sub 0 value).val = _
  rw [sub, dif_neg past]
  change (0 : Residue modulus).val + modulus - value.val = _
  rw [zero, Nat.zero_add]

-----------------------------------------------------------------------------------------
-- Powers
-----------------------------------------------------------------------------------------

/-- A list that pairs two values of each element has those of an element at twice its place. -/
theorem getElem?_flatMap_pair {α β : Type} (even odd : α → β) (items : List α) (place : Nat)
    : (items.flatMap fun item => [even item, odd item])[place]?
        = if place % 2 = 0 then items[place / 2]?.map even else items[place / 2]?.map odd := by
  induction items generalizing place with
  | nil => simp
  | cons item items ih =>
      match place with
      | 0 => simp
      | 1 => simp
      | place + 2 =>
          have half : (place + 2) / 2 = place / 2 + 1 := by omega
          simp only [List.flatMap_cons, List.cons_append, List.nil_append,
            List.getElem?_cons_succ, ih, half, Nat.add_mod_right]

theorem getElem?_powers (bits place : Nat) (base : Residue modulus) (below : place < 2 ^ bits)
    : ∃ power, (powers bits base)[place]? = some power
        ∧ power.toZMod = base.toZMod ^ place := by
  induction bits generalizing base place with
  | zero =>
      obtain rfl : place = 0 := by omega
      exact ⟨1, rfl, by rw [toZMod_one, pow_zero]⟩
  | succ bits ih =>
      obtain ⟨power, found, eq⟩ := ih (place / 2) (base * base) (by omega)
      rw [toZMod_mul, ← pow_two, ← pow_mul] at eq
      rw [powers, getElem?_flatMap_pair, found]
      by_cases even : place % 2 = 0
      · have whole : 2 * (place / 2) = place := by omega
        exact ⟨power, by rw [if_pos even, Option.map_some], by rw [eq, whole]⟩
      · have whole : 2 * (place / 2) + 1 = place := by omega
        refine ⟨power * base, by rw [if_neg even, Option.map_some], ?_⟩
        rw [toZMod_mul, eq, ← pow_succ, whole]

theorem toZMod_powerBy (digits exponent : Nat) (base : Residue modulus)
    (below : exponent < 16 ^ digits)
    : (powerBy (powers 4 base) digits exponent).toZMod = base.toZMod ^ exponent := by
  induction digits generalizing exponent with
  | zero =>
      obtain rfl : exponent = 0 := by omega
      rw [powerBy, toZMod_one, pow_zero]
  | succ digits ih =>
      have high := ih (exponent / 16) (by omega)
      obtain ⟨power, found, low⟩ := getElem?_powers 4 (exponent % 16) base (by omega)
      have whole : exponent = exponent / 16 * 16 + exponent % 16 := by omega
      simp only [powerBy, toZMod_mul, high, List.getD_eq_getElem?_getD, found, Option.getD_some,
        low]
      conv_rhs => rw [whole, pow_add, pow_mul]
      ring

/-- The power of a residue is that of the ring, for an exponent of 256 bits. -/
theorem toZMod_power {exponent : Nat} (base : Residue modulus) (below : exponent < 2 ^ 256)
    : (base.power exponent).toZMod = base.toZMod ^ exponent :=
  toZMod_powerBy 64 exponent base (by omega)

-----------------------------------------------------------------------------------------
-- Inverses
-----------------------------------------------------------------------------------------

/-- The inverse of a residue is that of the field, for a prime of 256 bits. -/
theorem toZMod_inverse [prime : Fact modulus.Prime] (below : modulus ≤ 2 ^ 256)
    (value : Residue modulus)
    : value.inverse.toZMod = value.toZMod⁻¹ := by
  have positive : (0 : Int) < modulus := by exact_mod_cast prime.out.pos
  have class_eq : value.inverse.toZMod
      = (euclid (2 * 256) modulus value.val 0 1 : ZMod modulus) := by
    unfold inverse
    rw [toZMod_ofNat, ← Int.cast_natCast, Int.toNat_of_nonneg (Int.emod_nonneg _ positive.ne'),
      ZMod.intCast_mod]
  by_cases zero : value.val = 0
  · have neutral : value.toZMod = 0 := by rw [toZMod, zero, Nat.cast_zero]
    rw [class_eq, neutral, zero, inv_zero]
    exact Int.cast_zero
  · have ne_zero : value.toZMod ≠ 0 := by
      intro eq
      exact zero (eq_zero_iff.mp (toZMod_eq_zero.mp eq))
    have coprime : modulus.gcd value.val = 1 :=
      (prime.out.coprime_iff_not_dvd).mpr fun divides =>
        zero (Nat.eq_zero_of_dvd_of_lt divides value.val_lt)
    have product : (euclid (2 * 256) modulus value.val 0 1 : ZMod modulus) * value.toZMod
        = (modulus.gcd value.val : Nat) :=
      euclid_mul (by have := value.val_lt; omega) (by simp) (by simp [toZMod])
    rw [coprime, Nat.cast_one] at product
    rw [class_eq]
    exact eq_inv_of_mul_eq_one_left product

end Residue

end PaymentChannel
