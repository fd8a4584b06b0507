import Mathlib.NumberTheory.LucasPrimality
import Mathlib.Tactic.NormNum.Prime
import PaymentChannel.Curve.Point
import PaymentChannel.Proofs.Curve.Residue

/-! The field of coordinates and the group of multipliers have prime size, by Lucas's test. A base
and the factors of the number before a prime are the certificate, and every large factor has one
of its own.
-/

namespace PaymentChannel

namespace Curve

instance (predecessor : Nat) : Modulus (predecessor + 1) := ⟨predecessor.succ_pos⟩

/-- The base has the number before the modulus as its multiplicative order, as far as the given
factors tell.
-/
def PassesLucas (modulus : Nat) [Modulus modulus] (base : Nat) (factors : List Nat) : Prop :=
  factors.prod = modulus - 1 ∧ (Residue.ofNat base : Residue modulus).power (modulus - 1) = 1
    ∧ ∀ factor ∈ factors, (Residue.ofNat base : Residue modulus).power ((modulus - 1) / factor) ≠ 1

instance (modulus : Nat) [Modulus modulus] (base : Nat) (factors : List Nat)
    : Decidable (PassesLucas modulus base factors) :=
  inferInstanceAs (Decidable (_ ∧ _ ∧ _))

theorem PassesLucas.prime {modulus base : Nat} [Modulus modulus] {factors : List Nat}
    (passes : PassesLucas modulus base factors) (below : modulus ≤ 2 ^ 256)
    (primes : ∀ factor ∈ factors, factor.Prime)
    : modulus.Prime := by
  obtain ⟨product, full, proper⟩ := passes
  have positive : 0 < modulus := Modulus.pos
  have power_eq (exponent : Nat) (within : exponent ≤ modulus - 1)
      : (base : ZMod modulus) ^ exponent = 1
          ↔ (Residue.ofNat base : Residue modulus).power exponent = 1 := by
    rw [← Residue.toZMod_inj, Residue.toZMod_power _ (by omega), Residue.toZMod_ofNat,
      Residue.toZMod_one]
  refine lucas_primality modulus base ((power_eq _ le_rfl).mpr full) ?_
  intro factor prime divides
  rw [← product, prime.prime.dvd_prod_iff] at divides
  obtain ⟨listed, member, divides⟩ := divides
  obtain rfl := (Nat.prime_dvd_prime_iff_eq prime (primes listed member)).mp divides
  rw [ne_eq, power_eq _ (Nat.div_le_self _ _)]
  exact proper factor member

/-- The tests of the number of points and of the large factors on the way down from it. -/
theorem passesLucas_order
    : PassesLucas 107361793816595537 3 [2, 2, 2, 2, 16699, 85831, 4681609]
      ∧ PassesLucas 44706919 6 [2, 3, 797, 9349]
      ∧ PassesLucas 174723607534414371449 3 [2, 2, 2, 17, 59, 4051, 120233, 44706919]
      ∧ PassesLucas 545358713 5 [2, 2, 2, 41, 59, 28181]
      ∧ PassesLucas 297159362677 2 [2, 2, 3, 3, 11, 461, 1627771]
      ∧ PassesLucas 29047611873442575647497758179 2 [2, 293, 305873, 545358713, 297159362677]
      ∧ PassesLucas 341948486974166000522343609283189 2
        [2, 2, 3, 3, 3, 109, 29047611873442575647497758179]
      ∧ PassesLucas order 7
        [2, 2, 2, 2, 2, 2, 3, 149, 631, 107361793816595537, 174723607534414371449,
         341948486974166000522343609283189] := by
  decide +kernel

theorem order_prime : order.Prime := by
  obtain ⟨passes₁, passes₂, passes₃, passes₄, passes₅, passes₆, passes₇, passes⟩ :=
    passesLucas_order
  have prime₁ := passes₁.prime (by norm_num) (by norm_num)
  have prime₂ := passes₂.prime (by norm_num) (by norm_num)
  have prime₃ := passes₃.prime (by norm_num) (by
    simp only [List.forall_mem_cons, prime₂]
    norm_num)
  have prime₄ := passes₄.prime (by norm_num) (by norm_num)
  have prime₅ := passes₅.prime (by norm_num) (by norm_num)
  have prime₆ := passes₆.prime (by norm_num) (by
    simp only [List.forall_mem_cons, prime₄, prime₅]
    norm_num)
  have prime₇ := passes₇.prime (by norm_num) (by
    simp only [List.forall_mem_cons, prime₆]
    norm_num)
  refine passes.prime (by decide) ?_
  simp only [List.forall_mem_cons, prime₁, prime₃, prime₇]
  norm_num

instance : Fact order.Prime := ⟨order_prime⟩

/-- The tests of the size of the field and of the large factors on the way down from it. -/
theorem passesLucas_fieldPrime
    : PassesLucas 107590001 3 [2, 2, 2, 2, 5, 5, 5, 5, 7, 29, 53]
      ∧ PassesLucas 255515944373312847190720520512484175977 3
        [2, 2, 2, 7, 7, 11, 1627, 2657, 4423, 41201, 96557, 7240687, 107590001]
      ∧ PassesLucas 173378833005251801 6 [2, 2, 2, 5, 5, 2621, 24809, 13331831]
      ∧ PassesLucas 22149492674086928081353 5 [2, 2, 2, 3, 5323, 173378833005251801]
      ∧ PassesLucas 132896956044521568488119 6 [2, 3, 22149492674086928081353]
      ∧ PassesLucas 205115282021455665897114700593932402728804164701536103180137503955397371 10
        [2, 3, 5, 29, 29, 31, 7723, 132896956044521568488119,
         255515944373312847190720520512484175977]
      ∧ PassesLucas fieldPrime 3
        [2, 3, 7, 13441,
         205115282021455665897114700593932402728804164701536103180137503955397371] := by
  decide +kernel

theorem fieldPrime_prime : fieldPrime.Prime := by
  obtain ⟨passes₁, passes₂, passes₃, passes₄, passes₅, passes₆, passes⟩ := passesLucas_fieldPrime
  have prime₁ := passes₁.prime (by norm_num) (by norm_num)
  have prime₂ := passes₂.prime (by norm_num) (by
    simp only [List.forall_mem_cons, prime₁]
    norm_num)
  have prime₃ := passes₃.prime (by norm_num) (by norm_num)
  have prime₄ := passes₄.prime (by norm_num) (by
    simp only [List.forall_mem_cons, prime₃]
    norm_num)
  have prime₅ := passes₅.prime (by norm_num) (by
    simp only [List.forall_mem_cons, prime₄]
    norm_num)
  have prime₆ := passes₆.prime (by norm_num) (by
    simp only [List.forall_mem_cons, prime₂, prime₅]
    norm_num)
  refine passes.prime (by decide) ?_
  simp only [List.forall_mem_cons, prime₆]
  norm_num

instance : Fact fieldPrime.Prime := ⟨fieldPrime_prime⟩

end Curve

end PaymentChannel
