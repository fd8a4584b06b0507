import PaymentChannel.Proofs.Curve.Key
import PaymentChannel.Template.Signable

/-! A signature made with a key verifies under its public key.
A verifier adds two multiples whose sum is the nonce point or its negative, and both have the
abscissa that the signature names.
-/

namespace PaymentChannel

open Curve Residue

namespace Ecdsa

variable {key : SecretKey} {message nonce : Scalar} {signature : Signature}

/-- Scalars of one class give one multiple of the base point. -/
theorem nsmul_generator_eq {left right : Nat} (same : (left : ZMod order) = right)
    : left • generator = right • generator := by
  rw [nsmul_eq_nsmul_iff_modEq, addOrderOf_generator]
  exact (ZMod.natCast_eq_natCast_iff _ _ _).mp same

/-- The larger half of the scalars is the negative of the smaller one. -/
theorem isLow_neg {scalar : Scalar} (high : isLow scalar = false) : isLow (-scalar) = true := by
  have odd : order = 2 * (order / 2) + 1 := by decide
  have past : ¬ scalar.val ≤ order / 2 := of_decide_eq_false high
  have negated := val_neg (show scalar.val ≠ 0 by omega)
  exact decide_eq_true (by omega)

-----------------------------------------------------------------------------------------
-- Signatures
-----------------------------------------------------------------------------------------

/-- A signature that a nonce gives: the abscissa of the nonce point, and one of two opposite
answers for the message.
-/
structure Made (key : SecretKey) (message nonce : Scalar) (signature : Signature) : Prop where
  abscissa : (baseMultiple nonce).coordinates?.map
    (fun coordinates => (Residue.ofNat coordinates.1.val : Scalar)) = some signature.r
  r_ne_zero : signature.r ≠ 0
  s_ne_zero : signature.s ≠ 0
  low : isLow signature.s = true
  answers : signature.s = nonce.inverse * (message + signature.r * key.scalar)
    ∨ signature.s = -(nonce.inverse * (message + signature.r * key.scalar))

theorem signWith?_eq_some (made : signWith? key message nonce = some signature)
    : Made key message nonce signature := by
  unfold signWith? at made
  cases found : (baseMultiple nonce).coordinates? with
  | none => rw [found] at made; cases made
  | some coordinates =>
      rw [found] at made
      change (if _ ∨ _ then none else if _ then some _ else some _) = some signature at made
      generalize hr : (Residue.ofNat coordinates.1.val : Scalar) = r at made
      generalize ha : nonce.inverse * (message + r * key.scalar) = answer at made
      have read : (baseMultiple nonce).coordinates?.map
          (fun coordinates => (Residue.ofNat coordinates.1.val : Scalar)) = some r := by
        rw [found, Option.map_some, hr]
      by_cases unusable : r = 0 ∨ answer = 0
      · rw [if_pos unusable] at made
        cases made
      · rw [if_neg unusable] at made
        rw [not_or] at unusable
        by_cases low : isLow answer = true
        · rw [if_pos low] at made
          cases made
          exact ⟨read, unusable.1, unusable.2, low, .inl ha.symm⟩
        · rw [if_neg low] at made
          cases made
          have negated_ne : -answer ≠ 0 := by
            rw [ne_eq, ← toZMod_eq_zero, toZMod_neg, neg_eq_zero, toZMod_eq_zero]
            exact unusable.2
          exact ⟨read, unusable.1, negated_ne, isLow_neg (by simpa using low),
            .inr (congrArg Neg.neg ha.symm)⟩

-----------------------------------------------------------------------------------------
-- Verification
-----------------------------------------------------------------------------------------

/-- The multiples that a verifier adds are the nonce point's, up to its sign. -/
theorem Made.combination (made : Made key message nonce signature) (usable : nonce ≠ 0)
    : let w := signature.s.inverse
      (message * w).val • generator + (signature.r * w).val • key.scalar.val • generator
          = nonce.val • generator
        ∨ (message * w).val • generator + (signature.r * w).val • key.scalar.val • generator
          = -(nonce.val • generator) := by
  intro w
  have below : order ≤ 2 ^ 256 := by decide
  have nonce_ne : nonce.toZMod ≠ 0 := fun eq => usable (toZMod_eq_zero.mp eq)
  have s_ne : signature.s.toZMod ≠ 0 := fun eq => made.s_ne_zero (toZMod_eq_zero.mp eq)
  have hw : w.toZMod = signature.s.toZMod⁻¹ := toZMod_inverse below _
  have total : (((message * w).val + (signature.r * w).val * key.scalar.val : Nat) : ZMod order)
      = (message.toZMod + signature.r.toZMod * key.scalar.toZMod) * signature.s.toZMod⁻¹ := by
    rw [Nat.cast_add, Nat.cast_mul, natCast_val, natCast_val, natCast_val, toZMod_mul,
      toZMod_mul, hw]
    ring
  rw [smul_smul, ← add_nsmul]
  have answer_eq : (nonce.inverse * (message + signature.r * key.scalar)).toZMod
      = nonce.toZMod⁻¹ * (message.toZMod + signature.r.toZMod * key.scalar.toZMod) := by
    rw [toZMod_mul, toZMod_add, toZMod_mul, toZMod_inverse below]
  refine made.answers.imp ?_ ?_
  · intro answers
    have value := (congrArg toZMod answers).trans answer_eq
    refine nsmul_generator_eq (total.trans ?_)
    rw [← div_eq_mul_inv, natCast_val, div_eq_iff s_ne, value, mul_inv_cancel_left₀ nonce_ne]
  · intro answers
    have value := congrArg toZMod answers
    rw [toZMod_neg, answer_eq] at value
    rw [← add_eq_zero_iff_eq_neg, ← add_nsmul, ← zero_nsmul generator]
    refine nsmul_generator_eq ?_
    rw [Nat.cast_add, total, Nat.cast_zero, natCast_val, ← div_eq_mul_inv,
      div_add' _ _ _ s_ne, value, mul_neg, mul_inv_cancel_left₀ nonce_ne, add_neg_cancel,
      zero_div]

/-- Points that stand for opposite or equal elements have one abscissa. -/
theorem same_abscissa {left right : Point} {first second : Group} (hl : left.Stands first)
    (hr : right.Stands second) (related : first = second ∨ first = -second)
    : left.coordinates?.map (·.1) = right.coordinates?.map (·.1) := by
  have same : abscissa? first = abscissa? second := by
    rcases related with eq | eq
    · rw [eq]
    · rw [eq, abscissa?_neg]
  rw [← hl.abscissa?, ← hr.abscissa?] at same
  have injective : Function.Injective (toZMod : Coordinate → ZMod fieldPrime) :=
    fun _ _ => toZMod_inj.mp
  refine Option.map_injective injective ?_
  rw [Option.map_map, Option.map_map]
  exact same

theorem Made.verify {digest : Bytes 32} (made : Made key (messageScalar digest) nonce signature)
    (usable : nonce ≠ 0)
    : verify key.publicKey digest signature = true := by
  have stands := (stands_baseMultiple (messageScalar digest * signature.s.inverse)).add
    (key.publicKey_stands.smul (signature.r * signature.s.inverse))
  have same := same_abscissa stands (stands_baseMultiple nonce) (made.combination usable)
  have read := made.abscissa
  have refused : ¬ (signature.r = 0 ∨ signature.s = 0 ∨ (!isLow signature.s) = true) := by
    rw [made.low]
    simp only [made.r_ne_zero, made.s_ne_zero, Bool.not_true, Bool.false_eq_true, or_self,
      not_false_eq_true]
  unfold Ecdsa.verify
  rw [if_neg refused]
  cases nonce_point : (baseMultiple nonce).coordinates? with
  | none =>
      rw [nonce_point] at read
      cases read
  | some coordinates =>
      rw [nonce_point, Option.map_some] at read same
      obtain ⟨summed, found, eq⟩ := Option.map_eq_some_iff.mp same
      simp only [found, eq]
      exact decide_eq_true (Option.some.inj read)

-----------------------------------------------------------------------------------------
-- Nonces
-----------------------------------------------------------------------------------------

theorem search_eq_some {attempts : Nat} {generator : NonceGenerator}
    (found : search key message attempts generator = some signature)
    : ∃ nonce, nonce ≠ 0 ∧ Made key message nonce signature := by
  induction attempts generalizing generator with
  | zero => cases found
  | succ attempts ih =>
      unfold search at found
      cases tried : (SecretKey.ofBytes? generator.next.1).bind
          (signWith? key message ·.scalar) with
      | none =>
          simp only [tried] at found
          exact ih found
      | some signature =>
          simp only [tried] at found
          cases found
          obtain ⟨candidate, _, made⟩ := Option.bind_eq_some_iff.mp tried
          refine ⟨candidate.scalar, ?_, signWith?_eq_some made⟩
          rw [ne_eq, eq_zero_iff]
          exact candidate.ne_zero

/-- A nonce with a usable abscissa fails only if the answer vanishes. -/
theorem signWith?_eq_none {x : Coordinate}
    (found : (baseMultiple nonce).coordinates?.map (·.1) = some x)
    (usable : (Residue.ofNat x.val : Scalar) ≠ 0) (nonce_ne : nonce ≠ 0)
    (failed : signWith? key message nonce = none)
    : message.toZMod + (x.val : ZMod order) * key.scalar.toZMod = 0 := by
  obtain ⟨coordinates, read, rfl⟩ := Option.map_eq_some_iff.mp found
  unfold signWith? at failed
  rw [read] at failed
  change (if _ ∨ _ then none else if _ then some _ else some _) = none at failed
  have below : order ≤ 2 ^ 256 := by decide
  have refused : nonce.inverse * (message + Residue.ofNat coordinates.1.val * key.scalar) = 0 := by
    split at failed
    · rename_i unusable
      exact unusable.resolve_left usable
    · split at failed <;> cases failed
  rw [← toZMod_eq_zero, toZMod_mul, toZMod_inverse below, mul_eq_zero,
    or_iff_right (inv_ne_zero fun eq => nonce_ne (toZMod_eq_zero.mp eq)), toZMod_add, toZMod_mul,
    toZMod_ofNat] at refused
  exact refused

/-- The abscissa of the base point, -/
theorem coordinates?_one
    : (baseMultiple 1).coordinates?.map (·.1)
        = some (.ofNat 0x79be667ef9dcbbac55a06295ce870b07029bfcdb2dce28d959f2815b16f81798) := by
  have one : (1 : Scalar).val = 1 := Nat.mod_eq_of_lt (by decide)
  have stands := stands_baseMultiple 1
  rw [one, one_nsmul] at stands
  rw [same_abscissa stands stands_base (.inl rfl)]
  decide +kernel

/-- and of its double. -/
theorem coordinates?_two
    : (baseMultiple (1 + 1)).coordinates?.map (·.1)
        = some (.ofNat 0xc6047f9441ed7d6d3045406e95c07cd85c778e4b8cef3ca7abac09b95c709ee5) := by
  have two : (1 + 1 : Scalar).val = 2 := by decide +kernel
  have stands := stands_baseMultiple (1 + 1)
  rw [two] at stands
  rw [same_abscissa stands stands_base.double (.inl (two_nsmul generator))]
  decide +kernel

/-- Two nonces whose points have different abscissas do not both fail: a key would be zero. -/
theorem abscissa_eq_of_none {x y : Coordinate}
    (left : message.toZMod + (x.val : ZMod order) * key.scalar.toZMod = 0)
    (right : message.toZMod + (y.val : ZMod order) * key.scalar.toZMod = 0)
    : (x.val : ZMod order) = y.val := by
  have key_ne : key.scalar.toZMod ≠ 0 := by
    rw [ne_eq, toZMod_eq_zero, eq_zero_iff]
    exact key.ne_zero
  exact mul_right_cancel₀ key_ne (add_left_cancel (left.trans right.symm))

/-- One of the nonces one and two gives a signature: the abscissas of their points differ, so the
answers of both cannot vanish.
-/
theorem small_nonce_usable (key : SecretKey) (message : Scalar)
    : ∃ signature, (signWith? key message 1).or (signWith? key message (1 + 1)) = some signature := by
  cases first : signWith? key message 1 with
  | some signature => exact ⟨signature, rfl⟩
  | none =>
      cases second : signWith? key message (1 + 1) with
      | some signature => exact ⟨signature, rfl⟩
      | none =>
          have one := signWith?_eq_none coordinates?_one (by decide +kernel) (by decide) first
          have two := signWith?_eq_none coordinates?_two (by decide +kernel) (by decide) second
          have same := abscissa_eq_of_none one two
          rw [ZMod.natCast_eq_natCast_iff'] at same
          exact absurd same (by decide +kernel)

/-- The definition of signing as an equation of functions, which is checked without deriving a
nonce.
-/
theorem sign_eq_fun
    : sign = fun key digest =>
        match search key (messageScalar digest) attempts (.start key (messageScalar digest)) with
        | some signature => signature
        | none =>
            ((signWith? key (messageScalar digest) 1).or
              (signWith? key (messageScalar digest) (1 + 1))).getD ⟨1, 1⟩ := by
  delta sign
  rfl

/-- Every signature that is made is the one of some nonce. -/
theorem sign_made (key : SecretKey) (digest : Bytes 32)
    : ∃ nonce, nonce ≠ 0 ∧ Made key (messageScalar digest) nonce (sign key digest) := by
  rw [sign_eq_fun]
  beta_reduce
  generalize messageScalar digest = message
  obtain ⟨fallback, small⟩ := small_nonce_usable key message
  rw [small, Option.getD_some]
  cases found : search key message attempts (.start key message) with
  | some made => exact search_eq_some found
  | none =>
      rcases Option.or_eq_some_iff.mp small with first | second
      · exact ⟨1, by decide, signWith?_eq_some first⟩
      · exact ⟨1 + 1, by decide, signWith?_eq_some second.2⟩

/-- A signature made with a key verifies under its public key. -/
theorem verify_sign (key : SecretKey) (digest : Bytes 32)
    : verify key.publicKey digest (sign key digest) = true := by
  obtain ⟨nonce, usable, made⟩ := sign_made key digest
  exact made.verify usable

end Ecdsa

/-- A transaction that is signed with a key verifies under its public key. -/
theorem SignableTx.verifies_sign (signable : SignableTx) (key : SecretKey)
    : signable.verifies (signable.sign key) key.publicKey = true :=
  Ecdsa.verify_sign key signable.sighash

end PaymentChannel
