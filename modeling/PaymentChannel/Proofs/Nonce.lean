import Mathlib.Logic.Function.Iterate
import Mathlib.Tactic.Ring
import PaymentChannel.Channel.Nonce

/-! Nonces grow along a channel.
Byte strings of one length are ordered as the numbers they spell, so the order of nonces with one
salt is that of their counts. The nonces of a channel count up to the largest count and stay there.
-/

namespace PaymentChannel

-----------------------------------------------------------------------------------------
-- Numbers in the order of their digits
-----------------------------------------------------------------------------------------

/-- A number that was read before counts the numbers that the further digits spell, by induction on
them.
-/
theorem foldl_ofBigEndian (bytes : List UInt8) (start : Nat)
    : bytes.foldl (fun value byte => value * 256 + byte.toNat) start
      = start * 256 ^ bytes.length + ofBigEndian bytes := by
  induction bytes generalizing start with
  | nil => simp [ofBigEndian]
  | cons head rest ih =>
      rw [ofBigEndian, List.foldl_cons, List.foldl_cons, ih, ih (0 * 256 + head.toNat),
        List.length_cons, Nat.pow_succ]
      ring

theorem ofBigEndian_cons (byte : UInt8) (bytes : List UInt8)
    : ofBigEndian (byte :: bytes) = byte.toNat * 256 ^ bytes.length + ofBigEndian bytes := by
  rw [ofBigEndian, List.foldl_cons, foldl_ofBigEndian, Nat.zero_mul, Nat.zero_add]

theorem ofBigEndian_append (left right : List UInt8)
    : ofBigEndian (left ++ right) = ofBigEndian left * 256 ^ right.length + ofBigEndian right := by
  rw [ofBigEndian, List.foldl_append, foldl_ofBigEndian]
  rfl

/-- Digits spell less than the least number with one digit more. -/
theorem ofBigEndian_lt (bytes : List UInt8) : ofBigEndian bytes < 256 ^ bytes.length := by
  induction bytes with
  | nil => simp [ofBigEndian]
  | cons head rest ih =>
      have digit : head.toNat + 1 ≤ 256 := head.toNat_lt
      have below := Nat.mul_le_mul_right (256 ^ rest.length) digit
      rw [ofBigEndian_cons, List.length_cons, Nat.pow_succ']
      rw [Nat.add_mul] at below
      omega

/-- Digits are the written form of the number that they spell, by induction on them. -/
theorem littleEndian_ofBigEndian (bytes : List UInt8)
    : littleEndian bytes.length (ofBigEndian bytes.reverse) = bytes := by
  induction bytes with
  | nil => rfl
  | cons first rest ih =>
      have below := first.toNat_lt
      have spelled : ofBigEndian (first :: rest).reverse
          = ofBigEndian rest.reverse * 256 + first.toNat := by
        simp [ofBigEndian]
      have digit : UInt8.ofNat (ofBigEndian (first :: rest).reverse) = first := by
        rw [spelled, ← UInt8.toNat_inj, UInt8.toNat_ofNat']
        omega
      have others : ofBigEndian (first :: rest).reverse / 256 = ofBigEndian rest.reverse := by
        omega
      rw [List.length_cons, littleEndian, digit, others, ih]

theorem bigEndian_ofBigEndian (bytes : List UInt8)
    : bigEndian bytes.length (ofBigEndian bytes) = bytes := by
  have digits := littleEndian_ofBigEndian bytes.reverse
  rw [List.reverse_reverse, List.length_reverse] at digits
  rw [bigEndian, digits, List.reverse_reverse]

/-- Numbers are compared by their first digits, and by the others if these are the same. -/
theorem compare_digits {base first second left right : Nat} (leftFits : left < base)
    (rightFits : right < base)
    : compare (first * base + left) (second * base + right)
      = (compare first second).then (compare left right) := by
  rcases Nat.lt_trichotomy first second with less | rfl | more
  · have below := Nat.mul_le_mul_right base less
    rw [Nat.succ_mul] at below
    rw [Nat.compare_eq_lt.2 less, Nat.compare_eq_lt.2 (by omega)]
    rfl
  · rw [Nat.compare_eq_eq.2 rfl, Ordering.eq_then]
    simp [Nat.compare_eq_ite_lt]
  · have below := Nat.mul_le_mul_right base more
    rw [Nat.succ_mul] at below
    rw [Nat.compare_eq_gt.2 more, Nat.compare_eq_gt.2 (by omega)]
    rfl

theorem compare_toNat (left right : UInt8)
    : compare left right = compare left.toNat right.toNat := by
  rcases Nat.lt_trichotomy left.toNat right.toNat with less | same | more
  · rw [Nat.compare_eq_lt.2 less, Std.compare_eq_lt]
    exact UInt8.lt_iff_toNat_lt.2 less
  · rw [UInt8.toNat_inj.1 same, Std.ReflOrd.compare_self, Std.ReflOrd.compare_self]
  · rw [Nat.compare_eq_gt.2 more, Std.compare_eq_gt]
    exact UInt8.lt_iff_toNat_lt.2 more

/-- Byte strings of one length are ordered as the numbers they spell, by induction on both. -/
theorem compare_ofBigEndian {left right : List UInt8} (same : left.length = right.length)
    : compare left right = compare (ofBigEndian left) (ofBigEndian right) := by
  induction left generalizing right with
  | nil =>
      obtain rfl := List.eq_nil_of_length_eq_zero same.symm
      rfl
  | cons head rest ih =>
      cases right with
      | nil => cases same
      | cons first others =>
          have same : rest.length = others.length := Nat.succ.inj same
          have fits := ofBigEndian_lt others
          rw [← same] at fits
          rw [List.compare_cons_cons, ih same, compare_toNat, ofBigEndian_cons, ofBigEndian_cons,
            ← same, compare_digits (ofBigEndian_lt rest) fits]

-----------------------------------------------------------------------------------------
-- Nonces
-----------------------------------------------------------------------------------------

namespace Nonce

variable (nonce : Nonce)

/-- A nonce is its salt followed by its count. -/
theorem toList_eq
    : nonce.bytes.toList = nonce.salt.toList ++ nonce.bytes.toList.drop 8 :=
  (List.take_append_drop 8 nonce.bytes.toList).symm

theorem count_lt : nonce.count < UInt64.size := by
  have fits := ofBigEndian_lt (nonce.bytes.toList.drop 8)
  rw [List.length_drop, nonce.bytes.length_toList] at fits
  exact fits

/-- The number that all bytes of a nonce spell. -/
theorem toNat_bytes : nonce.bytes.toNat = nonce.salt.toNat * UInt64.size + nonce.count := by
  rw [Bytes.toNat, toList_eq, ofBigEndian_append, List.length_drop, nonce.bytes.length_toList]
  rfl

/-- Nonces with one salt are ordered by their counts. -/
theorem compare_eq {other : Nonce} (salt : other.salt = nonce.salt)
    : compare nonce other = compare nonce.count other.count := by
  change compare nonce.bytes.toList other.bytes.toList = _
  rw [compare_ofBigEndian (nonce.bytes.length_toList.trans other.bytes.length_toList.symm)]
  change compare nonce.bytes.toNat other.bytes.toNat = _
  rw [toNat_bytes, toNat_bytes, salt, compare_digits nonce.count_lt other.count_lt,
    Std.ReflOrd.compare_self, Ordering.eq_then]

@[simp] theorem salt_ofParts (salt : Bytes 8) (count : Nat) : (ofParts salt count).salt = salt := by
  ext1
  exact List.take_left' salt.length_toList

theorem count_ofParts {salt : Bytes 8} {count : Nat} (fits : count < UInt64.size)
    : (ofParts salt count).count = count := by
  rw [Nonce.count, ofParts, List.drop_left' salt.length_toList]
  exact ofBigEndian_bigEndian fits

theorem salt_first (salt : Bytes 8) : (first salt).salt = salt := salt_ofParts salt 0

theorem count_first (salt : Bytes 8) : (first salt).count = 0 := count_ofParts (by decide)

/-- A nonce is determined by its salt and its count. -/
theorem eq_of_parts {nonce other : Nonce} (salt : other.salt = nonce.salt)
    (count : other.count = nonce.count)
    : other = nonce := by
  have order := compare_eq nonce salt
  rw [count, Std.ReflOrd.compare_self] at order
  exact (Std.LawfulEqOrd.eq_of_compare order).symm

@[simp] theorem salt_next : nonce.next.salt = nonce.salt := salt_ofParts _ _

/-- The next nonce counts one more, up to the largest count. -/
theorem count_next_eq_min : nonce.next.count = min (nonce.count + 1) (UInt64.size - 1) := by
  have fits := nonce.count_lt
  exact count_ofParts (by omega)

/-- A nonce repeats exactly if its count is the largest. -/
theorem next_eq_iff : nonce.next = nonce ↔ nonce.count = UInt64.size - 1 := by
  have fits := nonce.count_lt
  have counted := nonce.count_next_eq_min
  constructor
  · intro same
    rw [same] at counted
    omega
  · intro largest
    exact eq_of_parts nonce.salt_next (by omega)

/-- The next nonce counts one more, unless the count is the largest already. -/
theorem count_next (fresh : nonce.next ≠ nonce) : nonce.next.count = nonce.count + 1 := by
  have fits := nonce.count_lt
  have counted := nonce.count_next_eq_min
  rw [ne_eq, next_eq_iff] at fresh
  omega

/-- A count that is not the largest one grows. -/
theorem next_ne {nonce : Nonce} (small : nonce.count + 1 < UInt64.size) : nonce.next ≠ nonce := by
  rw [ne_eq, next_eq_iff]
  omega

/-- Nonces grow. -/
theorem lt_next (fresh : nonce.next ≠ nonce) : compare nonce nonce.next = .lt := by
  rw [compare_eq nonce nonce.salt_next, nonce.count_next fresh, Nat.compare_eq_lt]
  exact Nat.lt_succ_self _

-----------------------------------------------------------------------------------------
-- Chains of nonces
-----------------------------------------------------------------------------------------

/-- No number of payments changes the salt. -/
theorem salt_iterate (steps : Nat) : (next^[steps] nonce).salt = nonce.salt := by
  induction steps with
  | zero => rfl
  | succ steps ih => rw [Function.iterate_succ_apply', salt_next, ih]

/-- The counts of a chain go up by one with each step and stay at the largest count, by induction on
the steps.
-/
theorem count_iterate (steps : Nat)
    : (next^[steps] nonce).count = min (nonce.count + steps) (UInt64.size - 1) := by
  induction steps with
  | zero =>
      have fits := nonce.count_lt
      rw [Function.iterate_zero_apply]
      omega
  | succ steps ih =>
      rw [Function.iterate_succ_apply', count_next_eq_min, ih]
      omega

/-- A chain meets a nonce again only at its end. -/
theorem iterate_eq_iff {first second : Nat}
    : next^[first] nonce = next^[second] nonce
      ↔ first = second
        ∨ UInt64.size - 1 ≤ nonce.count + first ∧ UInt64.size - 1 ≤ nonce.count + second := by
  have reaches := nonce.count_iterate first
  have also := nonce.count_iterate second
  constructor
  · intro same
    rw [same] at reaches
    omega
  · intro meets
    refine eq_of_parts ?_ (by omega)
    rw [salt_iterate, salt_iterate]

/-- The nonces that follow a nonce keep its salt, and they count up to the largest count, where they
stay. Nonces with one salt are ordered by their counts. So the next nonce is larger exactly if the
count is not the largest, and otherwise it is the same one. The nonces of a chain are different
until the largest count is reached.
-/
theorem chain_counts_up (nonce : Nonce)
    : (∀ steps, (next^[steps] nonce).salt = nonce.salt
        ∧ (next^[steps] nonce).count = min (nonce.count + steps) (UInt64.size - 1))
      ∧ (∀ other : Nonce, other.salt = nonce.salt
        → compare nonce other = compare nonce.count other.count)
      ∧ (compare nonce.next nonce = .gt ↔ nonce.count < UInt64.size - 1)
      ∧ (nonce.next = nonce ↔ ¬nonce.count < UInt64.size - 1)
      ∧ ∀ first second, next^[first] nonce = next^[second] nonce
        ↔ first = second
          ∨ UInt64.size - 1 ≤ nonce.count + first ∧ UInt64.size - 1 ≤ nonce.count + second := by
  have fits := nonce.count_lt
  refine ⟨fun steps => ⟨nonce.salt_iterate steps, nonce.count_iterate steps⟩,
    fun other salt => nonce.compare_eq salt, ?_, ?_, fun first second => nonce.iterate_eq_iff⟩
  · rw [Std.OrientedCmp.gt_iff_lt, nonce.compare_eq nonce.salt_next, Nat.compare_eq_lt,
      count_next_eq_min]
    omega
  · rw [next_eq_iff]
    omega

/-- A nonce of which two more payments are left. -/
def nearlyExhausted : Nonce := ofParts (.ofNat 8 1) (UInt64.size - 3)

/-- The chain of such a nonce grows twice, which is seen in its order after the first nonce of the
channel, and repeats from then on.
-/
theorem chain_counts_up_exhausted
    : compare nearlyExhausted (first nearlyExhausted.salt) = .gt
      ∧ next^[1] nearlyExhausted ≠ next^[2] nearlyExhausted
      ∧ next^[2] nearlyExhausted = next^[5] nearlyExhausted
      ∧ (next^[5] nearlyExhausted).count = UInt64.size - 1 := by
  have left : nearlyExhausted.count = UInt64.size - 3 := count_ofParts (by decide)
  obtain ⟨steps, ordered, -, -, meets⟩ := chain_counts_up nearlyExhausted
  refine ⟨?_, ?_, (meets 2 5).2 (.inr ?_), ?_⟩
  · rw [ordered _ (salt_first _), left, count_first]
    decide
  · intro same
    have again := (meets 1 2).1 same
    rw [left] at again
    revert again
    decide
  · rw [left]
    decide
  · rw [(steps 5).2, left]
    decide

end Nonce

end PaymentChannel
