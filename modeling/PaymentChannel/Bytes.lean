/-! Byte strings of a known length and the byte orders of numbers.
Keys, hashes, identifiers and secrets are all byte strings of a length fixed by their type, so
joining them never loses where one ends and the next begins.
-/

namespace PaymentChannel

/-- The low `width` bytes of a number, the least significant one first. -/
def littleEndian : (width value : Nat) → List UInt8
  | 0, _ => []
  | width + 1, value => UInt8.ofNat value :: littleEndian width (value / 256)

/-- The low `width` bytes of a number, the most significant one first. -/
def bigEndian (width value : Nat) : List UInt8 :=
  (littleEndian width value).reverse

/-- The number whose digits in base 256 are the bytes, the most significant one first. -/
def ofBigEndian (bytes : List UInt8) : Nat :=
  bytes.foldl (fun value byte => value * 256 + byte.toNat) 0

@[simp] theorem length_littleEndian (width value : Nat)
    : (littleEndian width value).length = width := by
  induction width generalizing value with
  | zero => rfl
  | succ width ih => simp [littleEndian, ih]

@[simp] theorem length_bigEndian (width value : Nat)
    : (bigEndian width value).length = width := by
  simp [bigEndian]

/-- Reading back a number that fits its width gives the number.
Witness: induction on the width, peeling the least significant digit.
-/
theorem ofBigEndian_bigEndian {width value : Nat} (fits : value < Nat.pow 256 width)
    : ofBigEndian (bigEndian width value) = value := by
  induction width generalizing value with
  | zero => simp_all [bigEndian, littleEndian, ofBigEndian]
  | succ width ih =>
      have below : value / 256 < Nat.pow 256 width :=
        Nat.div_lt_of_lt_mul (by rw [Nat.mul_comm]; exact fits)
      have step := ih below
      simp only [ofBigEndian, bigEndian, littleEndian, List.reverse_cons, List.foldl_append,
        List.foldl_cons, List.foldl_nil] at step ⊢
      rw [step, UInt8.toNat_ofNat']
      omega

/-- Numbers that fit a width are told apart by their bytes. -/
theorem bigEndian_inj {width left right : Nat} (leftFits : left < Nat.pow 256 width)
    (rightFits : right < Nat.pow 256 width)
    : bigEndian width left = bigEndian width right ↔ left = right := by
  refine ⟨fun same => ?_, congrArg (bigEndian width)⟩
  rw [← ofBigEndian_bigEndian leftFits, same, ofBigEndian_bigEndian rightFits]

/-- A string of exactly `length` bytes. -/
structure Bytes (length : Nat) where
  toList : List UInt8
  length_toList : toList.length = length
deriving DecidableEq

namespace Bytes

@[ext] theorem ext {n : Nat} : {left right : Bytes n} → left.toList = right.toList → left = right
  | ⟨_, _⟩, ⟨_, _⟩, rfl => rfl

theorem toList_inj {n : Nat} {left right : Bytes n} : left.toList = right.toList ↔ left = right :=
  ⟨ext, congrArg toList⟩

/-- A string of known length at the front is told apart from what follows it. -/
theorem append_inj {n : Nat} {left right : Bytes n} {rest other : List UInt8}
    : left.toList ++ rest = right.toList ++ other ↔ left = right ∧ rest = other := by
  have lengths : left.toList.length = right.toList.length := by
    rw [left.length_toList, right.length_toList]
  rw [List.append_eq_append_iff_of_size_eq_left lengths, toList_inj]

/-- Byte strings are ordered by their first difference. -/
instance {n : Nat} : Ord (Bytes n) := ⟨compareOn toList⟩

instance {n : Nat} : Std.TransOrd (Bytes n) :=
  inferInstanceAs (Std.TransCmp (compareOn toList))

instance {n : Nat} : Std.LawfulEqOrd (Bytes n) where
  compare_self {value} :=
    @Std.ReflCmp.compare_self _ (compare : List UInt8 → _ → _) _ value.toList
  eq_of_compare same := ext (Std.LawfulEqOrd.eq_of_compare same)

/-- The bytes as a string of length `n`, provided there are exactly `n` of them. -/
def ofList? (n : Nat) (bytes : List UInt8) : Option (Bytes n) :=
  if exact : bytes.length = n then some ⟨bytes, exact⟩ else none

/-- A string of equal bytes. -/
def replicate (n : Nat) (byte : UInt8) : Bytes n :=
  ⟨List.replicate n byte, by simp⟩

/-- The string read backwards. -/
def reverse {n : Nat} (bytes : Bytes n) : Bytes n :=
  ⟨bytes.toList.reverse, by simp [bytes.length_toList]⟩

/-- The bitwise difference of two strings, which one of them undoes. -/
def xor {n : Nat} (left right : Bytes n) : Bytes n :=
  ⟨List.zipWith (· ^^^ ·) left.toList right.toList, by
    simp [left.length_toList, right.length_toList]⟩

/-- The number whose digits are the bytes, the most significant one first. -/
def toNat {n : Nat} (bytes : Bytes n) : Nat :=
  ofBigEndian bytes.toList

/-- The low `n` bytes of a number, the most significant one first. -/
def ofNat (n value : Nat) : Bytes n :=
  ⟨bigEndian n value, by simp⟩

@[simp] theorem ofList?_toList {n : Nat} (bytes : Bytes n)
    : ofList? n bytes.toList = some bytes := by
  simp [ofList?, bytes.length_toList]

@[simp] theorem reverse_reverse {n : Nat} (bytes : Bytes n) : bytes.reverse.reverse = bytes := by
  ext1
  simp [reverse]

end Bytes

end PaymentChannel
