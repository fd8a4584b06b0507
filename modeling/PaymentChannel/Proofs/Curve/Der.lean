import PaymentChannel.Curve.Signature

/-! Signatures read back from their distinguished form. -/

namespace PaymentChannel

open Curve

-----------------------------------------------------------------------------------------
-- Integers
-----------------------------------------------------------------------------------------

namespace Signature

/-- An integer of a signature is written with no more bytes than it needs, and is not negative. -/
def isNatural (bytes : List UInt8) : Bool :=
  isShortest bytes && bytes.headD 0 < 0x80

/-- Zeros in front do not change a number. -/
theorem ofBigEndian_trimZeros (bytes : List UInt8)
    : ofBigEndian (trimZeros bytes) = ofBigEndian bytes := by
  induction bytes with
  | nil => rfl
  | cons byte rest ih =>
      unfold trimZeros at ih ⊢
      rw [List.dropWhile_cons]
      split
      case isTrue zero =>
        rw [ih, eq_of_beq zero]
        rfl
      case isFalse => rfl

/-- The first byte after the zeros in front is not zero. -/
theorem trimZeros_eq_cons {bytes rest : List UInt8} {first : UInt8}
    (trimmed : trimZeros bytes = first :: rest)
    : first ≠ 0 := by
  have head := List.head?_dropWhile_not (· == 0) bytes
  rw [show bytes.dropWhile (· == 0) = first :: rest from trimmed] at head
  simpa using head

theorem ofBigEndian_integerBytes (bytes : List UInt8)
    : ofBigEndian (integerBytes bytes) = ofBigEndian bytes := by
  rw [← ofBigEndian_trimZeros bytes]
  unfold integerBytes
  split
  case h_1 none =>
    rw [none]
    rfl
  case h_2 first rest trimmed =>
    rw [trimmed]
    split
    · rfl
    · simp [ofBigEndian]

theorem isNatural_integerBytes (bytes : List UInt8) : isNatural (integerBytes bytes) = true := by
  unfold integerBytes
  split
  case h_1 => rfl
  case h_2 first rest trimmed =>
    have nonzero := trimZeros_eq_cons trimmed
    split
    case isTrue low =>
      have notLast : first ≠ 0xff := by
        rintro rfl
        revert low
        decide
      cases rest with
      | nil => simp [isNatural, isShortest, low]
      | cons => simp [isNatural, isShortest, low, nonzero, notLast]
    case isFalse high =>
      simp [isNatural, isShortest, high]

/-- A sign takes one more byte. -/
theorem length_integerBytes (bytes : List UInt8)
    : (integerBytes bytes).length ≤ bytes.length + 1 := by
  have shorter : (trimZeros bytes).length ≤ bytes.length :=
    (List.dropWhile_sublist _).length_le
  unfold integerBytes
  split
  case h_1 => simp
  case h_2 first rest trimmed =>
    rw [trimmed] at shorter
    split
    · exact Nat.le_succ_of_le shorter
    · exact Nat.succ_le_succ shorter

-----------------------------------------------------------------------------------------
-- Elements
-----------------------------------------------------------------------------------------

theorem splitElement?_element (tag : UInt8) {content : List UInt8} (rest : List UInt8)
    (short : content.length < 0x80)
    : splitElement? tag (element tag content ++ rest) = some (content, rest) := by
  have length : (UInt8.ofNat content.length).toNat = content.length := by
    rw [UInt8.toNat_ofNat']
    omega
  have below : UInt8.ofNat content.length < 0x80 := by
    rw [UInt8.lt_iff_toNat_lt, length]
    exact short
  simp [element, splitElement?, length, below]

/-- A scalar of a signature is read back from its integer. -/
theorem scalarOfInteger?_integerBytes (scalar : Scalar)
    : scalarOfInteger? (integerBytes (Bytes.ofNat 32 scalar.val).toList) = some scalar := by
  have natural := isNatural_integerBytes (Bytes.ofNat 32 scalar.val).toList
  rw [isNatural, Bool.and_eq_true, decide_eq_true_eq] at natural
  have below : scalar.val < Nat.pow 256 32 := Nat.lt_of_lt_of_le scalar.val_lt (by decide)
  have value : ofBigEndian (integerBytes (Bytes.ofNat 32 scalar.val).toList) = scalar.val := by
    rw [ofBigEndian_integerBytes]
    exact ofBigEndian_bigEndian below
  rw [scalarOfInteger?, if_pos natural.1, if_pos natural.2, value, Residue.ofNat?,
    dif_pos scalar.val_lt]
  rfl

-----------------------------------------------------------------------------------------
-- Signatures in witnesses
-----------------------------------------------------------------------------------------

/-- The longest signature of a witness, in bytes. -/
def maxWitnessLength : Nat := 73

/-- Reads a signature of a witness, which ends with the hash type. The form is that of BIP 66: two
natural numbers that take no more bytes than they need. A number past the order is no mistake of
form, but zero in its place verifies nothing.
-/
def ofWitness? (bytes : List UInt8) : Option (Signature × UInt8) := do
  let hashType ← bytes.getLast?
  let (content, after) ← splitElement? 0x30 bytes.dropLast
  let (rPart, rest) ← splitElement? 2 content
  let (sPart, leftover) ← splitElement? 2 rest
  let r ← scalarOfInteger? rPart
  let s ← scalarOfInteger? sPart
  if after = [] ∧ leftover = [] ∧ isNatural rPart ∧ isNatural sPart
      ∧ bytes.length ≤ maxWitnessLength then some (⟨r, s⟩, hashType)
  else none

theorem length_scalarInteger (scalar : Scalar)
    : (integerBytes (Bytes.ofNat 32 scalar.val).toList).length ≤ 33 := by
  have long := length_integerBytes (Bytes.ofNat 32 scalar.val).toList
  rwa [Bytes.length_toList] at long

theorem length_element (tag : UInt8) (content : List UInt8)
    : (element tag content).length = content.length + 2 := rfl

theorem length_toDer (signature : Signature) : signature.toDer.length ≤ maxDerLength := by
  have rLong := length_scalarInteger signature.r
  have sLong := length_scalarInteger signature.s
  simp only [toDer, rBytes, sBytes, List.length_append, length_element, maxDerLength]
  omega

/-- A signature is read back from its distinguished form. -/
theorem ofWitness?_toDer (signature : Signature) (hashType : UInt8)
    : ofWitness? (signature.toDer ++ [hashType]) = some (signature, hashType) := by
  have rLong := length_scalarInteger signature.r
  have sLong := length_scalarInteger signature.s
  have both : (element 2 (integerBytes signature.rBytes.toList)
      ++ element 2 (integerBytes signature.sBytes.toList)).length < 0x80 := by
    simp only [List.length_append, length_element, rBytes, sBytes]
    omega
  have whole : splitElement? 0x30 signature.toDer = _ :=
    List.append_nil signature.toDer ▸ splitElement?_element 0x30 [] both
  have first := splitElement?_element 2 (element 2 (integerBytes signature.sBytes.toList))
    (Nat.lt_of_le_of_lt rLong (by decide))
  have second := splitElement?_element 2 [] (Nat.lt_of_le_of_lt sLong (by decide))
  simp only [rBytes, sBytes, List.append_nil] at whole first second
  have short : (signature.toDer ++ [hashType]).length ≤ maxWitnessLength := by
    rw [List.length_append]
    exact Nat.succ_le_succ signature.length_toDer
  simp only [ofWitness?, List.getLast?_append, List.getLast?_singleton, List.dropLast_concat, whole,
    first, second, short, scalarOfInteger?_integerBytes, isNatural_integerBytes,
    Option.bind_eq_bind, Option.bind_some, Option.some_or, true_and, if_true]

end Signature

end PaymentChannel
