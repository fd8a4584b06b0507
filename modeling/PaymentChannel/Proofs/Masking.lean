import PaymentChannel.Masking
import Mathlib.Data.List.Basic

/-! What was masked is found again under its mask. -/

namespace PaymentChannel

namespace Bytes

variable {n : Nat}

/-- A difference taken twice is none. -/
@[simp] theorem xor_xor (bytes mask : Bytes n) : (bytes.xor mask).xor mask = bytes := by
  have length : mask.toList.length = bytes.toList.length := by
    rw [mask.length_toList, bytes.length_toList]
  apply Bytes.ext
  apply List.ext_getElem
  · simp [xor, length]
  · intro i _ _
    simp only [xor, List.getElem_zipWith]
    rw [UInt8.xor_assoc, UInt8.xor_self, UInt8.xor_zero]

theorem toNat_ofNat {value : Nat} (fits : value < Nat.pow 256 n) : (ofNat n value).toNat = value :=
  ofBigEndian_bigEndian fits

end Bytes

open Curve

theorem Signature.ofCompact?_bytes (signature : Signature)
    : ofCompact? signature.rBytes signature.sBytes = some signature := by
  have fits : ∀ scalar : Scalar, scalar.val < Nat.pow 256 32 := fun scalar =>
    Nat.lt_of_lt_of_le scalar.val_lt (by decide)
  simp [ofCompact?, rBytes, sBytes, Bytes.toNat_ofNat (fits _), Residue.ofNat?, Residue.val_lt]

/-- A signature is found again under its mask. -/
@[simp] theorem MaskedSignature.unmask?_mask (signature : Signature) (cover : SigMask)
    : (mask signature cover).unmask? cover = some signature := by
  simp [mask, unmask?, Signature.ofCompact?_bytes]

/-- A pay token is found again under its mask. -/
@[simp] theorem MaskedPayToken.unmask_mask (token : PayToken) (cover : PayTokenMask)
    : (mask token cover).unmask cover = token := by
  simp [mask, unmask]

end PaymentChannel
