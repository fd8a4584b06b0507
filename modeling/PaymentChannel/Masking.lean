import PaymentChannel.Channel.State
import PaymentChannel.Curve.Signature

/-! Masks that keep signatures and pay tokens useless until they are released.
A mask is the bitwise difference to a random string. Of a signature only the scalar `s` is masked.
The mask of a pay token is committed to before the masked token is computed.
-/

namespace PaymentChannel

/-- A mask of one signature. -/
structure SigMask where
  bytes : Bytes 32
deriving DecidableEq

/-- The masks of the signatures of both customer-close transactions. -/
structure TxMasks where
  escrow : SigMask
  merchantClose : SigMask
deriving DecidableEq

/-- The mask for the transaction that spends a source. -/
def TxMasks.of (masks : TxMasks) : CloseSource → SigMask
  | .escrow => masks.escrow
  | .merchantClose => masks.merchantClose

/-- A signature with its scalar `s` masked. -/
structure MaskedSignature where
  r : Bytes 32
  maskedS : Bytes 32
deriving DecidableEq

namespace MaskedSignature

/-- Masks a signature. -/
def mask (signature : Signature) (mask : SigMask) : MaskedSignature :=
  ⟨signature.rBytes, signature.sBytes.xor mask.bytes⟩

/-- Takes the mask off, which fails when a scalar comes out too large. -/
def unmask? (masked : MaskedSignature) (mask : SigMask) : Option Signature :=
  Signature.ofCompact? masked.r (masked.maskedS.xor mask.bytes)

end MaskedSignature

/-- A mask of a pay token. -/
structure PayTokenMask where
  bytes : Bytes 32
deriving DecidableEq

/-- The randomness of a commitment to a pay token mask. -/
structure PayMaskRandomness where
  bytes : Bytes 16
deriving DecidableEq

/-- A commitment to a pay token mask. -/
structure PayMaskCom where
  bytes : Bytes 32
deriving DecidableEq

namespace PayMaskCom

/-- What is hashed into a commitment. -/
def preimage (mask : PayTokenMask) (randomness : PayMaskRandomness) : List UInt8 :=
  mask.bytes.toList ++ randomness.bytes.toList

/-- The commitment to a mask. -/
def commit (mask : PayTokenMask) (randomness : PayMaskRandomness) : PayMaskCom :=
  ⟨sha256 (preimage mask randomness)⟩

end PayMaskCom

/-- The opening of a commitment to a pay token mask. -/
structure PayMaskOpening where
  mask : PayTokenMask
  randomness : PayMaskRandomness
deriving DecidableEq

/-- Whether the opening belongs to a commitment. -/
def PayMaskOpening.opens (opening : PayMaskOpening) (commitment : PayMaskCom) : Bool :=
  PayMaskCom.commit opening.mask opening.randomness = commitment

/-- A pay token under a mask. -/
structure MaskedPayToken where
  bytes : Bytes 32
deriving DecidableEq

namespace MaskedPayToken

/-- Masks a pay token. -/
def mask (token : PayToken) (mask : PayTokenMask) : MaskedPayToken :=
  ⟨token.bytes.xor mask.bytes⟩

/-- Takes the mask off. -/
def unmask (masked : MaskedPayToken) (mask : PayTokenMask) : PayToken :=
  ⟨masked.bytes.xor mask.bytes⟩

end MaskedPayToken

/-- What the customer receives from the masking service. -/
structure MaskedOutputs where
  escrow : MaskedSignature
  merchantClose : MaskedSignature
  payToken : MaskedPayToken
deriving DecidableEq

/-- Why the masking service gave no result. Neither party has changed then, so the payment can be
tried again.
-/
inductive ServiceError
  | timeout (milliseconds : Nat)
  | unavailable (reason : String)
  | rejected (reason : String)
deriving DecidableEq

/-- What is told about the error. -/
def ServiceError.message : ServiceError → String
  | .timeout milliseconds => s!"payment token service did not respond within {milliseconds} ms"
  | .unavailable reason => "payment token service is unavailable: " ++ reason
  | .rejected reason => "payment token service rejected masking inputs: " ++ reason

end PaymentChannel
