import PaymentChannel.Channel.Nonce
import PaymentChannel.Hash.Sha256
import PaymentChannel.Template.Lock

/-! Revocation of channel states.
A state carries the hash of a secret. To move on the customer first commits to that lock and later
reveals the secret together with the opening of the commitment, after which a closing transaction
of the state can be punished.
-/

namespace PaymentChannel

/-- The secret behind a revocation lock. -/
structure RevSecret where
  bytes : Bytes 32
deriving DecidableEq

/-- The lock that a secret opens. -/
def RevSecret.lock (secret : RevSecret) : RevLock :=
  ⟨sha256 secret.bytes.toList⟩

/-- The randomness that hides a lock inside of its commitment. -/
structure BlindingFactor where
  bytes : Bytes 32
deriving DecidableEq

/-- A hiding commitment to a lock. -/
structure RevLockCom where
  bytes : Bytes 32
deriving DecidableEq

namespace RevLockCom

/-- What is hashed into a commitment. -/
def preimage (lock : RevLock) (blinding : BlindingFactor) : List UInt8 :=
  lock.bytes.toList ++ blinding.bytes.toList

/-- The commitment to a lock under a blinding factor. -/
def commit (lock : RevLock) (blinding : BlindingFactor) : RevLockCom :=
  ⟨sha256 (preimage lock blinding)⟩

/-- Whether the commitment was made to the lock under the blinding factor. -/
def opensWith (commitment : RevLockCom) (lock : RevLock) (blinding : BlindingFactor) : Bool :=
  commit lock blinding = commitment

end RevLockCom

/-- The revocation of a state, as the customer sends it to the merchant. -/
structure RevokedState where
  /-- The nonce of the revoked state. -/
  nonce : Nonce
  commitment : RevLockCom
  lock : RevLock
  secret : RevSecret
  blinding : BlindingFactor
deriving DecidableEq

/-- Whether the secret opens the lock and the lock opens the commitment. -/
def RevokedState.verify (revoked : RevokedState) : Bool :=
  revoked.secret.lock = revoked.lock
    && revoked.commitment.opensWith revoked.lock revoked.blinding

end PaymentChannel
