import PaymentChannel.Revocation

/-! What the checks of a revocation say. -/

namespace PaymentChannel

@[simp] theorem RevLockCom.opensWith_eq_true {commitment : RevLockCom} {lock : RevLock}
    {blinding : BlindingFactor}
    : commitment.opensWith lock blinding = true ↔ commit lock blinding = commitment := by
  simp [opensWith]

/-- A revocation verifies if its secret opens its lock and its lock opens its commitment. -/
theorem RevokedState.verify_eq_true {revoked : RevokedState}
    : revoked.verify = true
      ↔ revoked.secret.lock = revoked.lock
        ∧ RevLockCom.commit revoked.lock revoked.blinding = revoked.commitment := by
  simp [verify]

end PaymentChannel
