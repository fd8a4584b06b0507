import PaymentChannel.Params
import PaymentChannel.Proofs.Template

/-! What terms have to be like to be acceptable, and what they ask of a merchant. -/

namespace PaymentChannel

/-- Both reserves are worth an output, closing parties wait, and the fees of close transactions are
within the bounds.
-/
structure ChannelParams.Acceptable (params : ChannelParams) : Prop where
  selfDelay : params.selfDelay ≠ 0
  dustLimit : leastDustLimit ≤ params.dustLimit
  customerReserve : params.dustLimit ≤ params.fees.customerReserve
  merchantReserve : params.dustLimit ≤ params.fees.merchantReserve
  customerCloseFee : params.fees.leastFee ≤ params.fees.customerCloseFee
    ∧ params.fees.customerCloseFee ≤ params.fees.greatestFee
  merchantCloseFee : params.fees.leastFee ≤ params.fees.merchantCloseFee
    ∧ params.fees.merchantCloseFee ≤ params.fees.greatestFee

/-- The bounds of fees leave room for one wherever a fee lies within them. -/
theorem FeeSchedule.validate_eq_ok {fees : FeeSchedule} {answer : Unit}
    : fees.validate = .ok answer
      ↔ (fees.leastFee ≤ fees.customerCloseFee ∧ fees.customerCloseFee ≤ fees.greatestFee)
        ∧ (fees.leastFee ≤ fees.merchantCloseFee ∧ fees.merchantCloseFee ≤ fees.greatestFee) := by
  simp only [validate, Outcome.bind_eq_ok, Outcome.ensure_eq_ok, Outcome.exists_unit, checkFee_eq_ok,
    Outcome.pure_eq_ok]
  constructor
  · rintro ⟨-, _, ⟨customer, -⟩, _, ⟨merchant, -⟩, -⟩
    exact ⟨customer, merchant⟩
  · rintro ⟨customer, merchant⟩
    exact ⟨UInt64.le_trans customer.1 customer.2, _, ⟨customer, rfl⟩, _, ⟨merchant, rfl⟩, trivial⟩

theorem ChannelParams.validate_eq_ok {params : ChannelParams} {answer : Unit}
    : params.validate = .ok answer ↔ params.Acceptable := by
  simp only [validate, Outcome.bind_eq_ok, Outcome.ensure_eq_ok, Outcome.exists_unit,
    Outcome.mapRefusal_eq_ok, FeeSchedule.validate_eq_ok]
  constructor
  · rintro ⟨delay, dust, customer, merchant, customerFee, merchantFee⟩
    exact ⟨delay, dust, customer, merchant, customerFee, merchantFee⟩
  · rintro ⟨delay, dust, customer, merchant, customerFee, merchantFee⟩
    exact ⟨delay, dust, customer, merchant, customerFee, merchantFee⟩

/-- What the merchant has to put into a channel: its reserve and all that a merchant-close transaction
takes.
-/
def FeeSchedule.openingMinimum (fees : FeeSchedule) : Nat :=
  fees.merchantReserve.toNat + fees.merchantCloseFee.toNat + fees.anchorValue.toNat

theorem ChannelParams.merchantMinimum_eq_ok {ε : Type} {params : ChannelParams} {minimum : Sat}
    : (params.merchantMinimum : Outcome ε Sat) = .ok minimum
      ↔ minimum.toNat = params.fees.openingMinimum := by
  simp only [merchantMinimum, FeeSchedule.merchantCloseDeduction, Outcome.bind_eq_ok,
    Sat.add_eq_ok, FeeSchedule.openingMinimum]
  constructor
  · rintro ⟨_, ⟨fits, rfl⟩, total, rfl⟩
    rw [Sat.toNat_add total, Sat.toNat_add fits]
    omega
  · intro exact
    have word := minimum.toNat_lt
    have size : UInt64.size = 2 ^ 64 := rfl
    have fits : params.fees.merchantCloseFee.toNat + params.fees.anchorValue.toNat < UInt64.size := by
      omega
    have deduction := Sat.toNat_add fits
    have total : params.fees.merchantReserve.toNat
        + (params.fees.merchantCloseFee + params.fees.anchorValue).toNat < UInt64.size := by
      omega
    refine ⟨_, ⟨fits, rfl⟩, total, UInt64.toNat_inj.1 ?_⟩
    rw [Sat.toNat_add total]
    omega

end PaymentChannel
