import PaymentChannel.Proofs.MaskingSoundness
import PaymentChannel.Proofs.Params
import PaymentChannel.Proofs.Reserves.Accepted

/-! What a state has to hold so that it can be closed, and whether the reserves are enough for it.
Every payment leaves both parties their reserves. The terms ask that a reserve is worth an output, but
a close transaction takes its fee and the output for a child from the balance before it compares the
rest with the dust limit. So terms can be acceptable under which a payment passes all checks of its
balances and is refused in the end.
-/

namespace PaymentChannel

-----------------------------------------------------------------------------------------
-- States that can be closed
-----------------------------------------------------------------------------------------

/-- What a customer-close transaction takes from the customer: its fee and the output for a child. -/
def FeeSchedule.customerCloseCost (fees : FeeSchedule) : Nat :=
  fees.customerCloseFee.toNat + fees.anchorValue.toNat

section Templates

variable {source : CloseSource} {spent : OutPoint} {balances : CloseBalances} {lock : RevLock}
  {keys : ClosingKeys} {delay : UInt16} {fees : FeeSchedule} {dustLimit : Sat}

/-- A customer-close transaction can be formed exactly if what is taken from both parties leaves them
an output that is worth spending.
-/
theorem exists_customerCloseTx
    (bounds : fees.leastFee ≤ fees.customerCloseFee ∧ fees.customerCloseFee ≤ fees.greatestFee)
    (total : balances.customer.toNat + balances.merchant.toNat < UInt64.size)
    : (∃ close, customerCloseTx source spent balances lock keys delay fees dustLimit = .ok close)
      ↔ dustLimit.toNat + fees.customerCloseCost ≤ balances.customer.toNat
        ∧ dustLimit.toNat + source.deducted fees ≤ balances.merchant.toNat := by
  unfold FeeSchedule.customerCloseCost
  constructor
  · rintro ⟨close, formed⟩
    obtain ⟨-, input, given, _, summed, enough, worth, merchantWorth, -⟩ :=
      customerCloseTx_eq_ok.1 formed
    obtain ⟨fits, rfl⟩ := Sat.add_eq_ok.1 summed
    have left := Sat.toNat_sub_add enough
    have toMerchant := closeInput_toMerchant given
    rw [Sat.toNat_add fits] at left
    rw [UInt64.le_iff_toNat_le] at worth merchantWorth
    omega
  · rintro ⟨customer, merchant⟩
    have fits : fees.customerCloseFee.toNat + fees.anchorValue.toNat < UInt64.size := by omega
    have deduction := Sat.toNat_add fits
    have enough : fees.customerCloseFee + fees.anchorValue ≤ balances.customer := by
      rw [UInt64.le_iff_toNat_le]
      omega
    have left := Sat.toNat_sub_add enough
    obtain ⟨input, given⟩ := (exists_closeInput keys delay total).2
      (Nat.le_trans (Nat.le_add_left _ _) merchant)
    have toMerchant := closeInput_toMerchant given
    have worth : dustLimit ≤ balances.customer - (fees.customerCloseFee + fees.anchorValue) := by
      rw [UInt64.le_iff_toNat_le]
      omega
    have merchantWorth : dustLimit ≤ input.toMerchant := by
      rw [UInt64.le_iff_toNat_le]
      omega
    exact ⟨_, customerCloseTx_eq_ok.2 ⟨bounds, input, given, _, Sat.add_eq_ok.2 ⟨fits, rfl⟩, enough,
      worth, merchantWorth, rfl⟩⟩

end Templates

/-- A close from a source leaves both parties of a state an output that is worth spending. -/
structure ChannelParams.Closes (params : ChannelParams) (source : CloseSource)
    (state : ChannelState)
    : Prop where
  customer : (params.dustLimit.toNat : Int) + params.fees.customerCloseCost
    ≤ state.customerBalance.toInt
  merchant : (params.dustLimit.toNat : Int) + source.deducted params.fees
    ≤ state.merchantBalance.toInt

section States

variable {token : ChannelToken} {source : CloseSource} {state : ChannelState} {key : PublicKey}
  {params : ChannelParams}

/-- What a later close leaves the merchant, a close from the escrow does too. -/
theorem ChannelParams.Closes.of_merchantClose (closes : params.Closes .merchantClose state)
    : params.Closes source state where
  customer := closes.customer
  merchant := by
    have enough := closes.merchant
    cases source with
    | escrow =>
        simp only [CloseSource.deducted] at enough ⊢
        omega
    | merchantClose => exact enough

/-- Balances that are not negative are amounts. -/
theorem ChannelState.exists_balances (customer : 0 ≤ state.customerBalance.toInt)
    (merchant : 0 ≤ state.merchantBalance.toInt)
    : ∃ balances, state.balances = .ok balances :=
  ⟨_, CloseBalances.ofBalances_eq_ok.2
    ⟨Int64.le_iff_toInt_le.2 customer, Int64.le_iff_toInt_le.2 merchant, rfl⟩⟩

/-- A state can be closed from a source exactly if the close leaves both parties enough. -/
theorem ChannelToken.exists_customerCloseTx
    (bounds : params.fees.leastFee ≤ params.fees.customerCloseFee
      ∧ params.fees.customerCloseFee ≤ params.fees.greatestFee)
    : (∃ close, token.customerCloseTx source state key params = .ok close)
      ↔ params.Closes source state := by
  constructor
  · rintro ⟨close, formed⟩
    obtain ⟨balances, amounts, formed⟩ := customerCloseTx_eq_ok.1 formed
    obtain ⟨customer, merchant, total⟩ := CloseBalances.toInt_of_ofBalances amounts
    obtain ⟨customerEnough, merchantEnough⟩ :=
      (PaymentChannel.exists_customerCloseTx bounds total).1 ⟨close, formed⟩
    constructor <;> omega
  · rintro ⟨customerEnough, merchantEnough⟩
    obtain ⟨balances, amounts⟩ : ∃ balances, state.balances = .ok balances :=
      ChannelState.exists_balances (by omega) (by omega)
    obtain ⟨customer, merchant, total⟩ := CloseBalances.toInt_of_ofBalances amounts
    have enough : params.dustLimit.toNat + params.fees.customerCloseCost ≤ balances.customer.toNat
        ∧ params.dustLimit.toNat + source.deducted params.fees ≤ balances.merchant.toNat := by
      omega
    obtain ⟨close, formed⟩ := (PaymentChannel.exists_customerCloseTx bounds total).2 enough
    exact ⟨close, customerCloseTx_eq_ok.2 ⟨balances, amounts, formed⟩⟩

end States

-----------------------------------------------------------------------------------------
-- Reserves
-----------------------------------------------------------------------------------------

/-- A reserve pays for all that the close transactions take from its party, and leaves an output that
is worth spending.
-/
structure ChannelParams.ReservesClose (params : ChannelParams) : Prop where
  customer : params.dustLimit.toNat + params.fees.customerCloseCost
    ≤ params.fees.customerReserve.toNat
  merchant : params.dustLimit.toNat + CloseSource.merchantClose.deducted params.fees
    ≤ params.fees.merchantReserve.toNat

section Reserves

variable {params : ChannelParams} {state : ChannelState}

/-- The state with certain balances in place of its own. -/
def ChannelState.withBalances (state : ChannelState) (customer merchant : Balance) : ChannelState :=
  { state with customerBalance := customer, merchantBalance := merchant }

/-- A state with its reserves can be closed from both sources where they pay for it. -/
theorem ChannelParams.ReservesClose.closes (covers : params.ReservesClose)
    (reserved : state.Reserved params.fees) (source : CloseSource)
    : params.Closes source state := by
  obtain ⟨customer, merchant⟩ := covers
  obtain ⟨customerHas, merchantHas⟩ := reserved
  have late : params.Closes .merchantClose state := by
    constructor <;> omega
  exact late.of_merchantClose

/-- Where a state with no more than its reserves can be closed from both sources, the reserves are
balances that pay for it. A reserve that is no balance would be read as a negative one.
-/
theorem ChannelParams.Closes.reserves (closes : params.Closes .merchantClose state)
    (customerLeast : state.customerBalance = .ofBits params.fees.customerReserve)
    (merchantLeast : state.merchantBalance = .ofBits params.fees.merchantReserve)
    : params.fees.ReservesFit ∧ params.ReservesClose := by
  obtain ⟨customer, merchant⟩ := closes
  rw [customerLeast, Balance.toInt_ofBits] at customer
  rw [merchantLeast, Balance.toInt_ofBits] at merchant
  have customerWord := params.fees.customerReserve.toNat_lt
  have merchantWord := params.fees.merchantReserve.toNat_lt
  split at customer
  case isFalse => omega
  case isTrue customerFits =>
    split at merchant
    case isFalse => omega
    case isTrue merchantFits =>
      refine ⟨⟨customerFits, merchantFits⟩, ?_⟩
      constructor <;> omega

end Reserves

-----------------------------------------------------------------------------------------
-- Payments
-----------------------------------------------------------------------------------------

namespace MaskingRequest

variable {request : MaskingRequest}

/-- Of the requests that pass all checks, the masking service computes for those whose new state can
be closed after a merchant-close transaction.
-/
theorem Accepted.exists_compute (accepted : request.Accepted)
    (bounds : request.merchant.params.fees.leastFee ≤ request.merchant.params.fees.customerCloseFee
      ∧ request.merchant.params.fees.customerCloseFee ≤ request.merchant.params.fees.greatestFee)
    : (∃ result, request.compute = .ok result)
      ↔ request.merchant.params.Closes .merchantClose request.customer.new := by
  constructor
  · rintro ⟨result, computed⟩
    obtain ⟨-, -, -, _, masked, -⟩ := compute_eq_ok.1 computed
    obtain ⟨close, formed, -⟩ := maskedSignature_eq_ok.1 masked
    exact (ChannelToken.exists_customerCloseTx bounds).1 ⟨close, formed⟩
  · intro closes
    obtain ⟨_, computed, -⟩ := compute_of_accepted accepted fun source =>
      (ChannelToken.exists_customerCloseTx bounds).2 closes.of_merchantClose
    exact ⟨_, computed⟩

end MaskingRequest

section Idle

open Bench Merchant

-- Unification would compute keys and hashes where comparing their arguments is enough.
attribute [local irreducible] SecretKey.publicKey sha256 hmacSha256

/-- A request for a payment of nothing under any terms, in a state with any balances. -/
def MaskingRequest.idle (params : ChannelParams) (customer merchant : Balance) : MaskingRequest :=
  let old := steadyFirst.withBalances customer merchant
  { customer := { steadyCustomer with
      old
      new := { old with nonce := old.nonce.next }
      payToken := .compute steadyInput.hmacKey old
      amount := 0 }
    merchant := { steadyInput with amount := 0, params } }

/-- Nothing is wrong with such a payment as long as the balances keep the minimums of the service. -/
theorem MaskingRequest.accepted_idle {params : ChannelParams} {customer merchant : Balance}
    (customerEnough : Balance.ofBits params.fees.customerReserve ≤ customer)
    (merchantEnough : Balance.ofBits params.fees.merchantReserve ≤ merchant)
    : (idle params customer merchant).Accepted where
  key := rfl
  merchant := ChannelToken.checkMerchant_eq_ok.2 ⟨rfl, rfl, rfl⟩
  oldFits := ChannelToken.checkState_eq_ok.2 ⟨rfl, rfl, ⟨rfl, rfl⟩, rfl, rfl⟩
  newFits := ChannelToken.checkState_eq_ok.2 ⟨rfl, rfl, ⟨rfl, rfl⟩, rfl, rfl⟩
  payToken := rfl
  nonce := rfl
  lock := RevLockCom.opensWith_eq_true.2 rfl
  amount := rfl
  next := rfl
  customerBalance := Balance.sub_eq_ok.2 (Int.sub_zero _).symm
  merchantBalance := Balance.add_eq_ok.2 (Int.add_zero _).symm
  reserves := ⟨customerEnough, merchantEnough⟩
  mask := PayMaskOpening.opens_eq_true.2 rfl

end Idle

/-- The reserves keep channels closable only where they pay for the close transactions. Under
acceptable terms a state can be closed from a source exactly if both parties have what the close takes
and the dust limit on top. So all states with their reserves can be closed exactly if the reserves
cover this, or if one of them is no balance and no state has it. A payment that passes all checks
is computed exactly if its new state can be closed, and all such payments are computed exactly if the
reserves are balances that cover it.
-/
theorem reserves_close_iff {params : ChannelParams} (valid : params.validate = .ok ())
    : (∀ (token : ChannelToken) source state key,
        (∃ close, token.customerCloseTx source state key params = .ok close)
          ↔ params.Closes source state)
      ∧ ((∀ (token : ChannelToken) source state key, state.Reserved params.fees
            → ∃ close, token.customerCloseTx source state key params = .ok close)
          ↔ (params.fees.ReservesFit → params.ReservesClose))
      ∧ (∀ request : MaskingRequest, request.merchant.params = params → request.Accepted
          → ((∃ result, request.compute = .ok result)
            ↔ params.Closes .merchantClose request.customer.new))
      ∧ ((∀ request : MaskingRequest, request.merchant.params = params → request.Accepted
            → ∃ result, request.compute = .ok result)
          ↔ params.fees.ReservesFit ∧ params.ReservesClose) := by
  have bounds := (ChannelParams.validate_eq_ok.1 valid).customerCloseFee
  have computes : ∀ request : MaskingRequest, request.merchant.params = params → request.Accepted
      → ((∃ result, request.compute = .ok result)
        ↔ params.Closes .merchantClose request.customer.new) := by
    rintro request rfl accepted
    exact accepted.exists_compute bounds
  refine ⟨fun token source state key => ChannelToken.exists_customerCloseTx bounds, ⟨?_, ?_⟩,
    computes, ⟨?_, ?_⟩⟩
  · intro closes fits
    let least := Bench.steadyFirst.withBalances (.ofBits params.fees.customerReserve)
      (.ofBits params.fees.merchantReserve)
    have reserved : least.Reserved params.fees :=
      (minimumsKept_iff (Int64.le_refl _) (Int64.le_refl _)).2 fits
    have closable := closes Bench.steadyToken .merchantClose least steadyKey.publicKey reserved
    exact (((ChannelToken.exists_customerCloseTx bounds).1 closable).reserves rfl rfl).2
  · intro covers token source state key reserved
    exact (ChannelToken.exists_customerCloseTx bounds).2
      ((covers reserved.fit).closes reserved source)
  · intro computed
    have accepted : (MaskingRequest.idle params (.ofBits params.fees.customerReserve)
        (.ofBits params.fees.merchantReserve)).Accepted :=
      MaskingRequest.accepted_idle (Int64.le_refl _) (Int64.le_refl _)
    have closes := (computes _ rfl accepted).1 (computed _ rfl accepted)
    exact closes.reserves rfl rfl
  · rintro ⟨fits, covers⟩ request rfl accepted
    have reserved : request.customer.new.Reserved request.merchant.params.fees :=
      (minimumsKept_iff accepted.reserves.1 accepted.reserves.2).2 fits
    exact (computes _ rfl accepted).2 (covers.closes reserved _)

/-- The usual terms are acceptable and their reserves cover the close transactions, so whatever passes
the checks of its balances is computed.
-/
theorem reserves_close_iff_default
    : ChannelParams.default.validate = .ok ()
      ∧ ∀ request : MaskingRequest, request.merchant.params = .default → request.Accepted
        → ∃ result, request.compute = .ok result :=
  ⟨rfl, (reserves_close_iff rfl).2.2.2.2 ⟨⟨by decide, by decide⟩, ⟨by decide, by decide⟩⟩⟩

/-- Terms with a reserve that is worth an output, but leaves only 300 of it after a close. -/
def ChannelParams.thinReserve : ChannelParams :=
  { default with fees := { FeeSchedule.default with customerReserve := 2300 } }

/-- Under such terms a state with both reserves cannot be closed from any source. A payment that leaves
the customer nothing but the reserve passes all checks, and is refused because it cannot be closed.
-/
theorem thin_reserve_unclosable
    : ChannelParams.thinReserve.validate = .ok ()
      ∧ (Bench.steadyFirst.withBalances 2300 10000).Reserved ChannelParams.thinReserve.fees
      ∧ (∀ source key, ¬∃ close, Bench.steadyToken.customerCloseTx source
        (Bench.steadyFirst.withBalances 2300 10000) key .thinReserve = .ok close)
      ∧ (MaskingRequest.idle .thinReserve 2300 10000).Accepted
      ∧ ¬∃ result, (MaskingRequest.idle .thinReserve 2300 10000).compute = .ok result := by
  have bounds : ChannelParams.thinReserve.fees.leastFee ≤ ChannelParams.thinReserve.fees.customerCloseFee
      ∧ ChannelParams.thinReserve.fees.customerCloseFee ≤ ChannelParams.thinReserve.fees.greatestFee := by
    decide
  have accepted : (MaskingRequest.idle .thinReserve 2300 10000).Accepted :=
    MaskingRequest.accepted_idle (by decide) (by decide)
  -- The fee and the output for a child are 2000, so the 2300 leave less than the dust limit of 546.
  have short : ¬(ChannelParams.thinReserve.dustLimit.toNat
      + ChannelParams.thinReserve.fees.customerCloseCost : Int) ≤ (2300 : Balance).toInt := by
    decide
  refine ⟨rfl, ⟨by decide, by decide⟩, fun source key formed => ?_, accepted, fun computed => ?_⟩
  · exact short ((ChannelToken.exists_customerCloseTx bounds).1 formed).customer
  · exact short ((accepted.exists_compute bounds).1 computed).customer

end PaymentChannel
