import Mathlib.Algebra.GroupWithZero.Nat
import PaymentChannel.Proofs.Balance
import PaymentChannel.Proofs.Lock
import PaymentChannel.Template.Claim

/-! What it takes to form the transactions that close a channel.
Each law says when a template gives a transaction and which one.
-/

namespace PaymentChannel

-----------------------------------------------------------------------------------------
-- Values
-----------------------------------------------------------------------------------------

section Values

variable {ε : Type} {kind : TxKind} {left right value : Sat}

theorem Sat.add_eq_ok
    : (Sat.add left right : Outcome ε Sat) = .ok value
      ↔ left.toNat + right.toNat < UInt64.size ∧ value = left + right := by
  unfold Sat.add
  split
  case isTrue fits => simp [fits, @eq_comm _ (left + right)]
  case isFalse past => simp [past]

theorem Sat.toNat_add (fits : left.toNat + right.toNat < UInt64.size)
    : (left + right).toNat = left.toNat + right.toNat := by
  rw [UInt64.toNat_add]
  exact Nat.mod_eq_of_lt fits

/-- What is taken away makes up the whole with what is left. -/
theorem Sat.toNat_sub_add (enough : right ≤ left)
    : (left - right).toNat + right.toNat = left.toNat := by
  rw [UInt64.toNat_sub_of_le _ _ enough]
  exact Nat.sub_add_cancel (UInt64.le_iff_toNat_le.1 enough)

theorem checkDust_eq_ok {dustLimit : Sat} {kept : Sat}
    : checkDust kind value dustLimit = .ok kept ↔ dustLimit ≤ value ∧ kept = value := by
  unfold checkDust
  split
  case isTrue below => simp [UInt64.not_le.2 below]
  case isFalse worth => simp [UInt64.not_lt.1 worth, @eq_comm _ value]

theorem deduct_eq_ok
    : deduct kind left right = .ok value ↔ right ≤ left ∧ value = left - right := by
  unfold deduct
  split
  case isTrue enough => simp [enough, @eq_comm _ (left - right)]
  case isFalse short => simp [short]

theorem FeeSchedule.checkFee_eq_ok {fees : FeeSchedule} {fee kept : Sat}
    : fees.checkFee kind fee = .ok kept
      ↔ (fees.leastFee ≤ fee ∧ fee ≤ fees.greatestFee) ∧ kept = fee := by
  unfold checkFee
  split
  case isTrue out =>
    rcases out with low | high
    · simp [UInt64.not_le.2 low]
    · simp [UInt64.not_le.2 high]
  case isFalse within =>
    obtain ⟨low, high⟩ := not_or.1 within
    simp [UInt64.not_lt.1 low, UInt64.not_lt.1 high, @eq_comm _ fee]

theorem CloseBalances.ofBalances_eq_ok {customer merchant : Balance} {balances : CloseBalances}
    : ofBalances customer merchant = .ok balances
      ↔ 0 ≤ customer ∧ 0 ≤ merchant ∧ balances = ⟨customer.toUInt64, merchant.toUInt64⟩ := by
  simp [ofBalances]

/-- The balances are amounts of the same size, whose sum is an amount too. -/
theorem CloseBalances.toInt_of_ofBalances {customer merchant : Balance} {balances : CloseBalances}
    (amounts : ofBalances customer merchant = .ok balances)
    : (balances.customer.toNat : Int) = customer.toInt
      ∧ (balances.merchant.toNat : Int) = merchant.toInt
      ∧ balances.customer.toNat + balances.merchant.toNat < UInt64.size := by
  obtain ⟨nonneg, merchantNonneg, rfl⟩ := ofBalances_eq_ok.1 amounts
  have left := Balance.toNat_toUInt64 nonneg
  have right := Balance.toNat_toUInt64 merchantNonneg
  have customerFits := customer.toInt_lt
  have merchantFits := merchant.toInt_lt
  have size : UInt64.size = 2 ^ 64 := rfl
  refine ⟨left, right, ?_⟩
  dsimp only
  omega

end Values

-----------------------------------------------------------------------------------------
-- Close transactions
-----------------------------------------------------------------------------------------

/-- What the transaction before a close from a source took from the escrow. -/
def CloseSource.deducted (fees : FeeSchedule) : CloseSource → Nat
  | .escrow => 0
  | .merchantClose => fees.merchantCloseFee.toNat + fees.anchorValue.toNat

theorem merchantCloseValue_eq_ok {escrowValue value : Sat} {fees : FeeSchedule}
    : merchantCloseValue escrowValue fees = .ok value
      ↔ ∃ deduction, (fees.merchantCloseDeduction : Outcome TemplateError Sat) = .ok deduction
        ∧ deduction ≤ escrowValue ∧ value = escrowValue - deduction := by
  simp only [merchantCloseValue, Outcome.bind_eq_ok, deduct_eq_ok]

theorem toNat_of_merchantCloseValue {escrowValue value : Sat} {fees : FeeSchedule}
    (left : merchantCloseValue escrowValue fees = .ok value)
    : value.toNat + fees.merchantCloseFee.toNat + fees.anchorValue.toNat = escrowValue.toNat := by
  obtain ⟨_, summed, enough, rfl⟩ := merchantCloseValue_eq_ok.1 left
  obtain ⟨fits, rfl⟩ := Sat.add_eq_ok.1 summed
  have deduction := Sat.toNat_add fits
  have left := Sat.toNat_sub_add enough
  omega

/-- What a customer-close transaction spends: all that both parties have, less what the
merchant-close transaction took if it came before.
-/
theorem closeInput_value {source : CloseSource} {balances : CloseBalances} {keys : ClosingKeys}
    {delay : UInt16} {fees : FeeSchedule} {input : CloseInput}
    (formed : closeInput source balances keys delay fees = .ok input)
    : input.value.toNat + source.deducted fees
      = balances.customer.toNat + balances.merchant.toNat := by
  simp only [closeInput, CloseBalances.total, Outcome.bind_eq_ok, Sat.add_eq_ok] at formed
  obtain ⟨_, ⟨fits, rfl⟩, formed⟩ := formed
  have total := Sat.toNat_add fits
  cases source with
  | escrow =>
      cases formed
      simp [CloseSource.deducted, total]
  | merchantClose =>
      simp only [Outcome.bind_eq_ok, Outcome.pure_eq_ok] at formed
      obtain ⟨_, left, _, -, _, -, rfl⟩ := formed
      have left := toNat_of_merchantCloseValue left
      simp only [CloseSource.deducted]
      omega

/-- What the merchant receives: its balance, less what the merchant-close transaction took. -/
theorem closeInput_toMerchant {source : CloseSource} {balances : CloseBalances} {keys : ClosingKeys}
    {delay : UInt16} {fees : FeeSchedule} {input : CloseInput}
    (formed : closeInput source balances keys delay fees = .ok input)
    : input.toMerchant.toNat + source.deducted fees = balances.merchant.toNat := by
  simp only [closeInput, Outcome.bind_eq_ok] at formed
  obtain ⟨_, -, formed⟩ := formed
  cases source with
  | escrow =>
      cases formed
      rfl
  | merchantClose =>
      simp only [Outcome.bind_eq_ok, deduct_eq_ok, Outcome.pure_eq_ok,
        FeeSchedule.merchantCloseDeduction, Sat.add_eq_ok] at formed
      obtain ⟨_, -, _, ⟨summed, rfl⟩, _, ⟨enough, rfl⟩, rfl⟩ := formed
      have deduction := Sat.toNat_add summed
      have left := Sat.toNat_sub_add enough
      simp only [CloseSource.deducted]
      omega

/-- The input can be formed if the merchant has what was taken from the escrow before. -/
theorem exists_closeInput {source : CloseSource} {balances : CloseBalances} {fees : FeeSchedule}
    (keys : ClosingKeys) (delay : UInt16)
    (total : balances.customer.toNat + balances.merchant.toNat < UInt64.size)
    : (∃ input, closeInput source balances keys delay fees = .ok input)
      ↔ source.deducted fees ≤ balances.merchant.toNat := by
  constructor
  · rintro ⟨input, formed⟩
    have toMerchant := closeInput_toMerchant formed
    omega
  · intro enough
    have summed : (balances.total : Outcome TemplateError Sat)
        = .ok (balances.customer + balances.merchant) := Sat.add_eq_ok.2 ⟨total, rfl⟩
    cases source with
    | escrow =>
        rw [closeInput, summed]
        exact ⟨_, rfl⟩
    | merchantClose =>
        have fits : fees.merchantCloseFee.toNat + fees.anchorValue.toNat < UInt64.size :=
          Nat.lt_of_le_of_lt enough balances.merchant.toNat_lt
        have deducted : (fees.merchantCloseDeduction : Outcome TemplateError Sat)
            = .ok (fees.merchantCloseFee + fees.anchorValue) := Sat.add_eq_ok.2 ⟨fits, rfl⟩
        have fromMerchant : fees.merchantCloseFee + fees.anchorValue ≤ balances.merchant := by
          rw [UInt64.le_iff_toNat_le, Sat.toNat_add fits]
          exact enough
        have fromTotal : fees.merchantCloseFee + fees.anchorValue
            ≤ balances.customer + balances.merchant := by
          rw [UInt64.le_iff_toNat_le, Sat.toNat_add total]
          exact Nat.le_trans (UInt64.le_iff_toNat_le.1 fromMerchant) (Nat.le_add_left _ _)
        simp only [closeInput, summed, merchantCloseValue, deducted, Outcome.ok_bind, deduct,
          if_pos fromTotal, if_pos fromMerchant]
        exact ⟨_, rfl⟩

/-- The output by which a child can raise the fee is worth what the fee schedule says. -/
theorem sum_anchorOutput (fees : FeeSchedule) (key : PublicKey)
    : ((anchorOutput fees key).map (·.value.toNat)).sum = fees.anchorValue.toNat := by
  unfold anchorOutput
  split
  case isTrue none => simp [none]
  case isFalse => simp

/-- The outputs of a customer-close transaction: the funds of the customer under the lock, those of
the merchant and the publication of the lock.
-/
theorem customerCloseTx_eq_ok {source : CloseSource} {spent : OutPoint} {balances : CloseBalances}
    {lock : RevLock} {keys : ClosingKeys} {delay : UInt16} {fees : FeeSchedule} {dustLimit : Sat}
    {close : SignableTx}
    : customerCloseTx source spent balances lock keys delay fees dustLimit = .ok close
      ↔ (fees.leastFee ≤ fees.customerCloseFee ∧ fees.customerCloseFee ≤ fees.greatestFee)
        ∧ ∃ input, closeInput source balances keys delay fees = .ok input
        ∧ ∃ deduction, (fees.customerCloseDeduction : Outcome TemplateError Sat) = .ok deduction
        ∧ deduction ≤ balances.customer ∧ dustLimit ≤ balances.customer - deduction
        ∧ dustLimit ≤ input.toMerchant
        ∧ close = {
            kind := source.closeKind
            spent
            sequence := finalSequence
            outputs :=
              [⟨balances.customer - deduction,
                  .payToScript (.toCustomer lock keys.dispute keys.close delay)⟩,
                ⟨input.toMerchant, .toKey keys.payout⟩,
                Publication.output ⟨lock, keys.close⟩]
                ++ anchorOutput fees keys.close
            scriptCode := input.scriptCode
            inputValue := input.value } := by
  simp only [customerCloseTx, Outcome.bind_eq_ok, FeeSchedule.checkFee_eq_ok, deduct_eq_ok,
    checkDust_eq_ok, Outcome.pure_eq_ok]
  constructor
  · rintro ⟨_, ⟨bounds, -⟩, input, formed, deduction, summed, _, ⟨enough, rfl⟩, _, ⟨worth, rfl⟩, _,
      ⟨merchantWorth, rfl⟩, rfl⟩
    exact ⟨bounds, input, formed, deduction, summed, enough, worth, merchantWorth, rfl⟩
  · rintro ⟨bounds, input, formed, deduction, summed, enough, worth, merchantWorth, rfl⟩
    exact ⟨_, ⟨bounds, rfl⟩, input, formed, deduction, summed, _, ⟨enough, rfl⟩, _, ⟨worth, rfl⟩, _,
      ⟨merchantWorth, rfl⟩, rfl⟩

section Formed

variable {source : CloseSource} {spent : OutPoint} {balances : CloseBalances} {lock : RevLock}
  {keys : ClosingKeys} {delay : UInt16} {fees : FeeSchedule} {dustLimit : Sat} {close : SignableTx}

theorem inputValue_of_customerCloseTx
    (formed : customerCloseTx source spent balances lock keys delay fees dustLimit = .ok close)
    : close.inputValue.toNat + source.deducted fees
      = balances.customer.toNat + balances.merchant.toNat := by
  obtain ⟨-, input, input_eq, _, -, -, -, -, rfl⟩ := customerCloseTx_eq_ok.1 formed
  exact closeInput_value input_eq

/-- The outputs of a customer-close transaction pay out all that it spends but the fee. -/
theorem outputs_of_customerCloseTx
    (formed : customerCloseTx source spent balances lock keys delay fees dustLimit = .ok close)
    : (close.outputs.map (·.value.toNat)).sum + fees.customerCloseFee.toNat
      = close.inputValue.toNat := by
  obtain ⟨-, input, input_eq, _, summed, enough, -, -, rfl⟩ := customerCloseTx_eq_ok.1 formed
  obtain ⟨fits, rfl⟩ := Sat.add_eq_ok.1 summed
  have value := closeInput_value input_eq
  have toMerchant := closeInput_toMerchant input_eq
  have deduction := Sat.toNat_add fits
  have left := Sat.toNat_sub_add enough
  have anchor := sum_anchorOutput fees keys.close
  simp only [List.map_append, List.map_cons, List.map_nil, List.sum_append, List.sum_cons,
    List.sum_nil, anchor, Publication.output, UInt64.toNat_zero]
  omega

/-- A customer-close transaction gives away its lock, whatever its witness. -/
theorem ofTransaction_of_customerCloseTx
    (formed : customerCloseTx source spent balances lock keys delay fees dustLimit = .ok close)
    (witness : List (List UInt8))
    : Publication.ofTransaction (close.withWitness witness) = .ok ⟨lock, keys.close⟩ := by
  obtain ⟨-, input, -, deduction, -, -, -, -, rfl⟩ := customerCloseTx_eq_ok.1 formed
  have first : ∀ outputs : List TxOut,
      (⟨balances.customer - deduction,
          .payToScript (.toCustomer lock keys.dispute keys.close delay)⟩
        :: ⟨input.toMerchant, .toKey keys.payout⟩
        :: Publication.output ⟨lock, keys.close⟩ :: outputs).find? (·.script.isPublication)
      = some (Publication.output ⟨lock, keys.close⟩) := fun _ => rfl
  unfold Publication.ofTransaction
  rw [SignableTx.withWitness, List.cons_append, List.cons_append, List.cons_append, first]
  exact Outcome.require_eq_ok.2 (Publication.ofScript?_publish _)

end Formed

-----------------------------------------------------------------------------------------
-- Claims
-----------------------------------------------------------------------------------------

/-- A claim pays a key the worth of the output less the fee, if the fee is within its bounds and what
is left is worth spending.
-/
theorem claimTx_eq_ok {kind : TxKind} {spent : OutPoint} {sequence : UInt32} {scriptCode : Script}
    {value : Sat} {key : PublicKey} {fee : Sat} {fees : FeeSchedule} {dustLimit : Sat}
    {claim : SignableTx}
    : claimTx kind spent sequence scriptCode value key fee fees dustLimit = .ok claim
      ↔ (fees.leastFee ≤ fee ∧ fee ≤ fees.greatestFee) ∧ fee ≤ value ∧ dustLimit ≤ value - fee
        ∧ claim = {
            kind, spent, sequence, scriptCode
            outputs := [⟨value - fee, .toKey key⟩]
            inputValue := value } := by
  simp only [claimTx, claimOutput, Outcome.bind_eq_ok, FeeSchedule.checkFee_eq_ok, deduct_eq_ok,
    checkDust_eq_ok, Outcome.pure_eq_ok]
  constructor
  · rintro ⟨_, ⟨_, ⟨bounds, -⟩, _, ⟨enough, rfl⟩, _, ⟨worth, rfl⟩, rfl⟩, rfl⟩
    exact ⟨bounds, enough, worth, rfl⟩
  · rintro ⟨bounds, enough, worth, rfl⟩
    exact ⟨_, ⟨_, ⟨bounds, rfl⟩, _, ⟨enough, rfl⟩, _, ⟨worth, rfl⟩, rfl⟩, rfl⟩

namespace ChannelToken

variable {token : ChannelToken} {source : CloseSource} {state : ChannelState} {key : PublicKey}
  {params : ChannelParams} {close : SignableTx}

theorem customerCloseTx_eq_ok
    : token.customerCloseTx source state key params = .ok close
      ↔ ∃ balances, state.balances = .ok balances
        ∧ PaymentChannel.customerCloseTx source (token.outPoint source) balances state.lock
          (token.closingKeys key) params.selfDelay params.fees params.dustLimit = .ok close := by
  simp only [customerCloseTx, Outcome.bind_eq_ok]

end ChannelToken

end PaymentChannel
