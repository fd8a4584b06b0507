import PaymentChannel.Proofs.Template
import PaymentChannel.Template.Funding

/-! Which operations on amounts arithmetic stops, and which transactions.
An operation that is stopped was neither answered nor refused. The templates of transactions check
fees and the worth of outputs, and take amounts from others only where it is possible. They sum without
looking at the range of a word in a few places, and each is stopped exactly where it comes to a sum that
is out of range. The sum of two balances never is.
-/

namespace PaymentChannel

-----------------------------------------------------------------------------------------
-- Outcomes that arithmetic stops
-----------------------------------------------------------------------------------------

namespace Outcome

variable {ε ε' α β : Type}

/-- A sum or a difference out of range stopped the operation. -/
def Stopped (outcome : Outcome ε α) : Prop := ∃ kind, outcome = .error (.overflow kind)

@[simp] theorem stopped_ok {value : α} : ¬Stopped (.ok value : Outcome ε α) := by
  simp [Stopped]

@[simp] theorem stopped_pure {value : α} : ¬(pure value : Outcome ε α).Stopped :=
  stopped_ok

@[simp] theorem stopped_refuse {reason : ε} : ¬(refuse reason : Outcome ε α).Stopped := by
  simp [Stopped, refuse]

@[simp] theorem stopped_ensure {condition : Prop} [Decidable condition] {reason : ε}
    : ¬(ensure condition reason).Stopped := by
  unfold ensure
  split <;> simp

@[simp] theorem stopped_require {reason : ε} {found : Option α}
    : ¬(require reason found).Stopped := by
  cases found <;> simp [require]

@[simp] theorem stopped_mapRefusal {restate : ε → ε'} {outcome : Outcome ε α}
    : (outcome.mapRefusal restate).Stopped ↔ outcome.Stopped := by
  rcases outcome with (reason | kind) | value <;> simp [mapRefusal, Stopped]

/-- An operation that is not stopped answers or is refused, for a reason that was put into other words.
-/
theorem mapRefusal_ends {restate : ε → ε'} {outcome : Outcome ε α}
    : ((∃ answer, outcome.mapRefusal restate = .ok answer)
        ∨ ∃ reason, outcome.mapRefusal restate = refuse (restate reason))
      ↔ ¬outcome.Stopped := by
  rcases outcome with (reason | kind) | answer
  · simp [mapRefusal, refuse, Stopped]
  · simp [mapRefusal, refuse, Stopped]
  · simp [mapRefusal, refuse, Stopped]

@[simp] theorem stopped_map {outcome : Outcome ε α} {change : α → β}
    : (change <$> outcome).Stopped ↔ outcome.Stopped := by
  cases outcome <;> simp [Functor.map, Except.map, Stopped]

@[simp] theorem stopped_ite {condition : Prop} [Decidable condition] {first second : Outcome ε α}
    : (if condition then first else second).Stopped
      ↔ condition ∧ first.Stopped ∨ ¬condition ∧ second.Stopped := by
  split
  case isTrue holds => simp [holds]
  case isFalse fails => simp [fails]

/-- A sequence is stopped where one of its parts is. -/
@[simp] theorem stopped_bind {outcome : Outcome ε α} {next : α → Outcome ε β}
    : (outcome >>= next).Stopped
      ↔ outcome.Stopped ∨ ∃ value, outcome = .ok value ∧ (next value).Stopped := by
  cases outcome <;> simp [Stopped, bind, Except.bind]

end Outcome

-----------------------------------------------------------------------------------------
-- Transactions
-----------------------------------------------------------------------------------------

section Transactions

variable {ε : Type} {kind : TxKind} {left right value fee dustLimit : Sat} {fees : FeeSchedule}

@[simp] theorem Sat.stopped_add
    : (Sat.add left right : Outcome ε Sat).Stopped ↔ UInt64.size ≤ left.toNat + right.toNat := by
  unfold Sat.add
  split
  case isTrue fits => simp [fits]
  case isFalse past => simpa [Outcome.Stopped] using past

@[simp] theorem stopped_checkDust : ¬(checkDust kind value dustLimit).Stopped := by
  unfold checkDust
  split <;> simp

@[simp] theorem stopped_deduct : ¬(deduct kind left right).Stopped := by
  unfold deduct
  split <;> simp

@[simp] theorem FeeSchedule.stopped_checkFee : ¬(fees.checkFee kind fee).Stopped := by
  unfold checkFee
  split <;> simp

namespace FeeSchedule

/-- What a merchant-close transaction takes from the escrow is an amount. -/
def MerchantCloseFits (fees : FeeSchedule) : Prop :=
  fees.merchantCloseFee.toNat + fees.anchorValue.toNat < UInt64.size

/-- What a customer-close transaction takes from the customer is an amount. -/
def CustomerCloseFits (fees : FeeSchedule) : Prop :=
  fees.customerCloseFee.toNat + fees.anchorValue.toNat < UInt64.size

instance (fees : FeeSchedule) : Decidable fees.MerchantCloseFits :=
  inferInstanceAs (Decidable (_ < _))

instance (fees : FeeSchedule) : Decidable fees.CustomerCloseFits :=
  inferInstanceAs (Decidable (_ < _))

@[simp] theorem stopped_merchantCloseDeduction
    : (fees.merchantCloseDeduction : Outcome ε Sat).Stopped ↔ ¬fees.MerchantCloseFits := by
  simp [merchantCloseDeduction, MerchantCloseFits]

@[simp] theorem stopped_customerCloseDeduction
    : (fees.customerCloseDeduction : Outcome ε Sat).Stopped ↔ ¬fees.CustomerCloseFits := by
  simp [customerCloseDeduction, CustomerCloseFits]

end FeeSchedule

theorem stopped_merchantCloseTx {escrow : OutPoint} {keys : ClosingKeys} {delay : UInt16}
    : (merchantCloseTx escrow value keys delay fees dustLimit).Stopped
      ↔ (fees.leastFee ≤ fees.merchantCloseFee ∧ fees.merchantCloseFee ≤ fees.greatestFee)
        ∧ ¬fees.MerchantCloseFits := by
  simp [merchantCloseTx, merchantCloseValue, FeeSchedule.checkFee_eq_ok]

/-- A claim takes one amount from another one, which is refused where it is not possible. -/
theorem stopped_claimTx {spent : OutPoint} {sequence : UInt32} {scriptCode : Script}
    {key : PublicKey}
    : ¬(claimTx kind spent sequence scriptCode value key fee fees dustLimit).Stopped := by
  simp [claimTx, claimOutput]

/-- The input of a close is stopped only where it follows a merchant-close transaction. -/
theorem stopped_closeInput {source : CloseSource} {balances : CloseBalances} {keys : ClosingKeys}
    {delay : UInt16} (total : balances.customer.toNat + balances.merchant.toNat < UInt64.size)
    : (closeInput source balances keys delay fees).Stopped
      ↔ source = .merchantClose ∧ ¬fees.MerchantCloseFits := by
  have summed : (balances.total : Outcome TemplateError Sat)
      = .ok (balances.customer + balances.merchant) := Sat.add_eq_ok.2 ⟨total, rfl⟩
  cases source with
  | escrow => simp [closeInput, summed]
  | merchantClose =>
      simp only [closeInput, merchantCloseValue, summed, Outcome.ok_bind, Outcome.stopped_bind,
        FeeSchedule.stopped_merchantCloseDeduction, stopped_deduct, Outcome.stopped_pure]
      simp

/-- A customer-close transaction is stopped by what it takes from the customer, or by what the
transaction before it took.
-/
theorem stopped_customerCloseTx {source : CloseSource} {spent : OutPoint} {balances : CloseBalances}
    {lock : RevLock} {keys : ClosingKeys} {delay : UInt16}
    (total : balances.customer.toNat + balances.merchant.toNat < UInt64.size)
    : (customerCloseTx source spent balances lock keys delay fees dustLimit).Stopped
      ↔ (fees.leastFee ≤ fees.customerCloseFee ∧ fees.customerCloseFee ≤ fees.greatestFee)
        ∧ (source = .merchantClose ∧ ¬fees.MerchantCloseFits
          ∨ source.deducted fees ≤ balances.merchant.toNat ∧ ¬fees.CustomerCloseFits) := by
  rw [← exists_closeInput keys delay total]
  simp [customerCloseTx, FeeSchedule.checkFee_eq_ok, stopped_closeInput total]

/-- The same for the balances of a state, where a negative one is refused before. -/
theorem ChannelToken.stopped_customerCloseTx {token : ChannelToken} {source : CloseSource}
    {state : ChannelState} {key : PublicKey} {params : ChannelParams}
    : (token.customerCloseTx source state key params).Stopped
      ↔ (0 ≤ state.customerBalance ∧ 0 ≤ state.merchantBalance)
        ∧ (params.fees.leastFee ≤ params.fees.customerCloseFee
          ∧ params.fees.customerCloseFee ≤ params.fees.greatestFee)
        ∧ (source = .merchantClose ∧ ¬params.fees.MerchantCloseFits
          ∨ (source.deducted params.fees : Int) ≤ state.merchantBalance.toInt
            ∧ ¬params.fees.CustomerCloseFits) := by
  constructor
  · intro stopped
    rcases Outcome.stopped_bind.1 stopped with negative | ⟨balances, amounts, stopped⟩
    · simp [ChannelState.balances, CloseBalances.ofBalances] at negative
    · obtain ⟨nonneg, merchantNonneg, -⟩ := CloseBalances.ofBalances_eq_ok.1 amounts
      obtain ⟨-, merchant, total⟩ := CloseBalances.toInt_of_ofBalances amounts
      rw [PaymentChannel.stopped_customerCloseTx total, ← Int.ofNat_le, merchant] at stopped
      exact ⟨⟨nonneg, merchantNonneg⟩, stopped⟩
  · rintro ⟨⟨nonneg, merchantNonneg⟩, stops⟩
    have amounts : state.balances = .ok _ :=
      CloseBalances.ofBalances_eq_ok.2 ⟨nonneg, merchantNonneg, rfl⟩
    obtain ⟨-, merchant, total⟩ := CloseBalances.toInt_of_ofBalances amounts
    refine Outcome.stopped_bind.2 (.inr ⟨_, amounts,
      (PaymentChannel.stopped_customerCloseTx total).2 ?_⟩)
    rwa [← Int.ofNat_le, merchant]

@[simp] theorem ChannelToken.stopped_checkMerchant {token : ChannelToken} {keys : MerchantKeys}
    : ¬(token.checkMerchant keys).Stopped := by
  simp [checkMerchant]

@[simp] theorem ChannelToken.stopped_checkState {token : ChannelToken} {state : ChannelState}
    : ¬(token.checkState state).Stopped := by
  simp [checkState]

theorem Publication.stopped_ofTransaction {tx : Transaction} : ¬(ofTransaction tx).Stopped := by
  unfold ofTransaction
  split <;> simp

@[simp] theorem stopped_escrowValue {customer merchant : Balance}
    : ¬(escrowValue customer merchant).Stopped := by
  unfold escrowValue
  split
  · split <;> simp
  · simp

/-- The fee and the value of an escrow pass their checks, but are no amount together. -/
def EscrowTx.Exceeds (value fee : Sat) (fees : FeeSchedule) (dustLimit : Sat) : Prop :=
  (fees.leastFee ≤ fee ∧ fee ≤ fees.greatestFee) ∧ dustLimit ≤ value
    ∧ UInt64.size ≤ value.toNat + fee.toNat

theorem EscrowTx.stopped_form {utxo : FundingUtxo} {merchant customer changeKey : PublicKey}
    : (form utxo merchant customer value changeKey fee fees dustLimit).Stopped
      ↔ Exceeds value fee fees dustLimit := by
  simp [form, Exceeds, FeeSchedule.checkFee_eq_ok, checkDust_eq_ok]

end Transactions

end PaymentChannel
