import PaymentChannel.Template.Close

/-! The transactions that take the outputs of close transactions.
Each has one output, which pays a key what the claimed output is worth, less the fee.
-/

namespace PaymentChannel

/-- The output of a claim. -/
def claimOutput (kind : TxKind) (value : Sat) (key : PublicKey) (fee : Sat) (fees : FeeSchedule)
    (dustLimit : Sat)
    : Outcome TemplateError TxOut := do
  let _ ← fees.checkFee kind fee
  let left ← deduct kind value fee
  let left ← checkDust kind left dustLimit
  return ⟨left, .toKey key⟩

/-- A claim of an output of the given worth. -/
def claimTx (kind : TxKind) (spent : OutPoint) (sequence : UInt32) (scriptCode : Script)
    (value : Sat) (key : PublicKey) (fee : Sat) (fees : FeeSchedule) (dustLimit : Sat)
    : Outcome TemplateError SignableTx := do
  let output ← claimOutput kind value key fee fees dustLimit
  return { kind, spent, sequence, outputs := [output], scriptCode, inputValue := value }

/-- The customer takes its own output of a customer-close transaction after the delay. -/
def customerClaimTx (spent : OutPoint) (value : Sat) (lock : RevLock) (keys : ClosingKeys)
    (delay : UInt16) (key : PublicKey) (fee : Sat) (fees : FeeSchedule) (dustLimit : Sat)
    : Outcome TemplateError SignableTx :=
  claimTx .customerClaim spent (blockSequence delay)
    (.toCustomer lock keys.dispute keys.close delay) value key fee fees dustLimit

/-- The merchant takes the output of its merchant-close transaction after the delay. -/
def merchantClaimTx (spent : OutPoint) (value : Sat) (keys : ClosingKeys) (delay : UInt16)
    (key : PublicKey) (fee : Sat) (fees : FeeSchedule) (dustLimit : Sat)
    : Outcome TemplateError SignableTx :=
  claimTx .merchantClaim spent (blockSequence delay)
    (.merchantClose keys.merchant keys.customer keys.payout delay) value key fee fees dustLimit

/-- The merchant takes its output of a customer-close transaction, which does not wait. -/
def merchantOutputClaimTx (spent : OutPoint) (value : Sat) (payout key : PublicKey) (fee : Sat)
    (fees : FeeSchedule) (dustLimit : Sat)
    : Outcome TemplateError SignableTx :=
  claimTx .merchantClaimToMerchant spent finalSequence (.keyCode payout) value key fee fees
    dustLimit

/-- The merchant takes the customer's output of a customer-close transaction of a revoked state,
before the delay is over.
-/
def disputeTx (spent : OutPoint) (value : Sat) (lock : RevLock) (keys : ClosingKeys)
    (delay : UInt16) (key : PublicKey) (fee : Sat) (fees : FeeSchedule) (dustLimit : Sat)
    : Outcome TemplateError SignableTx :=
  claimTx .dispute spent finalSequence (.toCustomer lock keys.dispute keys.close delay) value key
    fee fees dustLimit

end PaymentChannel
