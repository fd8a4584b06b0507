import PaymentChannel.Fees
import PaymentChannel.Template.Signable

/-! The transactions that close a channel.
A merchant-close transaction moves the escrow into an output that either party can settle. A
customer-close transaction spends the escrow or that output, pays the merchant, locks the funds of
the customer under the lock of the closed state and publishes the lock.
-/

namespace PaymentChannel

/-- The keys that occur in close transactions. -/
structure ClosingKeys where
  /-- The merchant's key of the escrow. -/
  merchant : PublicKey
  /-- The customer's key of the escrow. -/
  customer : PublicKey
  /-- The key to which the merchant is paid. -/
  payout : PublicKey
  /-- The key by which the merchant takes the funds of a revoked state. -/
  dispute : PublicKey
  /-- The key to which the customer is paid. -/
  close : PublicKey
deriving DecidableEq

/-- What a customer-close transaction distributes. -/
structure CloseBalances where
  customer : Sat
  merchant : Sat
deriving DecidableEq

namespace CloseBalances

/-- The balances as values of outputs, which are not negative. -/
def ofBalances (customer merchant : Balance) : Outcome TemplateError CloseBalances := do
  .ensure (0 ≤ customer) (.negativeValue customer)
  .ensure (0 ≤ merchant) (.negativeValue merchant)
  return ⟨customer.toUInt64, merchant.toUInt64⟩

/-- The sum of both balances, which is the value of the escrow. -/
def total {ε : Type} (balances : CloseBalances) : Outcome ε Sat :=
  Sat.add balances.customer balances.merchant

end CloseBalances

/-- The output by which a child can raise the fee, if the fee schedule asks for one. -/
def anchorOutput (fees : FeeSchedule) (key : PublicKey) : List TxOut :=
  if fees.anchorValue = 0 then [] else [⟨fees.anchorValue, .toKey key⟩]

/-- What the output of a merchant-close transaction is worth. -/
def merchantCloseValue (escrowValue : Sat) (fees : FeeSchedule) : Outcome TemplateError Sat := do
  deduct .merchantClose escrowValue (← fees.merchantCloseDeduction)

/-- The merchant-close transaction of an escrow. -/
def merchantCloseTx (escrow : OutPoint) (escrowValue : Sat) (keys : ClosingKeys) (delay : UInt16)
    (fees : FeeSchedule) (dustLimit : Sat)
    : Outcome TemplateError SignableTx := do
  let _ ← fees.checkFee .merchantClose fees.merchantCloseFee
  let value ← merchantCloseValue escrowValue fees
  let value ← checkDust .merchantClose value dustLimit
  return {
    kind := .merchantClose
    spent := escrow
    sequence := finalSequence
    outputs :=
      ⟨value, .payToScript (.merchantClose keys.merchant keys.customer keys.payout delay)⟩
        :: anchorOutput fees keys.payout
    scriptCode := .escrow keys.merchant keys.customer
    inputValue := escrowValue }

/-- What a customer-close transaction spends: the worth of the output, the part of it that the
merchant receives and the script that the output asks for.
-/
structure CloseInput where
  value : Sat
  toMerchant : Sat
  scriptCode : Script

/-- The input of a customer-close transaction. When it follows a merchant-close transaction the
merchant bears what that transaction took from the escrow.
-/
def closeInput (source : CloseSource) (balances : CloseBalances) (keys : ClosingKeys)
    (delay : UInt16) (fees : FeeSchedule)
    : Outcome TemplateError CloseInput := do
  let escrowValue ← balances.total
  match source with
  | .escrow => return ⟨escrowValue, balances.merchant, .escrow keys.merchant keys.customer⟩
  | .merchantClose =>
      let value ← merchantCloseValue escrowValue fees
      let toMerchant ← deduct source.closeKind balances.merchant (← fees.merchantCloseDeduction)
      return ⟨value, toMerchant,
        .merchantClose keys.merchant keys.customer keys.payout delay⟩

/-- The customer-close transaction of a state with the given balances and lock. -/
def customerCloseTx (source : CloseSource) (spent : OutPoint) (balances : CloseBalances)
    (lock : RevLock) (keys : ClosingKeys) (delay : UInt16) (fees : FeeSchedule) (dustLimit : Sat)
    : Outcome TemplateError SignableTx := do
  let kind := source.closeKind
  let _ ← fees.checkFee kind fees.customerCloseFee
  let input ← closeInput source balances keys delay fees
  let toCustomer ← deduct kind balances.customer (← fees.customerCloseDeduction)
  let toCustomer ← checkDust kind toCustomer dustLimit
  let toMerchant ← checkDust kind input.toMerchant dustLimit
  return {
    kind := kind
    spent := spent
    sequence := finalSequence
    outputs :=
      [⟨toCustomer, .payToScript (.toCustomer lock keys.dispute keys.close delay)⟩,
        ⟨toMerchant, .toKey keys.payout⟩,
        Publication.output ⟨lock, keys.close⟩]
        ++ anchorOutput fees keys.close
    scriptCode := input.scriptCode
    inputValue := input.value }

end PaymentChannel
