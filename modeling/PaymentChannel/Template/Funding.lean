import PaymentChannel.Fees
import PaymentChannel.Template.Signable

/-! The transaction that locks the customer's funds into the escrow of a channel. -/

namespace PaymentChannel

/-- An output of the customer that pays for a channel. -/
structure FundingUtxo where
  outpoint : OutPoint
  value : Sat
  /-- The key that controls the output. -/
  key : PublicKey
deriving DecidableEq

/-- An escrow transaction before it is signed. -/
structure EscrowTx where
  signable : SignableTx
  escrowValue : Sat
  fundingKey : PublicKey
deriving DecidableEq

namespace EscrowTx

/-- The escrow is always the first output. -/
def escrowOutPoint (escrow : EscrowTx) : OutPoint := ⟨escrow.signable.txid, 0⟩

/-- What is returned to the customer, if anything. -/
def change (escrow : EscrowTx) : Option Sat :=
  escrow.signable.outputs[1]?.map (·.value)

/-- Locks a value into the escrow and returns the rest of the funds, less the fee. -/
def form (utxo : FundingUtxo) (merchant customer : PublicKey) (value : Sat) (changeKey : PublicKey)
    (fee : Sat) (fees : FeeSchedule) (dustLimit : Sat)
    : Outcome TemplateError EscrowTx := do
  let _ ← fees.checkFee .escrow fee
  let _ ← checkDust .escrow value dustLimit
  let change ← deduct .escrow utxo.value (← Sat.add value fee)
  let returned ←
    if change = 0 then pure []
    else do
      let change ← checkDust .escrow change dustLimit
      pure [⟨change, .toKey changeKey⟩]
  return {
    signable := {
      kind := .escrow
      spent := utxo.outpoint
      sequence := finalSequence
      outputs := ⟨value, .payToScript (.escrow merchant customer)⟩ :: returned
      scriptCode := .keyCode utxo.key
      inputValue := utxo.value }
    escrowValue := value
    fundingKey := utxo.key }

/-- Signs the transaction with the key that has to control the funds. -/
def sign (escrow : EscrowTx) (key : SecretKey) : Outcome TemplateError SignedTx := do
  let signature := escrow.signable.sign key
  escrow.signable.verify signature escrow.fundingKey
  return escrow.signable.finalizeKey signature escrow.fundingKey

end EscrowTx

end PaymentChannel
