import PaymentChannel.Proofs.Curve.Ecdsa
import PaymentChannel.Proofs.Merchant.Channels
import PaymentChannel.Proofs.Merchant.StaleStates
import PaymentChannel.Proofs.Template

/-! Revoked states can be punished, and no others.
The customer forms a close transaction from the token of its channel; the merchant recognizes it by
the output that it spends, the lock that it publishes and the script of its first output. These fit
together for every channel that the merchant has registered.
-/

namespace PaymentChannel

open Merchant

/-- A claim of the first output of a transaction that shows the secret of its lock. -/
structure Punishes (merchant : Merchant) (tx : Transaction) (output : TxOut) (secret : RevSecret)
    (fee : Sat) (signed : SignedTx) : Prop where
  kind : signed.kind = .dispute
  /-- The signature is one for the script that the output pays to, under the dispute key. -/
  claims : ∃ claim : SignableTx, ∃ signature : Signature,
    claim.spent = ⟨tx.txid, 0⟩ ∧ claim.inputValue = output.value
    ∧ claim.outputs = [⟨output.value - fee, .toKey merchant.keys.payout⟩]
    ∧ output.script = .payToScript claim.scriptCode
    ∧ claim.verifies signature merchant.keys.dispute = true
    ∧ signed.tx = claim.withWitness
      [signature.toDer ++ [1], secret.bytes.toList, [1], claim.scriptCode.bytes]

section Runs

variable {params : ChannelParams} {policy : RefundPolicy} {source : Entropy} {start shop : Shop}
  {history : List MerchantExchange}

/-- The first output of a customer-close transaction is locked for the customer, and the
transaction spends the output of its source.
-/
theorem shape_of_customerCloseTx {token : ChannelToken} {source : CloseSource}
    {state : ChannelState} {key : PublicKey} {params : ChannelParams} {close : SignableTx}
    (formed : token.customerCloseTx source state key params = .ok close)
    : close.spent = token.outPoint source
      ∧ ∃ value, close.outputs.head? = some
        ⟨value, .payToScript (.toCustomer state.lock token.disputeKey key params.selfDelay)⟩ := by
  obtain ⟨balances, -, formed⟩ := ChannelToken.customerCloseTx_eq_ok.1 formed
  obtain ⟨-, input, -, deduction, -, -, -, -, rfl⟩ := customerCloseTx_eq_ok.1 formed
  exact ⟨rfl, _, rfl⟩

/-- A customer-close transaction of a registered channel whose lock has a known secret is disputed
successfully, whoever signed it.
-/
theorem dispute_of_revoked (standing : Standing start.merchant shop.merchant)
    (fit : shop.merchant.KeysFit) {escrow : Txid} {channel : MerchantChannel}
    (found : shop.merchant.channels.get? escrow = some channel) {source : CloseSource}
    {state : ChannelState} {key : PublicKey} {close : SignableTx}
    (formed : channel.token.customerCloseTx source state key shop.merchant.params = .ok close)
    (witness : List (List UInt8)) {output : TxOut} (first : close.outputs.head? = some output)
    {secret : RevSecret} (known : shop.ledger.get state.lock = .ok (some secret)) {fee : Sat}
    (bounds : shop.merchant.params.fees.leastFee ≤ fee ∧ fee ≤ shop.merchant.params.fees.greatestFee)
    (enough : fee ≤ output.value) (worth : shop.merchant.params.dustLimit ≤ output.value - fee)
    : ∃ signed after,
      shop.merchant.dispute shop.ledger (close.withWitness witness) fee = .ok (some signed, after)
      ∧ Punishes shop.merchant (close.withWitness witness) output secret fee signed := by
  obtain ⟨spent, value, shape⟩ := shape_of_customerCloseTx formed
  obtain ⟨balances, -, template⟩ := ChannelToken.customerCloseTx_eq_ok.1 formed
  rw [shape] at first
  cases first
  have publishes := ofTransaction_of_customerCloseTx template witness
  obtain ⟨-, -, disputeKey⟩ :=
    ChannelToken.checkMerchant_eq_ok.1 (standing.agrees escrow channel found).checkMerchant
  have outPoint : channel.token.escrowOutPoint = close.spent
      ∨ channel.token.merchantCloseOutPoint = close.spent := by
    rw [spent]
    cases source
    · exact .inl rfl
    · exact .inr rfl
  have input : (close.withWitness witness).inputs.head? = some (close.input witness) := rfl
  obtain ⟨other, spentChannel, spends⟩ := exists_channelSpentBy input found outPoint
  -- The channel that is found may be another one, but its keys are those of the merchant too.
  obtain ⟨registered, -⟩ := channelSpentBy_eq_ok spends
  obtain ⟨-, -, otherKey⟩ :=
    ChannelToken.checkMerchant_eq_ok.1 (standing.agrees other spentChannel registered).checkMerchant
  obtain ⟨claim, claimed, kind, spent, outputs, scriptCode, inputValue⟩ : ∃ claim,
      disputeTx ⟨(close.withWitness witness).txid, 0⟩ value state.lock
        (spentChannel.token.closingKeys key) shop.merchant.params.selfDelay
        shop.merchant.keys.payout fee shop.merchant.params.fees shop.merchant.params.dustLimit
        = .ok claim
      ∧ claim.kind = .dispute ∧ claim.spent = ⟨(close.withWitness witness).txid, 0⟩
      ∧ claim.outputs = [⟨value - fee, .toKey shop.merchant.keys.payout⟩]
      ∧ claim.scriptCode = .toCustomer state.lock spentChannel.token.disputeKey key
        shop.merchant.params.selfDelay
      ∧ claim.inputValue = value :=
    ⟨_, claimTx_eq_ok.2 ⟨bounds, enough, worth, rfl⟩, rfl, rfl, rfl, rfl, rfl⟩
  have script : Script.payToScript (.toCustomer state.lock channel.token.disputeKey key
      shop.merchant.params.selfDelay)
      = .payToScript (.toCustomer state.lock shop.merchant.keys.dispute key
        shop.merchant.params.selfDelay) := by
    rw [disputeKey]
  refine ⟨_, _, dispute_of_known publishes known spends shape script claimed, kind, claim, _, spent,
    inputValue, outputs, ?_, ?_, rfl⟩
  · rw [scriptCode, disputeKey, otherKey]
  · rw [← fit.dispute]
    exact SignableTx.verifies_sign _ _

/-- Revoked states can be punished, and no others. In every run, a customer-close transaction of any
state of a registered channel is disputed successfully once the ledger has the secret of the state,
signed or not and from both sources, as long as the fee is within its bounds and leaves an output
worth spending. A transaction whose lock has no secret is never disputed.
-/
theorem revoked_states_punishable (opens : start.Opens params policy source)
    (run : start.Run history shop)
    : (∀ escrow channel, shop.merchant.channels.get? escrow = some channel
        → ∀ source state key close,
          channel.token.customerCloseTx source state key shop.merchant.params = .ok close
        → ∀ witness output, (close.withWitness witness).outputs.head? = some output
        → ∀ secret, shop.ledger.get state.lock = .ok (some secret)
        → ∀ fee, shop.merchant.params.fees.leastFee ≤ fee
        → fee ≤ shop.merchant.params.fees.greatestFee
        → fee ≤ output.value → shop.merchant.params.dustLimit ≤ output.value - fee
        → ∃ signed after,
          shop.merchant.dispute shop.ledger (close.withWitness witness) fee
            = .ok (some signed, after)
          ∧ Punishes shop.merchant (close.withWitness witness) output secret fee signed)
      ∧ ∀ tx fee published, Publication.ofTransaction tx = .ok published
        → shop.ledger.get published.lock = .ok none
        → shop.merchant.dispute shop.ledger tx fee = .ok (none, shop.merchant) := by
  constructor
  · intro escrow channel found source state key close formed witness output first secret known fee
      least greatest enough worth
    exact dispute_of_revoked (Standing.run opens run) (KeysFit.run opens run) found formed witness
      first known ⟨least, greatest⟩ enough worth
  · intro tx fee published publishes unknown
    exact dispute_of_unknown publishes unknown

end Runs

-----------------------------------------------------------------------------------------
-- A stale close
-----------------------------------------------------------------------------------------

section Example

open Bench

-- Unification would compute keys and hashes where comparing their arguments is enough.
attribute [local irreducible] SecretKey.publicKey SignableTx.txid SignableTx.sign
  SignableTx.verifies sha256 hmacSha256

/-- The close transaction of a first state. -/
def steadyStaleClose : SignableTx where
  kind := .customerCloseFromEscrow
  spent := ⟨steadyEscrow, 0⟩
  sequence := finalSequence
  outputs :=
    [⟨8000, .payToScript (.toCustomer steadyRevocation.lock steadyKey.publicKey steadyKey.publicKey
        defaultSelfDelay)⟩,
      ⟨10000, .toKey steadyKey.publicKey⟩,
      Publication.output ⟨steadyRevocation.lock, steadyKey.publicKey⟩]
      ++ anchorOutput .default steadyKey.publicKey
  scriptCode := .escrow steadyKey.publicKey steadyKey.publicKey
  inputValue := 20000

/-- The secret of the first state is known once it was recorded. -/
theorem steadySecret_recorded
    : ((LedgerEvent.record steadyRevocation.lock steadyRevocation.secret).apply
        steadyShop.ledger).get steadyRevocation.lock
      = .ok (some steadyRevocation.secret) := by
  have written : steadyShop.ledger.put steadyRevocation.lock steadyRevocation.secret
      = .ok { store := .memory (Dict.empty.insert steadyRevocation.lock steadyRevocation.secret) } :=
    rfl
  exact (Ledger.keeps_put written rfl).get rfl

/-- A stale close is punished once its secret was recorded. -/
theorem revoked_states_punishable_steady
    : steadyShop.Opens .default .reject steadySource
      ∧ ∃ history shop, steadyShop.Run history shop
      ∧ ∃ output, steadyStaleClose.outputs.head? = some output
      ∧ ∃ signed after,
        shop.merchant.dispute shop.ledger (steadyStaleClose.withWitness []) 1000
          = .ok (some signed, after)
        ∧ Punishes shop.merchant (steadyStaleClose.withWitness []) output steadyRevocation.secret
          1000 signed := by
  obtain ⟨history, run⟩ := registeredBench_run.shopRun
  have recorded := run.ledger (.record steadyRevocation.lock steadyRevocation.secret)
  have written : steadyShop.ledger.put steadyRevocation.lock steadyRevocation.secret
      = .ok { store := .memory (Dict.empty.insert steadyRevocation.lock steadyRevocation.secret) } :=
    rfl
  have known := (Ledger.keeps_put written rfl).get rfl
  have formed : steadyToken.customerCloseTx .escrow steadyFirst steadyKey.publicKey .default
      = .ok steadyStaleClose := rfl
  obtain ⟨punished, -⟩ := revoked_states_punishable steadyShop_opens recorded
  exact ⟨steadyShop_opens, history, _, recorded, _, rfl,
    punished steadyEscrow _ (Dict.get?_insert_self _ _ _) .escrow steadyFirst steadyKey.publicKey
      steadyStaleClose formed [] _ rfl steadyRevocation.secret known 1000 (by decide) (by decide)
      (by decide) (by decide)⟩

end Example

end PaymentChannel
