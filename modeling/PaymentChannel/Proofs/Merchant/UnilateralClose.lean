import PaymentChannel.Proofs.Merchant.ChannelMoves
import PaymentChannel.Proofs.Script.FinishedSpends

/-! A merchant can always close its channels on its own.
Whatever a customer asks for when it registers a channel, the merchant keeps the merchant-close
transaction of that channel with both signatures. No later call changes it, and the claim that is
formed much later takes its output.
-/

namespace PaymentChannel

open Merchant

-----------------------------------------------------------------------------------------
-- What closes a channel
-----------------------------------------------------------------------------------------

namespace ChannelToken

/-- The script of the escrow. -/
def escrowScript (token : ChannelToken) : Script :=
  .escrow token.merchantKey token.customerKey

/-- The script of the output of the merchant-close transaction. -/
def merchantCloseScript (token : ChannelToken) (delay : UInt16) : Script :=
  .merchantClose token.merchantKey token.customerKey token.payoutKey delay

/-- A transaction spends the escrow of the given value, and nothing else, with two signatures that
verify under the keys of both parties.
-/
structure SpentTogether (token : ChannelToken) (value : Sat) (tx : Transaction) (input : TxIn)
    (merchant customer : Signature)
    : Prop where
  only : tx.inputs = [input]
  escrow : input.previousOutput = token.escrowOutPoint
  witness : input.witness = [[], SignableTx.witnessSignature merchant,
    SignableTx.witnessSignature customer, token.escrowScript.bytes]
  merchantSigned : Ecdsa.verify token.merchantKey
    (tx.inputDigest input token.escrowScript value) merchant = true
  customerSigned : Ecdsa.verify token.customerKey
    (tx.inputDigest input token.escrowScript value) customer = true

/-- A finished transaction takes the output of the merchant-close transaction, which is worth the
given value, when the delay is over. It pays to a key all but the fee.
-/
structure OutputTaken (token : ChannelToken) (params : ChannelParams) (payout : PublicKey)
    (worth fee : Sat) (signed : SignedTx)
    : Prop where
  input : ∃ input, signed.tx.inputs = [input]
    ∧ input.previousOutput = token.merchantCloseOutPoint
    ∧ input.sequence = blockSequence params.selfDelay
  pays : signed.tx.outputs = [⟨worth - fee, .toKey payout⟩]
  spends : signed.Spends ⟨worth, .payToScript (token.merchantCloseScript params.selfDelay)⟩

end ChannelToken

/-- The transaction that is kept of a channel takes the escrow, under the name that the token gives
it. All but the fee and the output for a child goes to the script of the merchant-close output.
-/
structure MerchantChannel.Secured (channel : MerchantChannel) (params : ChannelParams)
    (value worth : Sat)
    : Prop where
  funded : channel.funding.escrowValue = .ok value
  name : channel.signedClose.txid = channel.token.merchantCloseTxid
  txid : channel.signedClose.tx.txid = channel.token.merchantCloseTxid
  signed : ∃ input merchant customer,
    channel.token.SpentTogether value channel.signedClose.tx input merchant customer
  spends : channel.signedClose.Spends ⟨value, .payToScript channel.token.escrowScript⟩
  pays : channel.signedClose.tx.outputs.head?
    = some ⟨worth, .payToScript (channel.token.merchantCloseScript params.selfDelay)⟩
  worth : worth.toNat + params.fees.merchantCloseFee.toNat + params.fees.anchorValue.toNat
    = value.toNat

/-- What a merchant has of a channel, and can do without the customer as long as no close
transaction of the customer was seen: it gets the transaction that it keeps, and can then take the
output of it for every fee that leaves an output worth spending.
-/
structure Merchant.CanClose (merchant : Merchant) (escrow : Txid) (channel : MerchantChannel)
    (value worth : Sat)
    : Prop where
  keys : channel.token.merchantKeys = merchant.keys
  placed : channel.token.escrowTxid = escrow
  secured : channel.Secured merchant.params value worth
  closes : channel.status.Live
    → ∃ after, merchant.forceClose escrow = .ok (channel.signedClose, after)
      ∧ ∀ fee, merchant.params.fees.leastFee ≤ fee → fee ≤ merchant.params.fees.greatestFee
      → fee.toNat + merchant.params.dustLimit.toNat ≤ worth.toNat
      → ∃ signed, after.claimMerchantClose escrow fee = .ok signed
        ∧ channel.token.OutputTaken merchant.params merchant.keys.payout worth fee signed

-----------------------------------------------------------------------------------------
-- The transaction that is kept
-----------------------------------------------------------------------------------------

/-- What was checked of a request makes the channel secure. -/
theorem MerchantChannel.RegisteredFor.secured {channel : MerchantChannel} {params : ChannelParams}
    {escrow : Txid} {key : SecretKey} {request : OpenRequest} {value : Sat} {close : SignableTx}
    (registered : channel.RegisteredFor escrow params key request value close)
    (own : key.publicKey = channel.token.merchantKey)
    : ∃ worth, channel.Secured params value worth := by
  obtain ⟨⟨funded, formed, named, customerSigned⟩, -, token, funding, signedClose⟩ := registered
  rw [← token] at formed named customerSigned
  have merchantSigned : close.verifies (close.sign key) channel.token.merchantKey = true :=
    own ▸ close.verifies_sign key
  have finished := (FinishedSpend.merchantClose formed merchantSigned customerSigned).spends
  obtain ⟨-, worth, left, -, rfl⟩ := merchantCloseTx_eq_ok.1 formed
  exact ⟨worth, {
    funded := funding ▸ funded
    name := by rw [signedClose, ← named]; rfl
    txid := by rw [signedClose, ← named]; rfl
    signed := by
      rw [signedClose]
      exact ⟨_, _, _, rfl, rfl, rfl, merchantSigned, customerSigned⟩
    spends := signedClose ▸ finished
    pays := by rw [signedClose]; rfl
    worth := toNat_of_merchantCloseValue left }⟩

namespace Merchant

variable {merchant : Merchant} {escrow : Txid} {channel : MerchantChannel} {value worth fee : Sat}

/-- The output of the transaction that is kept can be claimed as soon as the merchant closes the
channel.
-/
theorem claimMerchantClose_of_secured (fit : merchant.KeysFit)
    (own : channel.token.payoutKey = merchant.keys.payout)
    (secured : channel.Secured merchant.params value worth)
    (bounds : merchant.params.fees.leastFee ≤ fee ∧ fee ≤ merchant.params.fees.greatestFee)
    (leaves : fee.toNat + merchant.params.dustLimit.toNat ≤ worth.toNat)
    : ∃ signed, (merchant.setChannel escrow
          { channel with status := .merchantClosing }).claimMerchantClose escrow fee = .ok signed
      ∧ channel.token.OutputTaken merchant.params merchant.keys.payout worth fee signed := by
  have enough : fee ≤ worth := UInt64.le_iff_toNat_le.2 (by omega)
  have left := Sat.toNat_sub_add enough
  have dust : merchant.params.dustLimit ≤ worth - fee := UInt64.le_iff_toNat_le.2 (by omega)
  obtain ⟨claim, formed, input, outputs⟩ : ∃ claim,
      merchantClaimTx channel.token.merchantCloseOutPoint worth
        (channel.token.closingKeys channel.token.customerKey) merchant.params.selfDelay
        merchant.keys.payout fee merchant.params.fees merchant.params.dustLimit = .ok claim
      ∧ (∀ witness, claim.input witness
        = ⟨channel.token.merchantCloseOutPoint, .empty, blockSequence merchant.params.selfDelay,
          witness⟩)
      ∧ claim.outputs = [⟨worth - fee, .toKey merchant.keys.payout⟩] :=
    ⟨_, claimTx_eq_ok.2 ⟨bounds, enough, dust, rfl⟩, fun _ => rfl, rfl⟩
  have signed : claim.verifies (claim.sign merchant.payoutSecret) channel.token.payoutKey = true := by
    rw [own, ← fit.payout]
    exact claim.verifies_sign _
  refine ⟨claim.finalizeDelayed (claim.sign merchant.payoutSecret), ?_, ?_⟩
  · exact claimMerchantClose_eq_ok.2 ⟨_, Dict.get?_insert_self _ _ _, rfl, _, secured.pays, claim,
      formed, rfl⟩
  · exact ⟨⟨_, rfl, by rw [input], by rw [input]⟩, outputs,
      (FinishedSpend.merchantClaim formed signed).spends⟩

end Merchant

-----------------------------------------------------------------------------------------
-- Runs
-----------------------------------------------------------------------------------------

section Runs

variable {params : ChannelParams} {policy : RefundPolicy} {source : Entropy} {start shop : Shop}
  {history : List MerchantExchange} {escrow : Txid} {channel : MerchantChannel}

/-- A merchant can close every registered channel on its own, whatever was asked of it before. -/
theorem closes_unilaterally (opens : start.Opens params policy source)
    (run : start.Run history shop)
    (found : shop.merchant.channels.get? escrow = some channel)
    : ∃ value worth, shop.merchant.CanClose escrow channel value worth := by
  have standing := Standing.run opens run
  have fit := KeysFit.run opens run
  obtain ⟨merchantKey, payoutKey, disputeKey⟩ :=
    ChannelToken.checkMerchant_eq_ok.1 (standing.agrees escrow channel found).checkMerchant
  obtain ⟨request, value, close, registered⟩ := Shop.registeredFor_of_run opens run found
  rw [← (terms_of_run opens standing).1, ← standing.terms.escrowSecret] at registered
  obtain ⟨worth, secured⟩ := registered.secured (fit.escrow.trans merchantKey.symm)
  exact ⟨value, worth, {
    keys := by rw [ChannelToken.merchantKeys, merchantKey, payoutKey, disputeKey]
    placed := Shop.escrowTxid_of_run opens run found
    secured
    closes live := ⟨_, forceClose_eq_ok.2 ⟨channel, found, live, rfl, rfl⟩,
      fun _ least greatest leaves =>
        claimMerchantClose_of_secured fit payoutKey secured ⟨least, greatest⟩ leaves⟩ }⟩

end Runs

-----------------------------------------------------------------------------------------
-- A channel that the merchant closes
-----------------------------------------------------------------------------------------

section Example

open Bench

-- Unification would compute keys and hashes where comparing their arguments is enough.
attribute [local irreducible] SecretKey.publicKey SignableTx.txid SignableTx.sign
  SignableTx.verifies sha256 hmacSha256

/-- The merchant closes a channel of 20000 on its own and takes what is left but a fee of 500. -/
theorem closes_unilaterally_steady
    : steadyShop.Opens .default .reject steadySource
      ∧ ∃ history, ∃ channel : MerchantChannel, steadyShop.Run history (steadyShopWith channel)
      ∧ channel.status.Live
      ∧ ∃ after, (steadyShopWith channel).merchant.forceClose steadyEscrow
          = .ok (channel.signedClose, after)
      ∧ ∃ signed, after.claimMerchantClose steadyEscrow 500 = .ok signed
        ∧ signed.tx.outputs = [⟨17500, .toKey steadyKey.publicKey⟩] := by
  obtain ⟨history, run⟩ := closingShop_run
  obtain ⟨value, worth, closable⟩ :=
    closes_unilaterally steadyShop_opens run (steadyShopWith_found _)
  have funded : steadyFunding.escrowValue = .ok 20000 := rfl
  obtain rfl := Except.ok.inj (closable.secured.funded.symm.trans funded)
  have left : worth.toNat + 1000 + 1000 = 18000 + 1000 + 1000 := closable.secured.worth
  obtain rfl : worth = 18000 :=
    UInt64.toNat_inj.1 (Nat.add_right_cancel (Nat.add_right_cancel left))
  have live : ChannelStatus.Live .merchantClosing := by decide
  obtain ⟨after, closed, claimable⟩ := closable.closes live
  obtain ⟨signed, claimed, taken⟩ := claimable 500 (by decide) (by decide) (by decide)
  exact ⟨steadyShop_opens, history, _, run, live, after, closed, signed, claimed, taken.pays⟩

end Example

end PaymentChannel
