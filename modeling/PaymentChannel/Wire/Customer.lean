import PaymentChannel.Customer
import PaymentChannel.Wire.Message

/-! How a customer is kept between two uses of its channel. -/

namespace PaymentChannel.Wire

instance : Codec FundedChannel where
  encode channel := .record [
    ("token", encode channel.token), ("funding", encode channel.funding),
    ("state", encode channel.state), ("escrow_tx", encode channel.escrowTx),
    ("close_sigs", encode channel.signatures)]
  decode? value := do
    let [token, funding, state, escrowTx, signatures] ←
        value.members? ["token", "funding", "state", "escrow_tx", "close_sigs"]
      | none
    return ⟨← required token, ← required funding, ← required state, ← optional escrowTx,
      ← optional signatures⟩

instance : Codec PendingRound where
  encode pending := .record [
    ("session_id", encode pending.session), ("amount", encode pending.amount),
    ("new_state", encode pending.new), ("new_secret", encode pending.newSecret),
    ("t", encode pending.blinding), ("rev_lock_com", encode pending.commitment),
    ("pay_mask_com", encode pending.maskCommitment), ("unmasked", encode pending.unmasked),
    ("revoked", encode pending.revoked)]
  decode? value := do
    let [session, amount, new, secret, blinding, commitment, mask, unmasked, revoked] ←
        value.members? ["session_id", "amount", "new_state", "new_secret", "t", "rev_lock_com",
          "pay_mask_com", "unmasked", "revoked"]
      | none
    return {
      session := ← required session
      amount := ← required amount
      new := ← required new
      newSecret := ← required secret
      blinding := ← required blinding
      commitment := ← required commitment
      maskCommitment := ← optional mask
      unmasked := ← optional unmasked
      revoked := ← optional revoked }

instance : Codec Customer where
  encode customer := .record [
    ("name", encode customer.name), ("params", encode customer.params),
    ("stage", encode customer.stage), ("status", encode customer.status),
    ("sk_c", encode customer.escrowSecret), ("pk_c", encode customer.escrowKey),
    ("payout_sk", encode customer.closeSecret), ("cust_close_pk", encode customer.closeKey),
    ("merch_keys", encode customer.merchantKeys),
    ("init_balances", encode customer.initialBalances),
    ("init_nonce", encode customer.initialNonce), ("rev_secret", encode customer.secret),
    ("channel", encode customer.channel), ("pay_token", encode customer.payToken),
    ("pending", encode customer.pending),
    ("merchant_trusted", encode customer.merchantTrusted)]
  decode? value := do
    let [name, params, stage, status, escrowSecret, escrowKey, closeSecret, closeKey, keys,
        balances, nonce, secret, channel, token, pending, trusted] ←
        value.members? ["name", "params", "stage", "status", "sk_c", "pk_c", "payout_sk",
          "cust_close_pk", "merch_keys", "init_balances", "init_nonce", "rev_secret", "channel",
          "pay_token", "pending", "merchant_trusted"]
      | none
    return {
      name := ← required name
      params := ← required params
      stage := ← required stage
      status := ← required status
      escrowSecret := ← required escrowSecret
      escrowKey := ← required escrowKey
      closeSecret := ← required closeSecret
      closeKey := ← required closeKey
      merchantKeys := ← required keys
      initialBalances := ← required balances
      initialNonce := ← required nonce
      secret := ← required secret
      channel := ← optional channel
      payToken := ← optional token
      pending := ← optional pending
      merchantTrusted := ← required trusted }

end PaymentChannel.Wire
