import PaymentChannel.Service
import PaymentChannel.Wire.Transaction

/-! How channel terms, states and messages are written as values. -/

namespace PaymentChannel.Wire

-----------------------------------------------------------------------------------------
-- Terms and progress
-----------------------------------------------------------------------------------------

instance : Codec Network := .texts Network.label fun text => Network.all.find? (·.label == text)
instance : Codec RefundPolicy := .names RefundPolicy.all RefundPolicy.label

/-- The names of stages in kept states. -/
def stageName : Stage → String
  | .initialized => "Initialized"
  | .funded => "Funded"
  | .activated => "Activated"
  | .ready => "Open"
  | .closing => "Closing"
  | .closed => "Closed"
  | .disputed => "Disputed"

/-- The names of channel statuses in kept states. -/
def statusName : ChannelStatus → String
  | .unfunded => "None"
  | .pendingOpen => "PendingOpen"
  | .confirmed => "Open"
  | .merchantClosing => "MerchantInitClose"
  | .customerClosing => "CustomerInitClose"
  | .disputed => "Disputed"
  | .pendingClose => "PendingClose"
  | .settled => "ConfirmedClose"

/-- The names of payment statuses in kept states. -/
def paymentName : PaymentStatus → String
  | .prepared => "Prepare"
  | .updating => "Update"
  | .confirmed => "Confirmed"
  | .revoked => "Revoked"
  | .failed => "Error"

instance : Codec Stage := .names Stage.all stageName
instance : Codec ChannelStatus := .names ChannelStatus.all statusName
instance : Codec PaymentStatus := .names PaymentStatus.all paymentName

instance : Codec ChannelParams where
  encode params := .record [
    ("name", encode params.name), ("self_delay", encode params.selfDelay),
    ("dust_limit", encode params.dustLimit), ("network", encode params.network),
    ("fees", encode params.fees)]
  decode? value := do
    let [name, selfDelay, dustLimit, network, fees] ←
        value.members? ["name", "self_delay", "dust_limit", "network", "fees"]
      | none
    return ⟨← required name, ← required selfDelay, ← required dustLimit, ← required network,
      ← required fees⟩

-----------------------------------------------------------------------------------------
-- Identifiers, hashes and secrets
-----------------------------------------------------------------------------------------

instance : Codec Nonce := .wrap (listedBytes 16) Nonce.mk Nonce.bytes
instance : Codec SessionId := .wrap (listedBytes 16) SessionId.mk SessionId.bytes
instance : Codec PayMaskRandomness :=
  .wrap (listedBytes 16) PayMaskRandomness.mk PayMaskRandomness.bytes
instance : Codec RevSecret := .wrap (hexBytes 32) RevSecret.mk RevSecret.bytes
instance : Codec RevLockCom := .wrap (hexBytes 32) RevLockCom.mk RevLockCom.bytes
instance : Codec BlindingFactor := .wrap (hexBytes 32) BlindingFactor.mk BlindingFactor.bytes
instance : Codec HmacKey := .wrap (hexBytes 32) HmacKey.mk HmacKey.bytes
instance : Codec StateHash := .wrap (hexBytes 32) StateHash.mk StateHash.bytes
instance : Codec PayToken := .wrap (hexBytes 32) PayToken.mk PayToken.bytes
instance : Codec SigMask := .wrap (hexBytes 32) SigMask.mk SigMask.bytes
instance : Codec PayTokenMask := .wrap (hexBytes 32) PayTokenMask.mk PayTokenMask.bytes
instance : Codec PayMaskCom := .wrap (hexBytes 32) PayMaskCom.mk PayMaskCom.bytes
instance : Codec MaskedPayToken := .wrap (hexBytes 32) MaskedPayToken.mk MaskedPayToken.bytes
instance : Codec ChannelId := .wrap (hexBytes 32) ChannelId.mk ChannelId.bytes

-----------------------------------------------------------------------------------------
-- Channels and states
-----------------------------------------------------------------------------------------

instance : Codec MerchantKeys where
  encode keys := .record [
    ("pk_m", encode keys.escrow), ("payout_pk", encode keys.payout),
    ("dispute_pk", encode keys.dispute)]
  decode? value := do
    let [escrow, payout, dispute] ← value.members? ["pk_m", "payout_pk", "dispute_pk"] | none
    return ⟨← required escrow, ← required payout, ← required dispute⟩

instance : Codec FundingInfo where
  encode funding := .record [
    ("escrow_txid", encode funding.escrowTxid),
    ("escrow_prevout", encode funding.escrowPrevout),
    ("merch_txid", encode funding.merchantCloseTxid),
    ("merch_prevout", encode funding.merchantClosePrevout),
    ("init_cust_bal", encode funding.customerBalance),
    ("init_merch_bal", encode funding.merchantBalance),
    ("fee_mc", encode funding.merchantCloseFee),
    ("min_fee", encode funding.leastFee),
    ("max_fee", encode funding.greatestFee)]
  decode? value := do
    let [escrow, escrowPrevout, close, closePrevout, customer, merchant, fee, least, greatest] ←
        value.members? ["escrow_txid", "escrow_prevout", "merch_txid", "merch_prevout",
          "init_cust_bal", "init_merch_bal", "fee_mc", "min_fee", "max_fee"]
      | none
    return {
      escrowTxid := ← required escrow
      escrowPrevout := ← required escrowPrevout
      merchantCloseTxid := ← required close
      merchantClosePrevout := ← required closePrevout
      customerBalance := ← required customer
      merchantBalance := ← required merchant
      merchantCloseFee := ← required fee
      leastFee := ← required least
      greatestFee := ← required greatest }

instance : Codec ChannelToken where
  encode token := .record [
    ("pk_c", encode token.customerKey), ("pk_m", encode token.merchantKey),
    ("merch_payout_pk", encode token.payoutKey), ("merch_dispute_pk", encode token.disputeKey),
    ("escrow_txid", encode token.escrowTxid), ("escrow_prevout", encode token.escrowPrevout),
    ("merch_txid", encode token.merchantCloseTxid),
    ("merch_prevout", encode token.merchantClosePrevout)]
  decode? value := do
    let [customer, merchant, payout, dispute, escrow, escrowPrevout, close, closePrevout] ←
        value.members? ["pk_c", "pk_m", "merch_payout_pk", "merch_dispute_pk", "escrow_txid",
          "escrow_prevout", "merch_txid", "merch_prevout"]
      | none
    return {
      customerKey := ← required customer
      merchantKey := ← required merchant
      payoutKey := ← required payout
      disputeKey := ← required dispute
      escrowTxid := ← required escrow
      escrowPrevout := ← required escrowPrevout
      merchantCloseTxid := ← required close
      merchantClosePrevout := ← required closePrevout }

instance : Codec ChannelState where
  encode state := .record [
    ("nonce", encode state.nonce), ("rev_lock", encode state.lock),
    ("pk_c", encode state.customerKey), ("pk_m", encode state.merchantKey),
    ("bc", encode state.customerBalance), ("bm", encode state.merchantBalance),
    ("escrow_txid", encode state.escrowTxid), ("merch_txid", encode state.merchantCloseTxid),
    ("escrow_prevout", encode state.escrowPrevout),
    ("merch_prevout", encode state.merchantClosePrevout)]
  decode? value := do
    let [nonce, lock, customerKey, merchantKey, customer, merchant, escrow, close, escrowPrevout,
        closePrevout] ←
        value.members? ["nonce", "rev_lock", "pk_c", "pk_m", "bc", "bm", "escrow_txid",
          "merch_txid", "escrow_prevout", "merch_prevout"]
      | none
    return {
      nonce := ← required nonce
      lock := ← required lock
      customerKey := ← required customerKey
      merchantKey := ← required merchantKey
      customerBalance := ← required customer
      merchantBalance := ← required merchant
      escrowTxid := ← required escrow
      merchantCloseTxid := ← required close
      escrowPrevout := ← required escrowPrevout
      merchantClosePrevout := ← required closePrevout }

-----------------------------------------------------------------------------------------
-- Messages
-----------------------------------------------------------------------------------------

instance : Codec OpenRequest where
  encode request := .record [
    ("token", encode request.token), ("funding", encode request.funding),
    ("cust_sig", encode request.signature)]
  decode? value := do
    let [token, funding, signature] ← value.members? ["token", "funding", "cust_sig"] | none
    return ⟨← required token, ← required funding, ← required signature⟩

instance : Codec InitialState where
  encode init := .record [
    ("escrow_txid", encode init.escrowTxid), ("pk_c", encode init.customerKey),
    ("cust_close_pk", encode init.closeKey), ("bc", encode init.customerBalance),
    ("bm", encode init.merchantBalance), ("nonce", encode init.nonce),
    ("rev_lock", encode init.lock)]
  decode? value := do
    let [escrow, customerKey, closeKey, customer, merchant, nonce, lock] ←
        value.members? ["escrow_txid", "pk_c", "cust_close_pk", "bc", "bm", "nonce", "rev_lock"]
      | none
    return {
      escrowTxid := ← required escrow
      customerKey := ← required customerKey
      closeKey := ← required closeKey
      customerBalance := ← required customer
      merchantBalance := ← required merchant
      nonce := ← required nonce
      lock := ← required lock }

instance : Codec CloseSignatures where
  encode signatures := .record [
    ("escrow_sig", encode signatures.escrow), ("merch_sig", encode signatures.merchantClose)]
  decode? value := do
    let [escrow, merchantClose] ← value.members? ["escrow_sig", "merch_sig"] | none
    return ⟨← required escrow, ← required merchantClose⟩

instance : Codec PaymentRequest where
  encode request := .record [
    ("session_id", encode request.session), ("nonce", encode request.nonce),
    ("rev_lock_com", encode request.commitment), ("amount", encode request.amount),
    ("justification", encode request.justification)]
  decode? value := do
    let [session, nonce, commitment, amount, justification] ←
        value.members? ["session_id", "nonce", "rev_lock_com", "amount", "justification"]
      | none
    return ⟨← required session, ← required nonce, ← required commitment, ← required amount,
      ← optional justification⟩

instance : Codec PaymentResponse where
  encode response := .record [
    ("session_id", encode response.session), ("pay_mask_com", encode response.commitment)]
  decode? value := do
    let [session, commitment] ← value.members? ["session_id", "pay_mask_com"] | none
    return ⟨← required session, ← required commitment⟩

instance : Codec TxMasks where
  encode masks := .record [
    ("escrow_mask", encode masks.escrow), ("merch_mask", encode masks.merchantClose)]
  decode? value := do
    let [escrow, merchantClose] ← value.members? ["escrow_mask", "merch_mask"] | none
    return ⟨← required escrow, ← required merchantClose⟩

instance : Codec ReleasedMasks where
  encode released := .record [
    ("session_id", encode released.session), ("masks", encode released.masks)]
  decode? value := do
    let [session, masks] ← value.members? ["session_id", "masks"] | none
    return ⟨← required session, ← required masks⟩

instance : Codec MaskedSignature where
  encode masked := .record [
    ("r", (listedBytes 32).encode masked.r),
    ("masked_s", (listedBytes 32).encode masked.maskedS)]
  decode? value := do
    let [r, s] ← value.members? ["r", "masked_s"] | none
    return ⟨← (listedBytes 32).decode? (← r), ← (listedBytes 32).decode? (← s)⟩

instance : Codec MaskedOutputs where
  encode outputs := .record [
    ("escrow_sig", encode outputs.escrow), ("merch_sig", encode outputs.merchantClose),
    ("pay_token", encode outputs.payToken)]
  decode? value := do
    let [escrow, merchantClose, token] ←
        value.members? ["escrow_sig", "merch_sig", "pay_token"]
      | none
    return ⟨← required escrow, ← required merchantClose, ← required token⟩

instance : Codec PayMaskOpening where
  encode opening := .record [
    ("pt_mask", encode opening.mask), ("r", encode opening.randomness)]
  decode? value := do
    let [mask, randomness] ← value.members? ["pt_mask", "r"] | none
    return ⟨← required mask, ← required randomness⟩

instance : Codec RevokedState where
  encode revoked := .record [
    ("nonce", encode revoked.nonce), ("rev_lock_com", encode revoked.commitment),
    ("rev_lock", encode revoked.lock), ("rev_secret", encode revoked.secret),
    ("t", encode revoked.blinding)]
  decode? value := do
    let [nonce, commitment, lock, secret, blinding] ←
        value.members? ["nonce", "rev_lock_com", "rev_lock", "rev_secret", "t"]
      | none
    return ⟨← required nonce, ← required commitment, ← required lock, ← required secret,
      ← required blinding⟩

instance : Codec Receipt where
  encode receipt := .record [
    ("session_id", encode receipt.session), ("nonce", encode receipt.nonce),
    ("cust_balance", encode receipt.customerBalance),
    ("merch_balance", encode receipt.merchantBalance)]
  decode? value := do
    let [session, nonce, customer, merchant] ←
        value.members? ["session_id", "nonce", "cust_balance", "merch_balance"]
      | none
    return ⟨← required session, ← required nonce, ← required customer, ← required merchant⟩

-----------------------------------------------------------------------------------------
-- Inputs of the masking service
-----------------------------------------------------------------------------------------

instance : Codec CustomerInput where
  encode input := .record [
    ("token", encode input.token), ("cust_close_pk", encode input.closeKey),
    ("old_state", encode input.old), ("new_state", encode input.new),
    ("old_pay_token", encode input.payToken), ("t", encode input.blinding),
    ("amount", encode input.amount), ("pay_mask_com", encode input.commitment)]
  decode? value := do
    let [token, closeKey, old, new, payToken, blinding, amount, commitment] ←
        value.members? ["token", "cust_close_pk", "old_state", "new_state", "old_pay_token", "t",
          "amount", "pay_mask_com"]
      | none
    return {
      token := ← required token
      closeKey := ← required closeKey
      old := ← required old
      new := ← required new
      payToken := ← required payToken
      blinding := ← required blinding
      amount := ← required amount
      commitment := ← required commitment }

/-- The merchant's input of the masking service as a value. -/
def encodeMerchantInput (input : MerchantInput) : Value :=
  .record [
    ("session_id", encode input.session), ("nonce", encode input.nonce),
    ("rev_lock_com", encode input.commitment), ("amount", encode input.amount),
    ("keys", encode input.keys), ("sk_m", encode input.key),
    ("hmac_key", encode input.hmacKey), ("tx_masks", encode input.masks),
    ("pt_mask", encode input.opening.mask), ("pt_mask_r", encode input.opening.randomness),
    ("params", encode input.params)]

/-- Reads a field of a record that has to be there, or gives its name. -/
def fieldOrName {α : Type} [Codec α] (value : Value) (name : String) : Except String α :=
  match required (value.field? name) with
  | some member => .ok member
  | none => .error name

/-- Reads the merchant's input of the masking service, or names the first field that is wrong. -/
def decodeMerchantInput (value : Value) : Except String MerchantInput := do
  return {
    session := ← fieldOrName value "session_id"
    nonce := ← fieldOrName value "nonce"
    commitment := ← fieldOrName value "rev_lock_com"
    amount := ← fieldOrName value "amount"
    keys := ← fieldOrName value "keys"
    key := ← fieldOrName value "sk_m"
    hmacKey := ← fieldOrName value "hmac_key"
    masks := ← fieldOrName value "tx_masks"
    opening := ⟨← fieldOrName value "pt_mask", ← fieldOrName value "pt_mask_r"⟩
    params := ← fieldOrName value "params" }

end PaymentChannel.Wire
