import PaymentChannel.Merchant
import PaymentChannel.Wire.Customer

/-! What is shown about keys, transactions and parties.
A report is a value for people and programs that look at a channel from outside; it repeats what it
shows in every form that they may look for.
-/

namespace PaymentChannel.Wire

/-- All texts of 32 bytes. -/
def hashReport (bytes : Bytes 32) : Value :=
  .record [
    ("display", encode bytes.hex), ("lower", encode bytes.hex),
    ("upper", encode (Hex.encode bytes.toList .upper)), ("short", encode bytes.abbreviated),
    ("short_upper", encode (bytes.abbreviated .upper)), ("serde", encode bytes.hex),
    ("serde_ok", encode true)]

/-- An output in all byte orders. -/
def outpointReport (outpoint : OutPoint) : Value :=
  let inner := outpoint.txid.bytes
  let shown := outpoint.txid.shown
  .record [
    ("prevout", encode outpoint.prevout), ("bytes", encode outpoint.prevout),
    ("le", encode inner.hex), ("be", encode shown.hex),
    ("back", encode (Txid.ofShown shown)), ("swapped", encode (Txid.ofShown inner))]

/-- A nonce and the one after it. -/
def nonceReport (nonce : Nonce) : Value :=
  let next := nonce.next
  .record [
    ("display", encode nonce.text), ("counter", encode nonce.count), ("next", encode next),
    ("next_display", encode next.text), ("next_counter", encode next.count),
    ("increased", encode (compare next nonce == .gt)), ("bytes", encode nonce.bytes.hex)]

/-- What is used where nothing was chosen, and the usual terms on a network. -/
def defaultsReport (name : String) (network : Network) : Value :=
  .record [
    ("params", encode ChannelParams.default),
    ("with", encode (ChannelParams.standard name network)),
    ("policy", encode RefundPolicy.default),
    ("policy_display", encode RefundPolicy.default.label),
    ("lifecycle", encode Stage.initialized.label),
    ("status", encode ChannelStatus.unfunded.label),
    ("nonce", encode (Nonce.mk (.replicate 16 0))),
    ("prevout", encode (Prevout.mk (.replicate 32 0))),
    ("close_balances", encode (CloseBalances.mk 0 0))]

/-- A token with what follows from it. -/
def tokenReport (token : ChannelToken) : List (String × Value) :=
  [("token", encode token), ("channel_id", encode token.channelId),
    ("escrow_txid_be", encode token.escrowTxid.shown.hex),
    ("escrow_txid_le", encode token.escrowTxid.bytes.hex),
    ("merch_txid_be", encode token.merchantCloseTxid.shown.hex),
    ("merch_txid_le", encode token.merchantCloseTxid.bytes.hex),
    ("escrow_outpoint", encode token.escrowOutPoint),
    ("merch_outpoint", encode token.merchantCloseOutPoint),
    ("merchant_keys", encode token.merchantKeys)]

/-- A script and the output that is locked by it. -/
def scriptReport (value : Sat) (script : Script) : Value :=
  let locking := Script.payToScript script
  .record [
    ("lock", encode script), ("witness", encode script), ("pubkey", encode locking),
    ("txout", encode (TxOut.mk value locking))]

/-- An output that pays to the holder of a key. -/
def keyScriptReport (value : Sat) (key : PublicKey) : Value :=
  let locking := Script.toKey key
  let code := encode (Script.keyCode key)
  .record [
    ("lock", code), ("witness", code), ("script_code", code), ("pubkey", encode locking),
    ("p2wpkh", encode locking), ("txout", encode (TxOut.mk value locking))]

/-- A finished transaction. -/
def signedReport (signed : SignedTx) : Value :=
  .record [
    ("kind", encode signed.kind), ("txid", encode signed.txid),
    ("txid_le", encode signed.txid.bytes.hex), ("txid_be", encode signed.txid.shown.hex),
    ("tx", encode signed.tx), ("hex", encode signed.tx.hex)]

/-- A finished transaction, if there is one. -/
def signedReport? (signed : Option SignedTx) : Value :=
  (signed.map signedReport).getD .null

/-- A transaction before it is signed. -/
def signableReport {ε : Type} (signable : SignableTx) : Outcome ε Value := do
  return .record [
    ("kind", encode signable.kind), ("txid", encode signable.txid),
    ("script_code", encode signable.scriptCode), ("input_value", encode signable.inputValue),
    ("output_value", encode (← signable.outputValue)),
    ("sighash", encode signable.sighash.hex), ("tx", encode signable.transaction),
    ("hex", encode signable.transaction.hex)]

/-- How far a customer has come. -/
def customerSummary (customer : Customer) : Value :=
  .record [
    ("stage", encode customer.stage.label), ("status", encode customer.status.label),
    ("bc", encode customer.balance), ("bm", encode customer.merchantBalance),
    ("nonce", encode customer.nonce.text), ("pay_token", encode customer.payToken),
    ("trusted", encode customer.merchantTrusted), ("pending", encode customer.pending.isSome),
    ("session", encode (customer.pendingSession.map SessionId.text))]

/-- A customer and its channel. -/
def customerReport (customer : Customer) : Value :=
  let channel := customer.channel
  .record [
    ("name", encode customer.name), ("params", encode customer.params),
    ("pk_c", encode customer.escrowKey), ("cust_close_pk", encode customer.closeKey),
    ("merch_keys", encode customer.merchantKeys), ("token", encode (channel.map (·.token))),
    ("funding", encode (channel.map (·.funding))), ("state", encode customer.state),
    ("escrow_tx", signedReport? (channel.bind (·.escrowTx))),
    ("channel_id", encode (channel.map (·.token.channelId)))]

/-- How far a merchant has come with some channels and payments. -/
def merchantSummary (merchant : Merchant) (escrows : List Txid) (nonces : List Nonce) : Value :=
  let channels := escrows.map fun escrow =>
    (escrow.text, encode ((merchant.channelStatus escrow).map ChannelStatus.label))
  let payments := nonces.map fun nonce =>
    (nonce.text, encode ((merchant.nonceStatus nonce).map PaymentStatus.label))
  .record [
    ("live", encode merchant.liveSessions), ("channels", .record channels),
    ("nonces", .record payments)]

/-- What a merchant knows about a channel, a session, a nonce and the secret of a lock. -/
def merchantReport (merchant : Merchant) (escrow : Option Txid) (session : Option SessionId)
    (nonce : Option Nonce) (known : Option RevSecret)
    : Value :=
  .record [
    ("token", encode (escrow.bind merchant.channelToken)),
    ("channel", encode ((escrow.bind merchant.channelStatus).map ChannelStatus.label)),
    ("session", encode ((session.bind merchant.sessionStatus).map PaymentStatus.label)),
    ("nonce", encode ((nonce.bind merchant.nonceStatus).map PaymentStatus.label)),
    ("spent", encode (nonce.map merchant.isNonceSpent)), ("known", encode known)]

end PaymentChannel.Wire
