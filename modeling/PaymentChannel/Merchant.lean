import PaymentChannel.Channel.Draw
import PaymentChannel.Service
import PaymentChannel.Template.Claim
import PaymentChannel.Text.Blank

/-! The merchant: the channels that customers opened, the payments under way and the nonces that
were used up.
An operation that is refused leaves the merchant as it was. The two exceptions say what they do: a
masking that was not confirmed drops its session, and a wrong revocation uses up its nonce.
-/

namespace PaymentChannel

/-- A channel of the merchant. -/
structure MerchantChannel where
  token : ChannelToken
  funding : FundingInfo
  /-- The merchant-close transaction with both signatures. -/
  signedClose : SignedTx
  /-- The announced first state that was signed last. -/
  init : Option InitialState
  status : ChannelStatus
deriving DecidableEq

/-- A payment under way. -/
structure Session where
  nonce : Nonce
  commitment : RevLockCom
  amount : Balance
  masks : TxMasks
  opening : PayMaskOpening
  status : PaymentStatus
deriving DecidableEq

/-- A nonce that no further payment can use. -/
structure SpentNonce where
  session : SessionId
  /-- The lock and the secret that were revealed, unless they were wrong. -/
  revocation : Option (RevLock × RevSecret)
  opening : PayMaskOpening
deriving DecidableEq

/-- The state of a merchant. -/
structure Merchant where
  params : ChannelParams
  policy : RefundPolicy
  escrowSecret : SecretKey
  payoutSecret : SecretKey
  disputeSecret : SecretKey
  keys : MerchantKeys
  hmacKey : HmacKey
  /-- Channels by the transaction of their escrow. -/
  channels : Dict Txid MerchantChannel
  /-- Sessions that are neither revoked nor dropped. -/
  sessions : Dict SessionId Session
  /-- The nonces of these sessions. -/
  liveNonces : Dict Nonce SessionId
  spentNonces : Dict Nonce SpentNonce
deriving DecidableEq

namespace Merchant

/-- A merchant with fresh keys and no channels. -/
def init (params : ChannelParams) (policy : RefundPolicy) : Draw Merchant := do
  Draw.of (params.validate.mapRefusal .params)
  let escrowSecret ← Draw.secretKey
  let payoutSecret ← Draw.secretKey
  let disputeSecret ← Draw.secretKey
  let hmacKey ← Draw.bytes 32
  return {
    params, policy, escrowSecret, payoutSecret, disputeSecret
    keys := ⟨escrowSecret.publicKey, payoutSecret.publicKey, disputeSecret.publicKey⟩
    hmacKey := ⟨hmacKey⟩
    channels := .empty
    sessions := .empty
    liveNonces := .empty
    spentNonces := .empty }

-----------------------------------------------------------------------------------------
-- Look-ups
-----------------------------------------------------------------------------------------

/-- The channel of an escrow. -/
def channel (merchant : Merchant) (escrow : Txid) : Outcome ChannelError MerchantChannel :=
  .require (.unknownChannel escrow) (merchant.channels.get? escrow)

/-- The session of an identifier. -/
def session (merchant : Merchant) (id : SessionId) : Outcome ChannelError Session :=
  .require (.unknownSession id) (merchant.sessions.get? id)

/-- The first channel whose escrow or merchant-close output a transaction spends. -/
def channelSpentBy (merchant : Merchant) (tx : Transaction)
    : Outcome ChannelError (Txid × MerchantChannel) := do
  let input ← .require .unrecognizedCloseTx tx.inputs.head?
  .require (.unknownChannel input.previousOutput.txid)
    (merchant.channels.find? fun _ channel =>
      channel.token.escrowOutPoint = input.previousOutput
        || channel.token.merchantCloseOutPoint = input.previousOutput)

/-- The status of a channel, if it is known. -/
def channelStatus (merchant : Merchant) (escrow : Txid) : Option ChannelStatus :=
  (merchant.channels.get? escrow).map (·.status)

/-- The token of a channel, if it is known. -/
def channelToken (merchant : Merchant) (escrow : Txid) : Option ChannelToken :=
  (merchant.channels.get? escrow).map (·.token)

/-- The status of a session under way. -/
def sessionStatus (merchant : Merchant) (id : SessionId) : Option PaymentStatus :=
  (merchant.sessions.get? id).map (·.status)

/-- The number of sessions under way. -/
def liveSessions (merchant : Merchant) : Nat := merchant.sessions.size

/-- Whether a nonce is used up. -/
def isNonceSpent (merchant : Merchant) (nonce : Nonce) : Bool :=
  merchant.spentNonces.contains nonce

/-- The status of the payment that was made with a nonce. -/
def nonceStatus (merchant : Merchant) (nonce : Nonce) : Option PaymentStatus :=
  match merchant.spentNonces.get? nonce with
  | some spent => if spent.revocation.isSome then some .revoked else some .failed
  | none => (merchant.liveNonces.get? nonce).bind merchant.sessionStatus

-----------------------------------------------------------------------------------------
-- Changes
-----------------------------------------------------------------------------------------

/-- The merchant with a channel in a different state. -/
def setChannel (merchant : Merchant) (escrow : Txid) (channel : MerchantChannel) : Merchant :=
  { merchant with channels := merchant.channels.insert escrow channel }

/-- The merchant with a session in a different state. -/
def setSession (merchant : Merchant) (id : SessionId) (session : Session) : Merchant :=
  { merchant with sessions := merchant.sessions.insert id session }

/-- The merchant without a session and its nonce. -/
def closeSession (merchant : Merchant) (id : SessionId) : Merchant :=
  match merchant.sessions.get? id with
  | some session =>
      { merchant with
        sessions := merchant.sessions.erase id
        liveNonces := merchant.liveNonces.erase session.nonce }
  | none => merchant

/-- The merchant with a nonce used up. -/
def spend (merchant : Merchant) (nonce : Nonce) (record : SpentNonce) : Merchant :=
  { merchant with spentNonces := merchant.spentNonces.insert nonce record }

-----------------------------------------------------------------------------------------
-- Opening channels
-----------------------------------------------------------------------------------------

/-- Checks what the customer says about its funding against the terms of the merchant. -/
def checkFunding (merchant : Merchant) (request : OpenRequest) : Outcome ChannelError Unit := do
  let funding := request.funding
  let fees := merchant.params.fees
  request.token.checkMerchant merchant.keys
  .ensure (ChannelToken.ofFunding request.token.customerKey merchant.keys funding = request.token)
    (.tokenMismatch .fundingTxs)
  .ensure
    (funding.merchantCloseFee = fees.merchantCloseFee ∧ funding.leastFee = fees.leastFee
      ∧ funding.greatestFee = fees.greatestFee)
    (.tokenMismatch .feeParameters)
  let customerMinimum := Balance.ofBits fees.customerReserve
  .ensure (customerMinimum ≤ funding.customerBalance)
    (.invalidBalance funding.customerBalance customerMinimum)
  let merchantMinimum := Balance.ofBits (← merchant.params.merchantMinimum)
  .ensure (merchantMinimum ≤ funding.merchantBalance)
    (.invalidBalance funding.merchantBalance merchantMinimum)

/-- Checks that no channel of an escrow went past its first step. -/
def checkUnfunded (merchant : Merchant) (escrow : Txid) : Outcome ChannelError Unit :=
  match merchant.channels.get? escrow with
  | some channel =>
      .ensure (channel.status = .unfunded) (.statusMismatch channel.status .unfunded)
  | none => .ok ()

/-- Adds the merchant's signature to the merchant-close transaction of a new channel. -/
def openChannel (merchant : Merchant) (request : OpenRequest)
    : Outcome ChannelError (SignedTx × Merchant) := do
  let token := request.token
  merchant.checkFunding request
  merchant.checkUnfunded token.escrowTxid
  let value ← request.funding.escrowValue
  let close ← (token.merchantCloseTx value merchant.params).mapRefusal .template
  .ensure (close.txid = token.merchantCloseTxid) (.tokenMismatch .merchantCloseTx)
  .ensure (close.verifies request.signature token.customerKey = true)
    (.signatureVerification .merchantClose)
  let signed := close.finalizeMultisig (close.sign merchant.escrowSecret) request.signature
  return (signed, merchant.setChannel token.escrowTxid {
    token
    funding := request.funding
    signedClose := signed
    init := none
    status := .unfunded })

/-- The merchant's signature of a customer-close transaction. -/
def signClose (merchant : Merchant) (token : ChannelToken) (source : CloseSource)
    (state : ChannelState) (close : PublicKey)
    : Outcome ChannelError Signature := do
  let close ← (token.customerCloseTx source state close merchant.params).mapRefusal .template
  return close.sign merchant.escrowSecret

/-- Signs the customer-close transactions of the first state of a channel. -/
def signInitial (merchant : Merchant) (init : InitialState)
    : Outcome ChannelError (CloseSignatures × Merchant) := do
  let channel ← merchant.channel init.escrowTxid
  .ensure (channel.status = .unfunded) (.statusMismatch channel.status .unfunded)
  .ensure (init.customerKey = channel.token.customerKey) (.tokenMismatch .customerKey)
  .ensure
    (init.customerBalance = channel.funding.customerBalance
      ∧ init.merchantBalance = channel.funding.merchantBalance)
    .initialStateMismatch
  let state := init.state channel.token
  let escrow ← merchant.signClose channel.token .escrow state init.closeKey
  let merchantClose ← merchant.signClose channel.token .merchantClose state init.closeKey
  return (⟨escrow, merchantClose⟩,
    merchant.setChannel init.escrowTxid { channel with init := some init })

/-- Checks the first state against its announced hash, after which the channel is funded. -/
def validateInitial (merchant : Merchant) (init : InitialState) (hash : StateHash)
    : Outcome ChannelError (Unit × Merchant) := do
  let channel ← merchant.channel init.escrowTxid
  .ensure (channel.status = .unfunded) (.statusMismatch channel.status .unfunded)
  .ensure (channel.init = some init ∧ init.hash = hash) .initialStateMismatch
  return ((), merchant.setChannel init.escrowTxid { channel with status := .pendingOpen })

/-- Takes note that the escrow is on the chain. -/
def markOpen (merchant : Merchant) (escrow : Txid) : Outcome ChannelError (Unit × Merchant) := do
  let channel ← merchant.channel escrow
  .ensure (channel.status = .pendingOpen) (.statusMismatch channel.status .pendingOpen)
  return ((), merchant.setChannel escrow { channel with status := .confirmed })

/-- Issues the first pay token of a channel. -/
def activate (merchant : Merchant) (escrow : Txid) (state : ChannelState)
    : Outcome ChannelError PayToken := do
  let channel ← merchant.channel escrow
  .ensure (channel.status = .confirmed) (.statusMismatch channel.status .confirmed)
  channel.token.checkState state
  .ensure (channel.init.map (·.state channel.token) = some state) .initialStateMismatch
  .ensure (merchant.spentNonces.contains state.nonce = false) (.nonceReused state.nonce)
  return .compute merchant.hmacKey state

-----------------------------------------------------------------------------------------
-- Payments
-----------------------------------------------------------------------------------------

/-- Whether the merchant takes a payment of the given amount for the given reason. -/
def accepts (merchant : Merchant) (amount : Balance) (justification : Option String) : Bool :=
  0 ≤ amount || (merchant.policy = .checkJustification && justification.any hasContent)

/-- Checks whether a payment may begin. -/
def checkPayment (merchant : Merchant) (request : PaymentRequest) : Outcome ChannelError Unit := do
  .ensure
    (merchant.spentNonces.contains request.nonce = false
      ∧ merchant.liveNonces.contains request.nonce = false)
    (.nonceReused request.nonce)
  .ensure (merchant.sessions.contains request.session = false) .roundInProgress
  .ensure (merchant.accepts request.amount request.justification = true)
    (.negativePaymentRejected request.amount)

/-- Begins a payment and commits to the mask of its pay token. -/
def preparePayment (merchant : Merchant) (request : PaymentRequest)
    : Draw (PaymentResponse × Merchant) := do
  Draw.of (merchant.checkPayment request)
  let payMask ← Draw.bytes 32
  let randomness ← Draw.bytes 16
  let escrowMask ← Draw.bytes 32
  let closeMask ← Draw.bytes 32
  let opening : PayMaskOpening := ⟨⟨payMask⟩, ⟨randomness⟩⟩
  let begun := merchant.setSession request.session {
    nonce := request.nonce
    commitment := request.commitment
    amount := request.amount
    masks := ⟨⟨escrowMask⟩, ⟨closeMask⟩⟩
    opening
    status := .prepared }
  return (⟨request.session, .commit opening.mask opening.randomness⟩,
    { begun with liveNonces := begun.liveNonces.insert request.nonce request.session })

/-- The merchant's input of the masking service, which is given out once. -/
def maskingInput (merchant : Merchant) (id : SessionId)
    : Outcome ChannelError (MerchantInput × Merchant) := do
  let session ← merchant.session id
  .ensure (session.status = .prepared) (.sessionMismatch session.status .prepared)
  return ({
      session := id
      nonce := session.nonce
      commitment := session.commitment
      amount := session.amount
      keys := merchant.keys
      key := merchant.escrowSecret
      hmacKey := merchant.hmacKey
      masks := session.masks
      opening := session.opening
      params := merchant.params },
    merchant.setSession id { session with status := .updating })

/-- What the merchant makes of the result of the masking service: it releases the masks of the
signatures, or drops the session when the masking is not confirmed.
-/
def confirmMasking (merchant : Merchant) (id : SessionId) (confirmed : Bool)
    : Outcome ChannelError ReleasedMasks × Merchant :=
  match merchant.session id with
  | .error failure => (.error failure, merchant)
  | .ok session =>
      if session.status ≠ .updating then
        (.refuse (.sessionMismatch session.status .updating), merchant)
      else if confirmed then
        (.ok ⟨id, session.masks⟩, merchant.setSession id { session with status := .confirmed })
      else
        (.refuse (.service (.rejected "masking result is not confirmed")),
          merchant.closeSession id)

/-- Drops a session of which no mask was released, so that its nonce can be used again. -/
def failSession (merchant : Merchant) (id : SessionId)
    : Outcome ChannelError (Unit × Merchant) := do
  let session ← merchant.session id
  .ensure (session.status = .prepared ∨ session.status = .updating)
    (.sessionMismatch session.status .updating)
  return ((), merchant.closeSession id)

/-- The opening that was released for a nonce that is used up, to whom repeats the revocation. -/
def releasedOpening (merchant : Merchant) (id : SessionId) (revoked : RevokedState)
    : Outcome ChannelError PayMaskOpening := do
  let spent ← .require (.unknownSession id)
    ((merchant.spentNonces.get? revoked.nonce).filter (·.session = id))
  .ensure (spent.revocation = some (revoked.lock, revoked.secret)) .invalidRevocationProof
  return spent.opening

/-- Takes the revocation of the old state of a payment. The mask of the new pay token is released
only after the secret is recorded; a wrong revocation uses up the nonce.
-/
def validateRevoked (merchant : Merchant) (ledger : Ledger) (id : SessionId)
    (revoked : RevokedState)
    : Outcome ChannelError PayMaskOpening × Merchant × Ledger :=
  match merchant.sessions.get? id with
  | none => (merchant.releasedOpening id revoked, merchant, ledger)
  | some session =>
      if session.status ≠ .confirmed then
        (.refuse (.sessionMismatch session.status .confirmed), merchant, ledger)
      else if revoked.nonce ≠ session.nonce ∨ revoked.commitment ≠ session.commitment
          ∨ revoked.verify = false then
        (.refuse .invalidRevocationProof,
          (merchant.spend session.nonce ⟨id, none, session.opening⟩).closeSession id, ledger)
      else
        match ledger.put revoked.lock revoked.secret with
        | .error reason => (.refuse (.ledger reason), merchant, ledger)
        | .ok recorded =>
            (.ok session.opening,
              (merchant.spend session.nonce
                ⟨id, some (revoked.lock, revoked.secret), session.opening⟩).closeSession id,
              recorded)

-----------------------------------------------------------------------------------------
-- Closing channels
-----------------------------------------------------------------------------------------

/-- The secret that is known for a lock seen on the chain. -/
def checkLock (ledger : Ledger) (lock : RevLock) : Outcome ChannelError (Option RevSecret) :=
  match ledger.get lock with
  | .ok secret => .ok secret
  | .error reason => .refuse (.ledger reason)

/-- What a transaction publishes, if it is a customer-close transaction. -/
def publication (tx : Transaction) : Outcome ChannelError Publication :=
  (Publication.ofTransaction tx).mapRefusal fun _ => .unrecognizedCloseTx

/-- Takes the customer's funds of a customer-close transaction if its state was revoked. -/
def dispute (merchant : Merchant) (ledger : Ledger) (tx : Transaction) (fee : Sat)
    : Outcome ChannelError (Option SignedTx × Merchant) := do
  let published ← publication tx
  match ← checkLock ledger published.lock with
  | none => return (none, merchant)
  | some secret =>
      let (escrow, channel) ← merchant.channelSpentBy tx
      let output ← .require .unrecognizedCloseTx tx.outputs.head?
      let params := merchant.params
      .ensure
        (output.script = .payToScript
          (.toCustomer published.lock merchant.keys.dispute published.closeKey params.selfDelay))
        .unrecognizedCloseTx
      let claim ← (disputeTx ⟨tx.txid, 0⟩ output.value published.lock
        (channel.token.closingKeys published.closeKey) params.selfDelay merchant.keys.payout fee
        params.fees params.dustLimit).mapRefusal .template
      let signed := claim.finalizeDispute (claim.sign merchant.disputeSecret) secret.bytes
      return (some signed, merchant.setChannel escrow { channel with status := .disputed })

/-- Gives out the merchant-close transaction of a channel. -/
def forceClose (merchant : Merchant) (escrow : Txid)
    : Outcome ChannelError (SignedTx × Merchant) := do
  let channel ← merchant.channel escrow
  .ensure
    (channel.status = .pendingOpen ∨ channel.status = .confirmed
      ∨ channel.status = .merchantClosing)
    (.statusMismatch channel.status .confirmed)
  return (channel.signedClose,
    merchant.setChannel escrow { channel with status := .merchantClosing })

/-- Takes the output of the merchant-close transaction after its delay. -/
def claimMerchantClose (merchant : Merchant) (escrow : Txid) (fee : Sat)
    : Outcome ChannelError SignedTx := do
  let channel ← merchant.channel escrow
  .ensure (channel.status = .merchantClosing) (.statusMismatch channel.status .merchantClosing)
  let output ← .require .unrecognizedCloseTx channel.signedClose.tx.outputs.head?
  let params := merchant.params
  let token := channel.token
  let claim ← (merchantClaimTx token.merchantCloseOutPoint output.value
    (token.closingKeys token.customerKey) params.selfDelay merchant.keys.payout fee params.fees
    params.dustLimit).mapRefusal .template
  return claim.finalizeDelayed (claim.sign merchant.payoutSecret)

/-- Takes the merchant's output of a customer-close transaction. -/
def claimOutput (merchant : Merchant) (tx : Transaction) (fee : Sat)
    : Outcome ChannelError (SignedTx × Merchant) := do
  let (escrow, channel) ← merchant.channelSpentBy tx
  let payout := merchant.keys.payout
  let output ← .require .unrecognizedCloseTx tx.outputs[1]?
  .ensure (output.script = .toKey payout) .unrecognizedCloseTx
  let params := merchant.params
  let claim ← (merchantOutputClaimTx ⟨tx.txid, 1⟩ output.value payout payout fee params.fees
    params.dustLimit).mapRefusal .template
  let signed := claim.finalizeKey (claim.sign merchant.payoutSecret) payout
  let closes := channel.status = .pendingOpen ∨ channel.status = .confirmed
    ∨ channel.status = .merchantClosing
  return (signed,
    if closes then merchant.setChannel escrow { channel with status := .customerClosing }
    else merchant)

/-- Takes note that the last transactions of a channel are on the chain. -/
def markClosed (merchant : Merchant) (escrow : Txid)
    : Outcome ChannelError (Unit × Merchant) := do
  let channel ← merchant.channel escrow
  .ensure
    (channel.status = .merchantClosing ∨ channel.status = .customerClosing
      ∨ channel.status = .disputed ∨ channel.status = .pendingClose)
    (.statusMismatch channel.status .pendingClose)
  return ((), merchant.setChannel escrow { channel with status := .settled })

end Merchant

end PaymentChannel
