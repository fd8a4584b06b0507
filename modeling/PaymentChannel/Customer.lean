import PaymentChannel.Channel.Draw
import PaymentChannel.Service
import PaymentChannel.Template.Claim
import PaymentChannel.Template.Funding

/-! The customer: one channel with a merchant, from its keys to its last transaction.
An operation that is refused leaves the customer as it was, except that a merchant who delivers
wrong signatures or opens the wrong mask is not trusted any more.
-/

namespace PaymentChannel

/-- Where the funds of a channel come from. -/
inductive FundingSource
  /-- The escrow is formed from an output of the customer. -/
  | utxo (utxo : FundingUtxo) (key : SecretKey) (changeKey : PublicKey) (fee : Sat)
  /-- The transactions were formed elsewhere. -/
  | formed (funding : FundingInfo)

/-- A channel with funding transactions. -/
structure FundedChannel where
  token : ChannelToken
  funding : FundingInfo
  state : ChannelState
  escrowTx : Option SignedTx
  /-- The merchant's signatures of the customer-close transactions of the state. -/
  signatures : Option CloseSignatures
deriving DecidableEq

/-- A payment that has begun. -/
structure PendingRound where
  session : SessionId
  amount : Balance
  new : ChannelState
  newSecret : RevSecret
  blinding : BlindingFactor
  commitment : RevLockCom
  /-- The merchant's commitment to the mask of the new pay token. -/
  maskCommitment : Option PayMaskCom
  /-- The signatures of the new state and its masked pay token. -/
  unmasked : Option (CloseSignatures × MaskedPayToken)
  /-- The revocation of the old state, once it was given out. -/
  revoked : Option RevokedState
deriving DecidableEq

/-- The state of a customer. -/
structure Customer where
  name : String
  params : ChannelParams
  stage : Stage
  status : ChannelStatus
  escrowSecret : SecretKey
  /-- The customer's key of the escrow. -/
  escrowKey : PublicKey
  closeSecret : SecretKey
  /-- The key to which the customer is paid on close. -/
  closeKey : PublicKey
  merchantKeys : MerchantKeys
  /-- The first balances of the customer and of the merchant. -/
  initialBalances : Balance × Balance
  initialNonce : Nonce
  /-- The secret of the lock of the current state. -/
  secret : RevSecret
  channel : Option FundedChannel
  payToken : Option PayToken
  pending : Option PendingRound
  merchantTrusted : Bool
deriving DecidableEq

namespace Customer

-----------------------------------------------------------------------------------------
-- A new customer
-----------------------------------------------------------------------------------------

/-- The balances of a new channel. A merchant balance of zero stands for the least one, which the
customer then pays.
-/
def openingBalances (params : ChannelParams) (customer merchant : Balance)
    : Outcome ChannelError (Balance × Balance) := do
  let customerMinimum := Balance.ofBits params.fees.customerReserve
  let merchantMinimum := Balance.ofBits (← params.merchantMinimum)
  let balances :=
    if merchant = 0 then
      (Balance.clamp (customer.toInt - merchantMinimum.toInt), merchantMinimum)
    else (customer, merchant)
  .ensure (customerMinimum ≤ balances.1) (.invalidBalance balances.1 customerMinimum)
  .ensure (merchantMinimum ≤ balances.2) (.invalidBalance balances.2 merchantMinimum)
  let _ ← escrowValue balances.1 balances.2
  return balances

/-- A customer with fresh keys and no channel. -/
def init (params : ChannelParams) (merchantKeys : MerchantKeys)
    (customerBalance merchantBalance : Balance) (name : String) : Draw Customer := do
  Draw.of (params.validate.mapRefusal .params)
  let balances ← Draw.of (openingBalances params customerBalance merchantBalance)
  let escrowSecret ← Draw.secretKey
  let closeSecret ← Draw.secretKey
  let salt ← Draw.bytes 8
  let secret ← Draw.bytes 32
  return {
    name, params
    stage := .initialized
    status := .unfunded
    escrowSecret
    escrowKey := escrowSecret.publicKey
    closeSecret
    closeKey := closeSecret.publicKey
    merchantKeys
    initialBalances := balances
    initialNonce := .first salt
    secret := ⟨secret⟩
    channel := none
    payToken := none
    pending := none
    merchantTrusted := true }

-----------------------------------------------------------------------------------------
-- Look-ups
-----------------------------------------------------------------------------------------

/-- Requires one of some stages. -/
def requireStage (customer : Customer) (required : List Stage) : Outcome ChannelError Unit :=
  .ensure (customer.stage ∈ required) (.stageMismatch customer.stage required)

/-- Requires a status of the channel. -/
def requireStatus (customer : Customer) (required : ChannelStatus) : Outcome ChannelError Unit :=
  .ensure (customer.status = required) (.statusMismatch customer.status required)

/-- Requires a channel with funding transactions. -/
def requireChannel (customer : Customer) : Outcome ChannelError FundedChannel :=
  .require (.statusMismatch customer.status .pendingOpen) customer.channel

/-- Requires a payment that has begun. -/
def requirePending (customer : Customer) : Outcome ChannelError PendingRound :=
  .require .noPendingRound customer.pending

/-- The current state of the channel. -/
def state (customer : Customer) : Option ChannelState := customer.channel.map (·.state)

/-- The current balance of the customer. -/
def balance (customer : Customer) : Balance :=
  match customer.state with
  | some state => state.customerBalance
  | none => customer.initialBalances.1

/-- The current balance of the merchant. -/
def merchantBalance (customer : Customer) : Balance :=
  match customer.state with
  | some state => state.merchantBalance
  | none => customer.initialBalances.2

/-- The nonce of the current state. -/
def nonce (customer : Customer) : Nonce :=
  match customer.state with
  | some state => state.nonce
  | none => customer.initialNonce

/-- The session of the payment that has begun. -/
def pendingSession (customer : Customer) : Option SessionId :=
  customer.pending.map (·.session)

-----------------------------------------------------------------------------------------
-- Opening the channel
-----------------------------------------------------------------------------------------

/-- The keys of the close transactions of the channel. -/
def closingKeys (customer : Customer) : ClosingKeys where
  merchant := customer.merchantKeys.escrow
  customer := customer.escrowKey
  payout := customer.merchantKeys.payout
  dispute := customer.merchantKeys.dispute
  close := customer.closeKey

/-- Forms the funding transactions from an output of the customer. -/
def formFunding (customer : Customer) (value : Sat) (utxo : FundingUtxo) (key : SecretKey)
    (changeKey : PublicKey) (fee : Sat)
    : Outcome TemplateError (FundingInfo × SignedTx) := do
  let params := customer.params
  let fees := params.fees
  let escrow ← EscrowTx.form utxo customer.merchantKeys.escrow customer.escrowKey value changeKey
    fee fees params.dustLimit
  let signed ← escrow.sign key
  let close ← merchantCloseTx ⟨signed.txid, 0⟩ value customer.closingKeys params.selfDelay fees
    params.dustLimit
  return ({
      escrowTxid := signed.txid
      escrowPrevout := OutPoint.prevout ⟨signed.txid, 0⟩
      merchantCloseTxid := close.txid
      merchantClosePrevout := OutPoint.prevout ⟨close.txid, 0⟩
      customerBalance := customer.initialBalances.1
      merchantBalance := customer.initialBalances.2
      merchantCloseFee := fees.merchantCloseFee
      leastFee := fees.leastFee
      greatestFee := fees.greatestFee }, signed)

/-- The funding of the channel, and the escrow transaction if it was formed here. -/
def chooseFunding (customer : Customer) (value : Sat)
    : FundingSource → Outcome ChannelError (FundingInfo × Option SignedTx)
  | .utxo utxo key changeKey fee => do
      let (funding, escrow) ←
        (customer.formFunding value utxo key changeKey fee).mapRefusal .template
      return (funding, some escrow)
  | .formed funding => do
      .ensure
        (funding.customerBalance = customer.initialBalances.1
          ∧ funding.merchantBalance = customer.initialBalances.2)
        (.tokenMismatch .initialBalances)
      return (funding, none)

/-- The first state of a channel with the given funding. -/
def firstState (customer : Customer) (funding : FundingInfo) : ChannelState where
  nonce := customer.initialNonce
  lock := customer.secret.lock
  customerKey := customer.escrowKey
  merchantKey := customer.merchantKeys.escrow
  customerBalance := customer.initialBalances.1
  merchantBalance := customer.initialBalances.2
  escrowTxid := funding.escrowTxid
  merchantCloseTxid := funding.merchantCloseTxid
  escrowPrevout := funding.escrowPrevout
  merchantClosePrevout := funding.merchantClosePrevout

/-- Chooses the funding transactions and signs the merchant-close transaction. -/
def fund (customer : Customer) (source : FundingSource)
    : Outcome ChannelError (OpenRequest × Customer) := do
  customer.requireStage [.initialized]
  customer.requireStatus .unfunded
  let value ← escrowValue customer.initialBalances.1 customer.initialBalances.2
  let (funding, escrowTx) ← customer.chooseFunding value source
  let token := ChannelToken.ofFunding customer.escrowKey customer.merchantKeys funding
  let close ← (token.merchantCloseTx value customer.params).mapRefusal .template
  .ensure (close.txid = funding.merchantCloseTxid) (.tokenMismatch .merchantCloseTx)
  let channel : FundedChannel :=
    { token, funding, state := customer.firstState funding, escrowTx, signatures := none }
  return (⟨token, funding, close.sign customer.escrowSecret⟩,
    { customer with channel := some channel, status := .pendingOpen })

/-- Announces the first state of the channel. -/
def initialState (customer : Customer) : Outcome ChannelError InitialState := do
  customer.requireStage [.initialized, .funded]
  let channel ← customer.requireChannel
  return {
    escrowTxid := channel.funding.escrowTxid
    customerKey := customer.escrowKey
    closeKey := customer.closeKey
    customerBalance := channel.state.customerBalance
    merchantBalance := channel.state.merchantBalance
    nonce := channel.state.nonce
    lock := channel.state.lock }

/-- Checks the merchant's signature of one customer-close transaction of a state. -/
def verifyClose (customer : Customer) (token : ChannelToken) (state : ChannelState)
    (source : CloseSource) (signature : Signature)
    : Outcome ChannelError Unit := do
  let close ← (token.customerCloseTx source state customer.closeKey customer.params).mapRefusal
    .template
  .ensure (close.verifies signature token.merchantKey = true)
    (.signatureVerification source.closeKind)

/-- Checks the merchant's signatures of both customer-close transactions of a state. -/
def verifySignatures (customer : Customer) (token : ChannelToken) (state : ChannelState)
    (signatures : CloseSignatures)
    : Outcome ChannelError Unit := do
  customer.verifyClose token state .escrow signatures.escrow
  customer.verifyClose token state .merchantClose signatures.merchantClose

/-- Keeps the merchant's signatures of the customer-close transactions of the first state. -/
def storeInitialSignatures (customer : Customer) (signatures : CloseSignatures)
    : Outcome ChannelError (Unit × Customer) := do
  customer.requireStage [.initialized]
  let channel ← customer.requireChannel
  customer.verifySignatures channel.token channel.state signatures
  return ((), { customer with
    channel := some { channel with signatures := some signatures }
    stage := .funded })

/-- Takes note that the escrow is on the chain. -/
def markOpen (customer : Customer) : Outcome ChannelError (Unit × Customer) := do
  customer.requireStage [.funded]
  customer.requireStatus .pendingOpen
  return ((), { customer with status := .confirmed })

/-- The state for which the merchant issues the first pay token. -/
def requestActivation (customer : Customer) : Outcome ChannelError (ChannelState × Customer) := do
  customer.requireStage [.funded]
  customer.requireStatus .confirmed
  let channel ← customer.requireChannel
  return (channel.state, { customer with stage := .activated })

/-- Keeps the first pay token. -/
def finishActivation (customer : Customer) (token : PayToken)
    : Outcome ChannelError (Unit × Customer) := do
  customer.requireStage [.activated]
  return ((), { customer with payToken := some token, stage := .ready })

-----------------------------------------------------------------------------------------
-- Payments
-----------------------------------------------------------------------------------------

/-- Checks that both parties keep their reserves after a payment. -/
def checkAmount (customer : Customer) (state : ChannelState) (amount : Balance)
    : Outcome ChannelError Unit := do
  let fees := customer.params.fees
  let customerMinimum := Balance.ofBits fees.customerReserve
  let merchantMinimum := Balance.ofBits fees.merchantReserve
  .ensure ((state.customerBalance.sub? amount).any (customerMinimum ≤ ·) = true)
    (.insufficientBalance amount state.customerBalance customerMinimum)
  let merchantBalance := state.merchantBalance.add? amount
  .ensure (merchantBalance.any (merchantMinimum ≤ ·) = true)
    (.invalidBalance (merchantBalance.getD .greatest) merchantMinimum)

/-- Checks that a payment of an amount may begin, and gives the state it starts from. -/
def checkPayment (customer : Customer) (amount : Balance)
    : Outcome ChannelError ChannelState := do
  customer.requireStage [.ready]
  .ensure (customer.merchantTrusted = true) .merchantUntrusted
  .ensure (customer.pending = none) .roundInProgress
  .ensure (customer.payToken ≠ none) .missingPayToken
  let channel ← customer.requireChannel
  customer.checkAmount channel.state amount
  return channel.state

/-- Begins a payment to the merchant; a negative amount asks for a refund. -/
def preparePayment (customer : Customer) (amount : Balance) (justification : Option String)
    : Draw (PaymentRequest × Customer) := do
  let state ← Draw.of (customer.checkPayment amount)
  let newSecret : RevSecret := ⟨← Draw.bytes 32⟩
  let new ← Draw.of (state.pay amount newSecret.lock)
  Draw.of (.ensure (new.nonce ≠ state.nonce) (.nonceReused state.nonce))
  let blinding : BlindingFactor := ⟨← Draw.bytes 32⟩
  let session : SessionId := ⟨← Draw.bytes 16⟩
  let commitment := RevLockCom.commit state.lock blinding
  let pending : PendingRound := {
    session, amount, new, newSecret, blinding, commitment
    maskCommitment := none
    unmasked := none
    revoked := none }
  return ({ session, nonce := state.nonce, commitment, amount, justification },
    { customer with pending := some pending })

/-- The customer's input of the masking service. -/
def maskingInput (customer : Customer) (response : PaymentResponse)
    : Outcome ChannelError (CustomerInput × Customer) := do
  customer.requireStage [.ready]
  let payToken ← .require .missingPayToken customer.payToken
  let channel ← customer.requireChannel
  let pending ← customer.requirePending
  .ensure (pending.session = response.session) (.unknownSession response.session)
  .ensure (pending.unmasked = none) .noPendingRound
  return ({
      token := channel.token
      closeKey := customer.closeKey
      old := channel.state
      new := pending.new
      payToken
      blinding := pending.blinding
      amount := pending.amount
      commitment := response.commitment },
    { customer with
      pending := some { pending with maskCommitment := some response.commitment } })

/-- Takes the mask off a signature. -/
def unmaskSignature (masked : MaskedSignature) (mask : SigMask) (kind : TxKind)
    : Outcome ChannelError Signature :=
  .require (.signatureVerification kind) (masked.unmask? mask)

/-- Takes the masks off both signatures. -/
def unmaskSignatures (outputs : MaskedOutputs) (masks : TxMasks)
    : Outcome ChannelError CloseSignatures := do
  let escrow ← unmaskSignature outputs.escrow masks.escrow .customerCloseFromEscrow
  let merchantClose ←
    unmaskSignature outputs.merchantClose masks.merchantClose .customerCloseFromMerchantClose
  return ⟨escrow, merchantClose⟩

/-- The round for which masks were released, if it waits for signatures. -/
def roundAwaitingSignatures (customer : Customer) (released : ReleasedMasks)
    : Outcome ChannelError (FundedChannel × PendingRound) := do
  customer.requireStage [.ready]
  let channel ← customer.requireChannel
  let pending ← customer.requirePending
  .ensure (pending.session = released.session) (.unknownSession released.session)
  .ensure (pending.maskCommitment ≠ none ∧ pending.revoked = none) .noPendingRound
  return (channel, pending)

/-- Takes the masks off the signatures of the new state and checks them. A merchant whose
signatures are wrong is not trusted any more.
-/
def acceptSignatures (customer : Customer) (outputs : MaskedOutputs) (released : ReleasedMasks)
    : Outcome ChannelError Unit × Customer :=
  match customer.roundAwaitingSignatures released with
  | .error failure => (.error failure, customer)
  | .ok (channel, pending) =>
      let checked : Outcome ChannelError CloseSignatures := do
        let signatures ← unmaskSignatures outputs released.masks
        customer.verifySignatures channel.token pending.new signatures
        return signatures
      match checked with
      | .ok signatures =>
          (.ok (), { customer with
            pending := some { pending with unmasked := some (signatures, outputs.payToken) } })
      | .error (.refused reason) => (.refuse reason, { customer with merchantTrusted := false })
      | .error (.overflow kind) => (.error (.overflow kind), customer)

/-- Moves to the new state and reveals the secret of the old one. Once that was done it gives the
same revocation again.
-/
def revoke (customer : Customer) : Outcome ChannelError (RevokedState × Customer) := do
  customer.requireStage [.ready]
  let pending ← customer.requirePending
  match pending.revoked with
  | some revoked => return (revoked, customer)
  | none =>
      let (signatures, _) ← .require .noPendingRound pending.unmasked
      let channel ← .require .noPendingRound customer.channel
      let revoked : RevokedState := {
        nonce := channel.state.nonce
        commitment := pending.commitment
        lock := channel.state.lock
        secret := customer.secret
        blinding := pending.blinding }
      return (revoked, { customer with
        channel := some { channel with state := pending.new, signatures := some signatures }
        secret := pending.newSecret
        payToken := none
        pending := some { pending with revoked := some revoked } })

/-- The masked pay token that waits for its mask, and the commitment to the mask. -/
def awaitedToken (customer : Customer) : Outcome ChannelError (PayMaskCom × MaskedPayToken) := do
  customer.requireStage [.ready]
  let pending ← customer.requirePending
  match pending.revoked, pending.maskCommitment, pending.unmasked with
  | some _, some commitment, some (_, masked) => return (commitment, masked)
  | _, _, _ => .refuse .noPendingRound

/-- Ends a payment with its new pay token. A merchant whose mask does not open its commitment is
not trusted any more, and leaves the channel without a token.
-/
def acceptToken (customer : Customer) (opening : PayMaskOpening)
    : Outcome ChannelError PayToken × Customer :=
  match customer.awaitedToken with
  | .error failure => (.error failure, customer)
  | .ok (commitment, masked) =>
      if opening.opens commitment then
        let token := masked.unmask opening.mask
        (.ok token, { customer with pending := none, payToken := some token })
      else
        (.refuse .payTokenMaskMismatch,
          { customer with pending := none, merchantTrusted := false })

/-- Drops a payment, which can be done until the old state is revoked. -/
def abort (customer : Customer) : Outcome ChannelError (Unit × Customer) := do
  let pending ← customer.requirePending
  .ensure (pending.revoked = none) .roundCommitted
  return ((), { customer with pending := none })

-----------------------------------------------------------------------------------------
-- Closing the channel
-----------------------------------------------------------------------------------------

/-- Closes the channel with its newest state. -/
def forceClose (customer : Customer) (source : CloseSource)
    : Outcome ChannelError (SignedTx × Customer) := do
  customer.requireStage [.funded, .activated, .ready, .closing]
  let channel ← customer.requireChannel
  let signatures ← .require (.stageMismatch customer.stage [.funded]) channel.signatures
  let close ← (channel.token.customerCloseTx source channel.state customer.closeKey
    customer.params).mapRefusal .template
  let signed :=
    close.finalizeMultisig (signatures.of source) (close.sign customer.escrowSecret)
  return (signed,
    { customer with pending := none, stage := .closing, status := .customerClosing })

/-- Takes the customer's output of a customer-close transaction after its delay. -/
def claim (customer : Customer) (tx : Transaction) (fee : Sat)
    : Outcome ChannelError SignedTx := do
  customer.requireStage [.closing]
  let channel ← customer.requireChannel
  let published ← (Publication.ofTransaction tx).mapRefusal fun _ => .unrecognizedCloseTx
  .ensure (published.closeKey = customer.closeKey) .unrecognizedCloseTx
  let output ← .require .unrecognizedCloseTx tx.outputs.head?
  let params := customer.params
  .ensure
    (output.script = .payToScript (.toCustomer published.lock customer.merchantKeys.dispute
      customer.closeKey params.selfDelay))
    .unrecognizedCloseTx
  let claim ← (customerClaimTx ⟨tx.txid, 0⟩ output.value published.lock
    (channel.token.closingKeys customer.closeKey) params.selfDelay customer.closeKey fee
    params.fees params.dustLimit).mapRefusal .template
  return claim.finalizeDelayed (claim.sign customer.closeSecret)

/-- Takes note that the last transactions of the channel are on the chain. -/
def markClosed (customer : Customer) : Outcome ChannelError (Unit × Customer) := do
  customer.requireStage [.closing]
  return ((), { customer with stage := .closed, status := .settled })

/-- Takes note that the merchant disputed the close of the channel. -/
def markDisputed (customer : Customer) : Outcome ChannelError (Unit × Customer) := do
  customer.requireStage [.closing]
  return ((), { customer with stage := .disputed, status := .disputed })

end Customer

end PaymentChannel
