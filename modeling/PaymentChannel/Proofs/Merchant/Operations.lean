import PaymentChannel.Proofs.Merchant.Run

/-! What an operation of a merchant needed and did when it was not refused, one law for each.
Later arguments about runs rest on these laws and never open an operation again.
-/

namespace PaymentChannel

namespace Merchant

variable {merchant after : Merchant}

-----------------------------------------------------------------------------------------
-- Fresh merchants
-----------------------------------------------------------------------------------------

/-- A merchant with the given keys that knows no channel and no payment. -/
def fresh (params : ChannelParams) (policy : RefundPolicy)
    (escrowSecret payoutSecret disputeSecret : SecretKey) (hmacKey : HmacKey) : Merchant where
  params := params
  policy := policy
  escrowSecret := escrowSecret
  payoutSecret := payoutSecret
  disputeSecret := disputeSecret
  keys := ⟨escrowSecret.publicKey, payoutSecret.publicKey, disputeSecret.publicKey⟩
  hmacKey := hmacKey
  channels := .empty
  sessions := .empty
  liveNonces := .empty
  spentNonces := .empty

/-- A merchant starts with keys that it draws under terms that are acceptable. -/
theorem init_eq_ok {params : ChannelParams} {policy : RefundPolicy} {source : Entropy}
    : (init params policy).outcome source = .ok merchant
      ↔ params.validate = .ok ()
        ∧ ∃ escrow, SecretKey.ofBytes? (source.draw 32).1 = some escrow
        ∧ ∃ payout, SecretKey.ofBytes? ((source.draw 32).2.draw 32).1 = some payout
        ∧ ∃ dispute,
          SecretKey.ofBytes? (((source.draw 32).2.draw 32).2.draw 32).1 = some dispute
        ∧ merchant = fresh params policy escrow payout dispute
          ⟨((((source.draw 32).2.draw 32).2.draw 32).2.draw 32).1⟩ := by
  simp only [init, fresh, Draw.outcome_bind, Draw.outcome_of, Draw.outcome_secretKey,
    Draw.outcome_bytes, Draw.outcome_pure, Draw.rest_of, Draw.rest_secretKey, Outcome.bind_eq_ok,
    Outcome.mapRefusal_eq_ok, Outcome.require_eq_ok, Outcome.ok_bind, Outcome.pure_eq_ok,
    Outcome.exists_unit]

-----------------------------------------------------------------------------------------
-- Look-ups
-----------------------------------------------------------------------------------------

@[simp] theorem channel_eq_ok {escrow : Txid} {found : MerchantChannel}
    : merchant.channel escrow = .ok found ↔ merchant.channels.get? escrow = some found := by
  simp [channel]

@[simp] theorem session_eq_ok {id : SessionId} {found : Session}
    : merchant.session id = .ok found ↔ merchant.sessions.get? id = some found := by
  simp [session]

-----------------------------------------------------------------------------------------
-- Opening channels
-----------------------------------------------------------------------------------------

/-- What the merchant checks of a funding: its own keys, a token that fits the funding, its own
fees and the balances it asks for at least.
-/
theorem checkFunding_eq_ok {request : OpenRequest} {answer : Unit}
    : merchant.checkFunding request = .ok answer
      ↔ request.token.checkMerchant merchant.keys = .ok ()
        ∧ ChannelToken.ofFunding request.token.customerKey merchant.keys request.funding
          = request.token
        ∧ (request.funding.merchantCloseFee = merchant.params.fees.merchantCloseFee
          ∧ request.funding.leastFee = merchant.params.fees.leastFee
          ∧ request.funding.greatestFee = merchant.params.fees.greatestFee)
        ∧ Balance.ofBits merchant.params.fees.customerReserve ≤ request.funding.customerBalance
        ∧ ∃ minimum, (merchant.params.merchantMinimum : Outcome ChannelError Sat) = .ok minimum
          ∧ Balance.ofBits minimum ≤ request.funding.merchantBalance := by
  simp [checkFunding]

/-- A channel that passed the checks of an opening: the merchant agrees with its funding, and its
escrow is worth an amount.
-/
structure Agrees (merchant : Merchant) (channel : MerchantChannel) : Prop where
  funding : ∃ signature,
    merchant.checkFunding ⟨channel.token, channel.funding, signature⟩ = .ok ()
  value : ∃ value, channel.funding.escrowValue = .ok value

/-- A channel can be registered only where none went past its first step. -/
theorem checkUnfunded_eq_ok {escrow : Txid} {answer : Unit}
    : merchant.checkUnfunded escrow = .ok answer
      ↔ ∀ known, merchant.channels.get? escrow = some known → known.status = .unfunded := by
  unfold checkUnfunded
  cases merchant.channels.get? escrow <;> simp

/-- A new channel: what was checked of the request, and the record that is kept. -/
theorem openChannel_eq_ok {request : OpenRequest} {signed : SignedTx}
    : merchant.openChannel request = .ok (signed, after)
      ↔ merchant.checkFunding request = .ok ()
        ∧ merchant.checkUnfunded request.token.escrowTxid = .ok ()
        ∧ ∃ value, request.funding.escrowValue = .ok value
        ∧ ∃ close, request.token.merchantCloseTx value merchant.params = .ok close
          ∧ close.txid = request.token.merchantCloseTxid
          ∧ close.verifies request.signature request.token.customerKey = true
          ∧ signed = close.finalizeMultisig (close.sign merchant.escrowSecret) request.signature
          ∧ after = merchant.setChannel request.token.escrowTxid {
              token := request.token
              funding := request.funding
              signedClose :=
                close.finalizeMultisig (close.sign merchant.escrowSecret) request.signature
              init := none
              status := .unfunded } := by
  simp [openChannel]

theorem signClose_eq_ok {token : ChannelToken} {source : CloseSource} {state : ChannelState}
    {key : PublicKey} {signature : Signature}
    : merchant.signClose token source state key = .ok signature
      ↔ ∃ close, token.customerCloseTx source state key merchant.params = .ok close
        ∧ signature = close.sign merchant.escrowSecret := by
  simp [signClose]

/-- The signatures of a first state: the channel is not funded yet, the announcement fits it, and
it is kept as the one that was signed last.
-/
theorem signInitial_eq_ok {init : InitialState} {signatures : CloseSignatures}
    : merchant.signInitial init = .ok (signatures, after)
      ↔ ∃ channel, merchant.channels.get? init.escrowTxid = some channel
        ∧ channel.status = .unfunded
        ∧ init.customerKey = channel.token.customerKey
        ∧ (init.customerBalance = channel.funding.customerBalance
          ∧ init.merchantBalance = channel.funding.merchantBalance)
        ∧ ∃ escrow, merchant.signClose channel.token .escrow (init.state channel.token) init.closeKey
          = .ok escrow
        ∧ ∃ merchantClose, merchant.signClose channel.token .merchantClose
            (init.state channel.token) init.closeKey
          = .ok merchantClose
        ∧ signatures = ⟨escrow, merchantClose⟩
        ∧ after = merchant.setChannel init.escrowTxid { channel with init := some init } := by
  simp [signInitial]

/-- The signatures of a first state are those of its close transactions, for both sources. -/
theorem signClose_of_signInitial {init : InitialState} {signatures : CloseSignatures}
    (signed : merchant.signInitial init = .ok (signatures, after))
    : ∃ channel, merchant.channels.get? init.escrowTxid = some channel
      ∧ (init.customerBalance = channel.funding.customerBalance
        ∧ init.merchantBalance = channel.funding.merchantBalance)
      ∧ ∀ source, merchant.signClose channel.token source (init.state channel.token) init.closeKey
        = .ok (signatures.of source) := by
  obtain ⟨channel, found, -, -, balances, _, escrow, _, merchantClose, rfl, -⟩ :=
    signInitial_eq_ok.1 signed
  refine ⟨channel, found, balances, fun source => ?_⟩
  cases source
  · exact escrow
  · exact merchantClose

/-- The channel is funded once the announcement that was signed last comes with its hash. -/
theorem validateInitial_eq_ok {init : InitialState} {hash : StateHash} {answer : Unit}
    : merchant.validateInitial init hash = .ok (answer, after)
      ↔ ∃ channel, merchant.channels.get? init.escrowTxid = some channel
        ∧ channel.status = .unfunded
        ∧ (channel.init = some init ∧ init.hash = hash)
        ∧ after = merchant.setChannel init.escrowTxid { channel with status := .pendingOpen } := by
  simp [validateInitial]

theorem markOpen_eq_ok {escrow : Txid} {answer : Unit}
    : merchant.markOpen escrow = .ok (answer, after)
      ↔ ∃ channel, merchant.channels.get? escrow = some channel
        ∧ channel.status = .pendingOpen
        ∧ after = merchant.setChannel escrow { channel with status := .confirmed } := by
  simp [markOpen]

/-- The first pay token is issued for the announced state of a confirmed channel, as long as its
nonce is not used up.
-/
theorem activate_eq_ok {escrow : Txid} {state : ChannelState} {token : PayToken}
    : merchant.activate escrow state = .ok token
      ↔ ∃ channel, merchant.channels.get? escrow = some channel
        ∧ channel.status = .confirmed
        ∧ channel.token.checkState state = .ok ()
        ∧ channel.init.map (·.state channel.token) = some state
        ∧ merchant.spentNonces.contains state.nonce = false
        ∧ token = .compute merchant.hmacKey state := by
  simp [activate]

-----------------------------------------------------------------------------------------
-- Payments
-----------------------------------------------------------------------------------------

/-- The mask of a pay token and the randomness of its commitment, as they are drawn. -/
def drawnOpening (source : Entropy) : PayMaskOpening :=
  ⟨⟨(source.draw 32).1⟩, ⟨((source.draw 32).2.draw 16).1⟩⟩

/-- The masks of the signatures, which are drawn after the opening. -/
def drawnMasks (source : Entropy) : TxMasks :=
  let rest := ((source.draw 32).2.draw 16).2
  ⟨⟨(rest.draw 32).1⟩, ⟨((rest.draw 32).2.draw 32).1⟩⟩

/-- The session that a payment request begins. -/
def begunSession (request : PaymentRequest) (source : Entropy) : Session where
  nonce := request.nonce
  commitment := request.commitment
  amount := request.amount
  masks := drawnMasks source
  opening := drawnOpening source
  status := .prepared

theorem checkPayment_eq_ok {request : PaymentRequest} {answer : Unit}
    : merchant.checkPayment request = .ok answer
      ↔ (merchant.spentNonces.contains request.nonce = false
          ∧ merchant.liveNonces.contains request.nonce = false)
        ∧ merchant.sessions.contains request.session = false
        ∧ merchant.accepts request.amount request.justification = true := by
  simp [checkPayment]

/-- A payment that may begin finds its nonce and its identifier free. -/
theorem free_of_checkPayment {request : PaymentRequest}
    (checked : merchant.checkPayment request = .ok ())
    : merchant.spentNonces.get? request.nonce = none
      ∧ merchant.liveNonces.get? request.nonce = none
      ∧ merchant.sessions.get? request.session = none := by
  obtain ⟨⟨unspent, unlived⟩, free, -⟩ := checkPayment_eq_ok.1 checked
  exact ⟨Dict.contains_eq_false_iff.1 unspent, Dict.contains_eq_false_iff.1 unlived,
    Dict.contains_eq_false_iff.1 free⟩

/-- A nonce that is used up or in use is refused before anything else is looked at. -/
theorem preparePayment_nonceReused {request : PaymentRequest} {source : Entropy}
    (used : merchant.spentNonces.contains request.nonce = true
      ∨ merchant.liveNonces.contains request.nonce = true)
    : (merchant.preparePayment request).outcome source
      = .refuse (.nonceReused request.nonce) := by
  have fails : ¬(merchant.spentNonces.contains request.nonce = false
      ∧ merchant.liveNonces.contains request.nonce = false) := by
    rcases used with spent | live
    · simp [spent]
    · simp [live]
  simp only [preparePayment, Draw.outcome_bind, Draw.outcome_of, checkPayment,
    Outcome.ensure_of_not fails]
  rfl

/-- A payment begins with a nonce and a session that are not in use. -/
theorem preparePayment_eq_ok {request : PaymentRequest} {source : Entropy}
    {response : PaymentResponse}
    : (merchant.preparePayment request).outcome source = .ok (response, after)
      ↔ merchant.checkPayment request = .ok ()
        ∧ response = ⟨request.session,
          .commit (drawnOpening source).mask (drawnOpening source).randomness⟩
        ∧ after = { merchant.setSession request.session (begunSession request source) with
            liveNonces := merchant.liveNonces.insert request.nonce request.session } := by
  simp only [preparePayment, begunSession, drawnOpening, drawnMasks, setSession,
    Draw.outcome_bind, Draw.outcome_of, Draw.outcome_bytes, Draw.outcome_pure, Draw.rest_of,
    Draw.rest_bytes, Outcome.bind_eq_ok, Outcome.ok_bind, Outcome.pure_eq_ok, Outcome.exists_unit,
    Prod.mk.injEq]

/-- What the merchant gives to the masking service for a session. -/
def inputOf (merchant : Merchant) (id : SessionId) (session : Session) : MerchantInput where
  session := id
  nonce := session.nonce
  commitment := session.commitment
  amount := session.amount
  keys := merchant.keys
  key := merchant.escrowSecret
  hmacKey := merchant.hmacKey
  masks := session.masks
  opening := session.opening
  params := merchant.params

theorem maskingInput_eq_ok {id : SessionId} {input : MerchantInput}
    : merchant.maskingInput id = .ok (input, after)
      ↔ ∃ session, merchant.sessions.get? id = some session
        ∧ session.status = .prepared
        ∧ input = merchant.inputOf id session
        ∧ after = merchant.setSession id { session with status := .updating } := by
  simp [maskingInput, inputOf]

theorem failSession_eq_ok {id : SessionId} {answer : Unit}
    : merchant.failSession id = .ok (answer, after)
      ↔ ∃ session, merchant.sessions.get? id = some session
        ∧ (session.status = .prepared ∨ session.status = .updating)
        ∧ after = merchant.closeSession id := by
  simp [failSession]

/-- The masks of the signatures are released for an updating session whose masking is confirmed. -/
theorem confirmMasking_eq_ok {id : SessionId} {confirmed : Bool} {released : ReleasedMasks}
    : merchant.confirmMasking id confirmed = (.ok released, after)
      ↔ ∃ session, merchant.sessions.get? id = some session
        ∧ session.status = .updating
        ∧ confirmed = true
        ∧ released = ⟨id, session.masks⟩
        ∧ after = merchant.setSession id { session with status := .confirmed } := by
  unfold confirmMasking session
  cases merchant.sessions.get? id with
  | none => simp [Outcome.require, Outcome.refuse]
  | some session =>
      by_cases updating : session.status = .updating
      · cases confirmed with
        | true => simp [Outcome.require, updating, eq_comm]
        | false => simp [Outcome.require, updating]
      · simp [Outcome.require, updating]

/-- A masking that is refused changes nothing, unless it drops an updating session. -/
theorem confirmMasking_error {id : SessionId} {confirmed : Bool} {failure : Failure ChannelError}
    (failed : merchant.confirmMasking id confirmed = (.error failure, after))
    : after = merchant
      ∨ ∃ session, merchant.sessions.get? id = some session
        ∧ session.status = .updating
        ∧ confirmed = false
        ∧ after = merchant.closeSession id := by
  unfold confirmMasking session at failed
  cases found : merchant.sessions.get? id with
  | none =>
      simp only [found, Outcome.require, Outcome.refuse, Prod.mk.injEq] at failed
      exact .inl failed.2.symm
  | some session =>
      by_cases updating : session.status = .updating
      · cases confirmed with
        | true => simp [found, Outcome.require, updating] at failed
        | false =>
            simp only [found, Outcome.require, updating, ne_eq, not_true_eq_false, if_false,
              Bool.false_eq_true, Prod.mk.injEq] at failed
            exact .inr ⟨session, rfl, updating, rfl, failed.2.symm⟩
      · simp only [found, Outcome.require, updating, ne_eq, not_false_eq_true, if_true,
          Prod.mk.injEq] at failed
        exact .inl failed.2.symm

/-- A nonce that is used up has its opening released to whoever repeats the revocation. -/
theorem releasedOpening_eq_ok {id : SessionId} {revoked : RevokedState}
    {opening : PayMaskOpening}
    : merchant.releasedOpening id revoked = .ok opening
      ↔ ∃ spent, merchant.spentNonces.get? revoked.nonce = some spent
        ∧ spent.session = id
        ∧ spent.revocation = some (revoked.lock, revoked.secret)
        ∧ opening = spent.opening := by
  simp [releasedOpening, Option.filter_eq_some_iff, and_assoc]

/-- A right revocation: it is about the payment of the session, its secret opens its lock and its
lock the commitment of the session.
-/
def RightRevocation (session : Session) (revoked : RevokedState) : Prop :=
  revoked.nonce = session.nonce ∧ revoked.commitment = session.commitment
    ∧ revoked.verify = true

/-- An opening is released again for a nonce that is used up, or it is released for a confirmed
session whose right revocation was recorded.
-/
theorem validateRevoked_eq_ok {ledger recorded : Ledger} {id : SessionId} {revoked : RevokedState}
    {opening : PayMaskOpening}
    : merchant.validateRevoked ledger id revoked = (.ok opening, after, recorded)
      ↔ (merchant.sessions.get? id = none
          ∧ merchant.releasedOpening id revoked = .ok opening
          ∧ after = merchant ∧ recorded = ledger)
        ∨ ∃ session, merchant.sessions.get? id = some session
          ∧ session.status = .confirmed
          ∧ RightRevocation session revoked
          ∧ ledger.put revoked.lock revoked.secret = .ok recorded
          ∧ opening = session.opening
          ∧ after = (merchant.spend session.nonce
              ⟨id, some (revoked.lock, revoked.secret), session.opening⟩).closeSession id := by
  unfold validateRevoked
  cases merchant.sessions.get? id with
  | none => simp [eq_comm]
  | some session =>
      by_cases confirmed : session.status = .confirmed
      · by_cases right : RightRevocation session revoked
        · have stays := right
          obtain ⟨nonce, commitment, verifies⟩ := right
          cases ledger.put revoked.lock revoked.secret with
          | error reason => simp [confirmed, nonce, commitment, verifies, Outcome.refuse]
          | ok written => simp [confirmed, nonce, commitment, verifies, stays, eq_comm]; grind
        · have wrong : revoked.nonce ≠ session.nonce ∨ revoked.commitment ≠ session.commitment
              ∨ revoked.verify = false := by
            simp only [RightRevocation] at right
            grind
          simp [confirmed, right, wrong, Outcome.refuse]
      · simp [confirmed, Outcome.refuse]

/-- A wrong revocation of a confirmed session is refused and uses up the nonce. -/
theorem validateRevoked_of_wrong {id : SessionId} {session : Session} {revoked : RevokedState}
    (found : merchant.sessions.get? id = some session) (confirmed : session.status = .confirmed)
    (wrong : ¬RightRevocation session revoked) (ledger : Ledger)
    : merchant.validateRevoked ledger id revoked
      = (.refuse .invalidRevocationProof,
        (merchant.spend session.nonce ⟨id, none, session.opening⟩).closeSession id, ledger) := by
  have differs : revoked.nonce ≠ session.nonce ∨ revoked.commitment ≠ session.commitment
      ∨ revoked.verify = false := by
    simp only [RightRevocation] at wrong
    grind
  simp [validateRevoked, found, confirmed, differs]

/-- A revocation that is refused changes nothing, unless it is wrong and uses up the nonce. -/
theorem validateRevoked_error {ledger recorded : Ledger} {id : SessionId}
    {revoked : RevokedState} {failure : Failure ChannelError}
    (failed : merchant.validateRevoked ledger id revoked = (.error failure, after, recorded))
    : recorded = ledger
      ∧ ((merchant.sessions.get? id = none ∧ after = merchant)
        ∨ (failure ≠ .refused .invalidRevocationProof ∧ after = merchant)
        ∨ ∃ session, merchant.sessions.get? id = some session
          ∧ session.status = .confirmed
          ∧ ¬RightRevocation session revoked
          ∧ failure = .refused .invalidRevocationProof
          ∧ after = (merchant.spend session.nonce ⟨id, none, session.opening⟩).closeSession id)
    := by
  unfold validateRevoked at failed
  cases found : merchant.sessions.get? id with
  | none =>
      simp only [found, Prod.mk.injEq] at failed
      exact ⟨failed.2.2.symm, .inl ⟨rfl, failed.2.1.symm⟩⟩
  | some session =>
      by_cases confirmed : session.status = .confirmed
      · by_cases wrong : revoked.nonce ≠ session.nonce ∨ revoked.commitment ≠ session.commitment
            ∨ revoked.verify = false
        · simp only [found, confirmed, ne_eq, not_true_eq_false, if_false, wrong, if_true,
            Prod.mk.injEq, Outcome.refuse, Except.error.injEq] at failed
          refine ⟨failed.2.2.symm, .inr (.inr ⟨session, rfl, confirmed, ?_, failed.1.symm,
            failed.2.1.symm⟩)⟩
          rintro ⟨nonce, commitment, verifies⟩
          simp [nonce, commitment, verifies] at wrong
        · simp only [found, confirmed, ne_eq, not_true_eq_false, if_false, wrong] at failed
          cases written : ledger.put revoked.lock revoked.secret with
          | ok recorded => simp [written] at failed
          | error reason =>
              simp only [written, Prod.mk.injEq, Outcome.refuse, Except.error.injEq] at failed
              obtain ⟨rfl, rfl, rfl⟩ := failed
              exact ⟨rfl, .inr (.inl ⟨by simp, rfl⟩)⟩
      · simp only [found, confirmed, ne_eq, not_false_eq_true, if_true, Prod.mk.injEq,
          Outcome.refuse, Except.error.injEq] at failed
        obtain ⟨rfl, rfl, rfl⟩ := failed
        exact ⟨rfl, .inr (.inl ⟨by simp, rfl⟩)⟩

-----------------------------------------------------------------------------------------
-- Closing channels
-----------------------------------------------------------------------------------------

/-- The channel that a transaction spends is a registered one, and the transaction spends its
escrow or its merchant-close output first.
-/
theorem channelSpentBy_eq_ok {tx : Transaction} {escrow : Txid} {spent : MerchantChannel}
    (found : merchant.channelSpentBy tx = .ok (escrow, spent))
    : merchant.channels.get? escrow = some spent
      ∧ ∃ input, tx.inputs.head? = some input
        ∧ (spent.token.escrowOutPoint = input.previousOutput
          ∨ spent.token.merchantCloseOutPoint = input.previousOutput) := by
  simp only [channelSpentBy, Outcome.bind_eq_ok, Outcome.require_eq_ok] at found
  obtain ⟨input, first, match_⟩ := found
  obtain ⟨registered, spends⟩ := Dict.find?_eq_some match_
  exact ⟨registered, input, first, by simpa using spends⟩

/-- A transaction that spends an output of a registered channel leads to some registered channel. -/
theorem exists_channelSpentBy {tx : Transaction} {escrow : Txid} {channel : MerchantChannel}
    {input : TxIn} (first : tx.inputs.head? = some input)
    (found : merchant.channels.get? escrow = some channel)
    (spends : channel.token.escrowOutPoint = input.previousOutput
      ∨ channel.token.merchantCloseOutPoint = input.previousOutput)
    : ∃ other known, merchant.channelSpentBy tx = .ok (other, known) := by
  obtain ⟨other, known, search⟩ := Dict.exists_find? found
    (fun _ channel => channel.token.escrowOutPoint = input.previousOutput
      || channel.token.merchantCloseOutPoint = input.previousOutput)
    (by simpa using spends)
  refine ⟨other, known, ?_⟩
  simp only [channelSpentBy, Outcome.bind_eq_ok, Outcome.require_eq_ok]
  exact ⟨input, first, search⟩

theorem forceClose_eq_ok {escrow : Txid} {signed : SignedTx}
    : merchant.forceClose escrow = .ok (signed, after)
      ↔ ∃ channel, merchant.channels.get? escrow = some channel
        ∧ (channel.status = .pendingOpen ∨ channel.status = .confirmed
          ∨ channel.status = .merchantClosing)
        ∧ signed = channel.signedClose
        ∧ after = merchant.setChannel escrow { channel with status := .merchantClosing } := by
  simp [forceClose]

theorem claimMerchantClose_eq_ok {escrow : Txid} {fee : Sat} {signed : SignedTx}
    : merchant.claimMerchantClose escrow fee = .ok signed
      ↔ ∃ channel, merchant.channels.get? escrow = some channel
        ∧ channel.status = .merchantClosing
        ∧ ∃ output, channel.signedClose.tx.outputs.head? = some output
        ∧ ∃ claim, merchantClaimTx channel.token.merchantCloseOutPoint output.value
            (channel.token.closingKeys channel.token.customerKey) merchant.params.selfDelay
            merchant.keys.payout fee merchant.params.fees merchant.params.dustLimit = .ok claim
        ∧ signed = claim.finalizeDelayed (claim.sign merchant.payoutSecret) := by
  simp [claimMerchantClose, @eq_comm _ signed]

theorem markClosed_eq_ok {escrow : Txid} {answer : Unit}
    : merchant.markClosed escrow = .ok (answer, after)
      ↔ ∃ channel, merchant.channels.get? escrow = some channel
        ∧ (channel.status = .merchantClosing ∨ channel.status = .customerClosing
          ∨ channel.status = .disputed ∨ channel.status = .pendingClose)
        ∧ after = merchant.setChannel escrow { channel with status := .settled } := by
  simp [markClosed]

/-- A dispute looks the published lock up and does nothing as long as its secret is not known.
With the secret, the first output goes to the merchant and the channel counts as disputed.
-/
theorem dispute_eq_ok {ledger : Ledger} {tx : Transaction} {fee : Sat} {answer : Option SignedTx}
    (disputed : merchant.dispute ledger tx fee = .ok (answer, after))
    : ∃ published, publication tx = .ok published
      ∧ ((checkLock ledger published.lock = .ok none ∧ answer = none ∧ after = merchant)
        ∨ ∃ secret escrow channel output,
          checkLock ledger published.lock = .ok (some secret)
          ∧ merchant.channelSpentBy tx = .ok (escrow, channel)
          ∧ tx.outputs.head? = some output
          ∧ output.script = .payToScript (.toCustomer published.lock merchant.keys.dispute
            published.closeKey merchant.params.selfDelay)
          ∧ answer.isSome = true
          ∧ after = merchant.setChannel escrow { channel with status := .disputed }) := by
  simp only [dispute, Outcome.bind_eq_ok] at disputed
  obtain ⟨published, published_eq, known, known_eq, rest⟩ := disputed
  refine ⟨published, published_eq, ?_⟩
  cases known with
  | none =>
      simp only [Outcome.pure_eq_ok, Prod.mk.injEq] at rest
      exact .inl ⟨known_eq, rest.1, rest.2⟩
  | some secret =>
      simp only [Outcome.bind_eq_ok, Outcome.require_eq_ok, Outcome.ensure_eq_ok,
        Outcome.pure_eq_ok, Outcome.exists_unit, Prod.mk.injEq, Prod.exists] at rest
      obtain ⟨escrow, channel, spent, output, first, script, claim, -, rfl, changed⟩ := rest
      exact .inr ⟨secret, escrow, channel, output, known_eq, spent, first, script, rfl, changed⟩

/-- A published lock whose secret is not known leaves nothing to dispute. -/
theorem dispute_of_unknown {ledger : Ledger} {tx : Transaction} {fee : Sat}
    {published : Publication} (publishes : Publication.ofTransaction tx = .ok published)
    (unknown : ledger.get published.lock = .ok none)
    : merchant.dispute ledger tx fee = .ok (none, merchant) := by
  have seen : publication tx = .ok published := Outcome.mapRefusal_eq_ok.2 publishes
  have free : checkLock ledger published.lock = .ok none := by rw [checkLock, unknown]
  rw [dispute, seen, Outcome.ok_bind, free, Outcome.ok_bind]
  rfl

/-- With the secret of the published lock the first output goes to the merchant, if it pays to the
script of the lock and the claim can be formed.
-/
theorem dispute_of_known {ledger : Ledger} {tx : Transaction} {fee : Sat}
    {published : Publication} {secret : RevSecret} {escrow : Txid} {channel : MerchantChannel}
    {output : TxOut} {claim : SignableTx}
    (publishes : Publication.ofTransaction tx = .ok published)
    (known : ledger.get published.lock = .ok (some secret))
    (spends : merchant.channelSpentBy tx = .ok (escrow, channel))
    (first : tx.outputs.head? = some output)
    (script : output.script = .payToScript (.toCustomer published.lock merchant.keys.dispute
      published.closeKey merchant.params.selfDelay))
    (formed : disputeTx ⟨tx.txid, 0⟩ output.value published.lock
      (channel.token.closingKeys published.closeKey) merchant.params.selfDelay merchant.keys.payout
      fee merchant.params.fees merchant.params.dustLimit = .ok claim)
    : merchant.dispute ledger tx fee
      = .ok (some (claim.finalizeDispute (claim.sign merchant.disputeSecret) secret.bytes),
        merchant.setChannel escrow { channel with status := .disputed }) := by
  have seen : publication tx = .ok published := Outcome.mapRefusal_eq_ok.2 publishes
  have held : checkLock ledger published.lock = .ok (some secret) := by rw [checkLock, known]
  rw [dispute, seen, Outcome.ok_bind, held, Outcome.ok_bind]
  simp only [spends, first, formed, Outcome.ok_bind, Outcome.require, Outcome.ensure_of script,
    Outcome.mapRefusal]
  rfl

/-- Taking the merchant's output of a customer-close transaction is what closes a channel that
is open or that the merchant is closing.
-/
theorem claimOutput_eq_ok {tx : Transaction} {fee : Sat} {signed : SignedTx}
    (claimed : merchant.claimOutput tx fee = .ok (signed, after))
    : ∃ escrow channel, merchant.channelSpentBy tx = .ok (escrow, channel)
      ∧ ((channel.status = .pendingOpen ∨ channel.status = .confirmed
          ∨ channel.status = .merchantClosing)
        ∧ after = merchant.setChannel escrow { channel with status := .customerClosing }
        ∨ after = merchant) := by
  simp only [claimOutput, Outcome.bind_eq_ok, Outcome.pure_eq_ok, Prod.mk.injEq, Prod.exists]
    at claimed
  obtain ⟨escrow, channel, spent, output, -, -, claim, -, -, -, changed⟩ := claimed
  refine ⟨escrow, channel, spent, ?_⟩
  split at changed
  case isTrue closes => exact .inl ⟨closes, changed⟩
  case isFalse => exact .inr changed

end Merchant

end PaymentChannel
