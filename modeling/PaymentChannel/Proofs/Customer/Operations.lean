import PaymentChannel.Proofs.Customer.Run
import PaymentChannel.Proofs.Masking

/-! What an operation of a customer needed and did when it was not refused, one law for each.
Later arguments about runs rest on these laws and never open an operation again.
-/

namespace PaymentChannel

namespace Customer

variable {customer after : Customer}

-----------------------------------------------------------------------------------------
-- Fresh customers
-----------------------------------------------------------------------------------------

/-- A customer with the given keys and balances that has no channel. -/
def fresh (params : ChannelParams) (merchantKeys : MerchantKeys) (balances : Balance × Balance)
    (name : String) (escrowSecret closeSecret : SecretKey) (nonce : Nonce) (secret : RevSecret)
    : Customer where
  name := name
  params := params
  stage := .initialized
  status := .unfunded
  escrowSecret := escrowSecret
  escrowKey := escrowSecret.publicKey
  closeSecret := closeSecret
  closeKey := closeSecret.publicKey
  merchantKeys := merchantKeys
  initialBalances := balances
  initialNonce := nonce
  secret := secret
  channel := none
  payToken := none
  pending := none
  merchantTrusted := true

/-- A customer starts with keys, a nonce and a secret that it draws, under acceptable terms. -/
theorem init_eq_ok {params : ChannelParams} {merchantKeys : MerchantKeys}
    {customerBalance merchantBalance : Balance} {name : String} {source : Entropy}
    : (init params merchantKeys customerBalance merchantBalance name).outcome source = .ok customer
      ↔ params.validate = .ok ()
        ∧ ∃ balances, openingBalances params customerBalance merchantBalance = .ok balances
        ∧ ∃ escrow, SecretKey.ofBytes? (source.draw 32).1 = some escrow
        ∧ ∃ close, SecretKey.ofBytes? ((source.draw 32).2.draw 32).1 = some close
        ∧ customer = fresh params merchantKeys balances name escrow close
          (.first (((source.draw 32).2.draw 32).2.draw 8).1)
          ⟨((((source.draw 32).2.draw 32).2.draw 8).2.draw 32).1⟩ := by
  simp only [init, fresh, Draw.outcome_bind, Draw.outcome_of, Draw.outcome_secretKey,
    Draw.outcome_bytes, Draw.outcome_pure, Draw.rest_of, Draw.rest_secretKey, Draw.rest_bytes,
    Outcome.bind_eq_ok, Outcome.mapRefusal_eq_ok, Outcome.require_eq_ok, Outcome.ok_bind,
    Outcome.pure_eq_ok, Outcome.exists_unit]

-----------------------------------------------------------------------------------------
-- Look-ups
-----------------------------------------------------------------------------------------

@[simp] theorem requireStage_eq_ok {required : List Stage} {answer : Unit}
    : customer.requireStage required = .ok answer ↔ customer.stage ∈ required := by
  simp [requireStage]

@[simp] theorem requireStatus_eq_ok {required : ChannelStatus} {answer : Unit}
    : customer.requireStatus required = .ok answer ↔ customer.status = required := by
  simp [requireStatus]

@[simp] theorem requireChannel_eq_ok {channel : FundedChannel}
    : customer.requireChannel = .ok channel ↔ customer.channel = some channel := by
  simp [requireChannel]

@[simp] theorem requirePending_eq_ok {pending : PendingRound}
    : customer.requirePending = .ok pending ↔ customer.pending = some pending := by
  simp [requirePending]

-----------------------------------------------------------------------------------------
-- Opening the channel
-----------------------------------------------------------------------------------------

/-- Whatever the source of a funding, it has the customer's first balances. -/
theorem chooseFunding_eq_ok {value : Sat} {source : FundingSource} {funding : FundingInfo}
    {escrowTx : Option SignedTx}
    (chosen : customer.chooseFunding value source = .ok (funding, escrowTx))
    : funding.customerBalance = customer.initialBalances.1
      ∧ funding.merchantBalance = customer.initialBalances.2 := by
  cases source with
  | utxo utxo key changeKey fee =>
      simp [chooseFunding, formFunding] at chosen
      grind
  | formed funding =>
      simp [chooseFunding] at chosen
      grind

/-- A new channel: its funding, its token and its first state. -/
theorem fund_eq_ok {source : FundingSource} {request : OpenRequest}
    : customer.fund source = .ok (request, after)
      ↔ customer.stage = .initialized ∧ customer.status = .unfunded
        ∧ ∃ value, escrowValue customer.initialBalances.1 customer.initialBalances.2 = .ok value
        ∧ ∃ funding escrowTx, customer.chooseFunding value source = .ok (funding, escrowTx)
        ∧ ∃ close, (ChannelToken.ofFunding customer.escrowKey customer.merchantKeys funding
            ).merchantCloseTx value customer.params = .ok close
          ∧ close.txid = funding.merchantCloseTxid
          ∧ request =
            ⟨.ofFunding customer.escrowKey customer.merchantKeys funding, funding,
              close.sign customer.escrowSecret⟩
          ∧ after = { customer with
              channel := some {
                token := .ofFunding customer.escrowKey customer.merchantKeys funding
                funding
                state := customer.firstState funding
                escrowTx
                signatures := none }
              status := .pendingOpen } := by
  simp [fund]

theorem verifyClose_eq_ok {token : ChannelToken} {state : ChannelState} {source : CloseSource}
    {signature : Signature} {answer : Unit}
    : customer.verifyClose token state source signature = .ok answer
      ↔ ∃ close, token.customerCloseTx source state customer.closeKey customer.params = .ok close
        ∧ close.verifies signature token.merchantKey = true := by
  simp [verifyClose]

/-- Both signatures are checked, each for the close transaction of its source. -/
theorem verifySignatures_eq_ok {token : ChannelToken} {state : ChannelState}
    {signatures : CloseSignatures} {answer : Unit}
    : customer.verifySignatures token state signatures = .ok answer
      ↔ ∀ source, ∃ close,
        token.customerCloseTx source state customer.closeKey customer.params = .ok close
        ∧ close.verifies (signatures.of source) token.merchantKey = true := by
  simp only [verifySignatures, Outcome.bind_eq_ok, Outcome.exists_unit, verifyClose_eq_ok]
  constructor
  · rintro ⟨escrow, merchantClose⟩ (_ | _)
    · exact escrow
    · exact merchantClose
  · intro both
    exact ⟨both .escrow, both .merchantClose⟩

theorem storeInitialSignatures_eq_ok {signatures : CloseSignatures} {answer : Unit}
    : customer.storeInitialSignatures signatures = .ok (answer, after)
      ↔ customer.stage = .initialized
        ∧ ∃ channel, customer.channel = some channel
        ∧ customer.verifySignatures channel.token channel.state signatures = .ok ()
        ∧ after = { customer with
            channel := some { channel with signatures := some signatures }
            stage := .funded } := by
  simp [storeInitialSignatures]

theorem markOpen_eq_ok {answer : Unit}
    : customer.markOpen = .ok (answer, after)
      ↔ customer.stage = .funded ∧ customer.status = .pendingOpen
        ∧ after = { customer with status := .confirmed } := by
  simp [markOpen]

theorem requestActivation_eq_ok {state : ChannelState}
    : customer.requestActivation = .ok (state, after)
      ↔ customer.stage = .funded ∧ customer.status = .confirmed
        ∧ ∃ channel, customer.channel = some channel ∧ state = channel.state
        ∧ after = { customer with stage := .activated } := by
  simp [requestActivation]

theorem finishActivation_eq_ok {token : PayToken} {answer : Unit}
    : customer.finishActivation token = .ok (answer, after)
      ↔ customer.stage = .activated
        ∧ after = { customer with payToken := some token, stage := .ready } := by
  simp [finishActivation]

-----------------------------------------------------------------------------------------
-- Payments
-----------------------------------------------------------------------------------------

/-- A payment begins in an open channel without another payment, and both parties keep their
reserves.
-/
theorem checkPayment_eq_ok {amount : Balance} {state : ChannelState}
    : customer.checkPayment amount = .ok state
      ↔ customer.stage = .ready ∧ customer.merchantTrusted = true ∧ customer.pending = none
        ∧ customer.payToken ≠ none
        ∧ ∃ channel, customer.channel = some channel
        ∧ customer.checkAmount channel.state amount = .ok ()
        ∧ state = channel.state := by
  simp [checkPayment]

/-- The secret that a payment draws for its new state. -/
def drawnSecret (source : Entropy) : RevSecret := ⟨(source.draw 32).1⟩

/-- The blinding factor that a payment draws for its commitment. -/
def drawnBlinding (source : Entropy) : BlindingFactor := ⟨((source.draw 32).2.draw 32).1⟩

/-- The session that a payment draws. -/
def drawnSession (source : Entropy) : SessionId := ⟨(((source.draw 32).2.draw 32).2.draw 16).1⟩

/-- A payment begins: its new state, and the request with the nonce and the lock of the old one. -/
theorem preparePayment_eq_ok {amount : Balance} {justification : Option String} {source : Entropy}
    {request : PaymentRequest}
    : (customer.preparePayment amount justification).outcome source = .ok (request, after)
      ↔ ∃ state, customer.checkPayment amount = .ok state
        ∧ ∃ new, (state.pay amount (drawnSecret source).lock : Outcome ChannelError ChannelState)
          = .ok new
        ∧ new.nonce ≠ state.nonce
        ∧ request = {
            session := drawnSession source
            nonce := state.nonce
            commitment := .commit state.lock (drawnBlinding source)
            amount, justification }
        ∧ after = { customer with
            pending := some {
              session := drawnSession source
              amount, new
              newSecret := drawnSecret source
              blinding := drawnBlinding source
              commitment := .commit state.lock (drawnBlinding source)
              maskCommitment := none
              unmasked := none
              revoked := none } } := by
  simp only [preparePayment, drawnSecret, drawnBlinding, drawnSession, Draw.outcome_bind,
    Draw.outcome_of, Draw.outcome_bytes, Draw.outcome_pure, Draw.rest_of, Draw.rest_bytes,
    Outcome.bind_eq_ok, Outcome.ensure_eq_ok, Outcome.ok_bind, Outcome.pure_eq_ok,
    Outcome.exists_unit, Prod.mk.injEq]

/-- A payment takes the merchant's commitment, as long as it has no signatures. -/
theorem maskingInput_eq_ok {response : PaymentResponse} {input : CustomerInput}
    : customer.maskingInput response = .ok (input, after)
      ↔ customer.stage = .ready
        ∧ ∃ payToken, customer.payToken = some payToken
        ∧ ∃ channel, customer.channel = some channel
        ∧ ∃ pending, customer.pending = some pending
          ∧ pending.session = response.session
          ∧ pending.unmasked = none
          ∧ input = {
              token := channel.token
              closeKey := customer.closeKey
              old := channel.state
              new := pending.new
              payToken
              blinding := pending.blinding
              amount := pending.amount
              commitment := response.commitment }
          ∧ after = { customer with
              pending := some { pending with maskCommitment := some response.commitment } } := by
  simp [maskingInput]

/-- Signatures are found again under the masks that they were masked with. -/
theorem unmaskSignatures_mask (signatures : CloseSignatures) (masks : TxMasks)
    (token : MaskedPayToken)
    : unmaskSignatures
        ⟨.mask signatures.escrow masks.escrow,
          .mask signatures.merchantClose masks.merchantClose, token⟩ masks
      = .ok signatures := by
  simp only [unmaskSignatures, unmaskSignature, MaskedSignature.unmask?_mask, Outcome.require,
    Outcome.ok_bind]
  rfl

/-- A payment waits for signatures once the merchant committed to a mask and until its old state is
revoked.
-/
theorem roundAwaitingSignatures_eq_ok {released : ReleasedMasks} {channel : FundedChannel}
    {pending : PendingRound}
    : customer.roundAwaitingSignatures released = .ok (channel, pending)
      ↔ customer.stage = .ready ∧ customer.channel = some channel
        ∧ customer.pending = some pending ∧ pending.session = released.session
        ∧ pending.maskCommitment ≠ none ∧ pending.revoked = none := by
  simp only [roundAwaitingSignatures, Outcome.bind_eq_ok, Outcome.exists_unit,
    requireStage_eq_ok, requireChannel_eq_ok, requirePending_eq_ok, Outcome.ensure_eq_ok,
    Outcome.pure_eq_ok, Prod.mk.injEq, List.mem_singleton]
  constructor
  · rintro ⟨ready, _, found, _, round, same, ⟨committed, unrevoked⟩, rfl, rfl⟩
    exact ⟨ready, found, round, same, committed, unrevoked⟩
  · rintro ⟨ready, found, round, same, committed, unrevoked⟩
    exact ⟨ready, _, found, _, round, same, ⟨committed, unrevoked⟩, rfl, rfl⟩

/-- Signatures were accepted only if they verify for the new state. -/
theorem acceptSignatures_eq_ok {outputs : MaskedOutputs} {released : ReleasedMasks}
    {answer : Unit}
    (ended : customer.acceptSignatures outputs released = (.ok answer, after))
    : ∃ channel pending, customer.roundAwaitingSignatures released = .ok (channel, pending)
      ∧ ∃ signatures, unmaskSignatures outputs released.masks = .ok signatures
      ∧ customer.verifySignatures channel.token pending.new signatures = .ok ()
      ∧ after = { customer with
          pending := some { pending with unmasked := some (signatures, outputs.payToken) } } := by
  unfold acceptSignatures at ended
  split at ended
  case h_1 => cases ended
  case h_2 channel pending awaiting =>
    dsimp only at ended
    split at ended
    case h_1 signatures checked =>
      cases ended
      simp only [Outcome.bind_eq_ok, Outcome.exists_unit, Outcome.pure_eq_ok]
        at checked
      obtain ⟨_, unmasked, verified, rfl⟩ := checked
      exact ⟨channel, pending, awaiting, signatures, unmasked, verified, rfl⟩
    case h_2 => cases ended
    case h_3 => cases ended

/-- Signatures that verify for the new state are accepted. -/
theorem acceptSignatures_of {outputs : MaskedOutputs} {released : ReleasedMasks}
    {channel : FundedChannel} {pending : PendingRound} {signatures : CloseSignatures}
    (awaiting : customer.roundAwaitingSignatures released = .ok (channel, pending))
    (unmasked : unmaskSignatures outputs released.masks = .ok signatures)
    (verified : customer.verifySignatures channel.token pending.new signatures = .ok ())
    : customer.acceptSignatures outputs released
      = (.ok (), { customer with
          pending := some { pending with unmasked := some (signatures, outputs.payToken) } }) := by
  unfold acceptSignatures
  simp only [awaiting, unmasked, verified, Outcome.ok_bind]
  rfl

/-- Signatures that are not accepted change nothing but the trust in the merchant. -/
theorem acceptSignatures_error {outputs : MaskedOutputs} {released : ReleasedMasks}
    {failure : Failure ChannelError}
    (ended : customer.acceptSignatures outputs released = (.error failure, after))
    : after = customer
      ∨ (∃ round, customer.roundAwaitingSignatures released = .ok round)
        ∧ after = { customer with merchantTrusted := false } := by
  unfold acceptSignatures at ended
  split at ended
  case h_1 =>
    cases ended
    exact .inl rfl
  case h_2 channel pending awaiting =>
    dsimp only at ended
    split at ended
    case h_1 => cases ended
    case h_2 =>
      cases ended
      exact .inr ⟨⟨_, awaiting⟩, rfl⟩
    case h_3 =>
      cases ended
      exact .inl rfl

/-- A revocation is given out again, or the customer moves to the new state and gives it out. -/
theorem revoke_eq_ok {revoked : RevokedState}
    : customer.revoke = .ok (revoked, after)
      ↔ customer.stage = .ready
        ∧ ∃ pending, customer.pending = some pending
        ∧ ((pending.revoked = some revoked ∧ after = customer)
          ∨ (pending.revoked = none
            ∧ ∃ signatures masked, pending.unmasked = some (signatures, masked)
            ∧ ∃ channel, customer.channel = some channel
            ∧ revoked = {
                nonce := channel.state.nonce
                commitment := pending.commitment
                lock := channel.state.lock
                secret := customer.secret
                blinding := pending.blinding }
            ∧ after = { customer with
                channel := some { channel with state := pending.new, signatures := some signatures }
                secret := pending.newSecret
                payToken := none
                pending := some { pending with revoked := some revoked } })) := by
  simp only [revoke, Outcome.bind_eq_ok, Outcome.exists_unit, requireStage_eq_ok,
    requirePending_eq_ok, List.mem_singleton]
  refine and_congr_right fun _ => exists_congr fun pending => and_congr_right fun _ => ?_
  rcases pending.revoked with - | known
  · simp
    grind
  · simp [@eq_comm _ known]

/-- A payment waits for its pay token once its old state is revoked. -/
theorem awaitedToken_eq_ok {commitment : PayMaskCom} {masked : MaskedPayToken}
    : customer.awaitedToken = .ok (commitment, masked)
      ↔ customer.stage = .ready
        ∧ ∃ pending, customer.pending = some pending
        ∧ ∃ revoked signatures, pending.revoked = some revoked
          ∧ pending.maskCommitment = some commitment
          ∧ pending.unmasked = some (signatures, masked) := by
  simp only [awaitedToken, Outcome.bind_eq_ok, Outcome.exists_unit, requireStage_eq_ok,
    requirePending_eq_ok, List.mem_singleton]
  refine and_congr_right fun _ => exists_congr fun pending => and_congr_right fun _ => ?_
  rcases pending.revoked with - | known
  · simp
  · rcases pending.maskCommitment with - | com
    · simp
    · rcases pending.unmasked with - | ⟨signatures, kept⟩
      · simp
      · simp [@eq_comm _ com, @eq_comm _ kept]

/-- A payment ends with the token behind the mask that the merchant committed to. -/
theorem acceptToken_eq_ok {opening : PayMaskOpening} {token : PayToken}
    : customer.acceptToken opening = (.ok token, after)
      ↔ ∃ commitment masked, customer.awaitedToken = .ok (commitment, masked)
        ∧ opening.opens commitment = true ∧ token = masked.unmask opening.mask
        ∧ after = { customer with pending := none, payToken := some token } := by
  unfold acceptToken
  rcases customer.awaitedToken with failure | ⟨commitment, masked⟩
  · simp
  · by_cases opens : opening.opens commitment = true
    · simp only [opens, if_true, Prod.mk.injEq, Except.ok.injEq]
      constructor
      · rintro ⟨rfl, rfl⟩
        exact ⟨commitment, masked, ⟨rfl, rfl⟩, opens, rfl, rfl⟩
      · rintro ⟨_, _, ⟨rfl, rfl⟩, -, rfl, rfl⟩
        exact ⟨rfl, rfl⟩
    · simp only [if_neg opens]
      constructor
      · rintro ⟨⟩
      · rintro ⟨_, _, found, opened, -⟩
        cases found
        exact absurd opened opens

/-- A token is not accepted without a change, or a wrong mask ends the payment. -/
theorem acceptToken_error {opening : PayMaskOpening} {failure : Failure ChannelError}
    (ended : customer.acceptToken opening = (.error failure, after))
    : after = customer
      ∨ (∃ commitment masked, customer.awaitedToken = .ok (commitment, masked)
          ∧ opening.opens commitment = false)
        ∧ after = { customer with pending := none, merchantTrusted := false } := by
  unfold acceptToken at ended
  split at ended
  case h_1 =>
    cases ended
    exact .inl rfl
  case h_2 commitment masked awaited =>
    split at ended
    case isTrue => cases ended
    case isFalse wrong =>
      cases ended
      exact .inr ⟨⟨_, _, awaited, Bool.eq_false_iff.2 wrong⟩, rfl⟩

theorem abort_eq_ok {answer : Unit}
    : customer.abort = .ok (answer, after)
      ↔ ∃ pending, customer.pending = some pending ∧ pending.revoked = none
        ∧ after = { customer with pending := none } := by
  simp [abort]

-----------------------------------------------------------------------------------------
-- Closing the channel
-----------------------------------------------------------------------------------------

/-- The channel closes with its current state, under the signatures that are kept for it. -/
theorem forceClose_eq_ok {source : CloseSource} {signed : SignedTx}
    : customer.forceClose source = .ok (signed, after)
      ↔ customer.stage ∈ [.funded, .activated, .ready, .closing]
        ∧ ∃ channel, customer.channel = some channel
        ∧ ∃ signatures, channel.signatures = some signatures
        ∧ ∃ close, channel.token.customerCloseTx source channel.state customer.closeKey
            customer.params = .ok close
          ∧ signed = close.finalizeMultisig (signatures.of source)
            (close.sign customer.escrowSecret)
          ∧ after = { customer with
              pending := none, stage := .closing, status := .customerClosing } := by
  simp only [forceClose, Outcome.bind_eq_ok, Outcome.exists_unit, requireStage_eq_ok,
    requireChannel_eq_ok, Outcome.require_eq_ok, Outcome.mapRefusal_eq_ok, Outcome.pure_eq_ok,
    Prod.mk.injEq]

/-- The customer claims its output of a transaction that publishes its close key and pays to the
script of the published lock.
-/
theorem claim_eq_ok {tx : Transaction} {fee : Sat} {signed : SignedTx}
    : customer.claim tx fee = .ok signed
      ↔ customer.stage = .closing
        ∧ ∃ channel, customer.channel = some channel
        ∧ ∃ published, Publication.ofTransaction tx = .ok published
        ∧ published.closeKey = customer.closeKey
        ∧ ∃ output, tx.outputs.head? = some output
        ∧ output.script = .payToScript (.toCustomer published.lock customer.merchantKeys.dispute
          customer.closeKey customer.params.selfDelay)
        ∧ ∃ signable, customerClaimTx ⟨tx.txid, 0⟩ output.value published.lock
            (channel.token.closingKeys customer.closeKey) customer.params.selfDelay
            customer.closeKey fee customer.params.fees customer.params.dustLimit = .ok signable
          ∧ signed = signable.finalizeDelayed (signable.sign customer.closeSecret) := by
  simp only [claim, Outcome.bind_eq_ok, Outcome.exists_unit, requireStage_eq_ok,
    requireChannel_eq_ok, Outcome.require_eq_ok, Outcome.ensure_eq_ok, Outcome.mapRefusal_eq_ok,
    Outcome.pure_eq_ok, List.mem_singleton]

theorem markClosed_eq_ok {answer : Unit}
    : customer.markClosed = .ok (answer, after)
      ↔ customer.stage = .closing
        ∧ after = { customer with stage := .closed, status := .settled } := by
  simp [markClosed]

theorem markDisputed_eq_ok {answer : Unit}
    : customer.markDisputed = .ok (answer, after)
      ↔ customer.stage = .closing
        ∧ after = { customer with stage := .disputed, status := .disputed } := by
  simp [markDisputed]

end Customer

end PaymentChannel
