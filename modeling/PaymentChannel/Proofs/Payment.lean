import PaymentChannel.Proofs.Customer.RevokedLocks
import PaymentChannel.Proofs.Merchant.Channels
import PaymentChannel.Proofs.Merchant.NonceReuse
import PaymentChannel.Proofs.Round

/-! A payment between honest parties goes through.
Customer, merchant and service compute states, close transactions, masks and commitments on their own.
They agree on them as long as the parties agree on the channel, and after a payment they do so
again.
-/

namespace PaymentChannel

-----------------------------------------------------------------------------------------
-- States of the channel
-----------------------------------------------------------------------------------------

/-- A payment stays in the channel of its state. -/
theorem ChannelToken.checkState_pay {ε : Type} {token : ChannelToken} {state new : ChannelState}
    {amount : Balance} {lock : RevLock} (fits : token.checkState state = .ok ())
    (paid : (state.pay amount lock : Outcome ε ChannelState) = .ok new)
    : token.checkState new = .ok () := by
  obtain ⟨_, -, _, -, rfl⟩ := ChannelState.pay_eq_ok.1 paid
  rw [checkState_eq_ok] at fits ⊢
  exact fits

namespace Customer

variable {start customer after : Customer} {history : List CustomerExchange}
  {exchange : CustomerExchange}

/-- The current state of a customer and the next one are states of its channel. -/
structure StatesFit (customer : Customer) : Prop where
  current : ∀ channel, customer.channel = some channel
    → channel.token.checkState channel.state = .ok ()
  next : ∀ channel pending, customer.channel = some channel → customer.pending = some pending
    → channel.token.checkState pending.new = .ok ()

/-- Every step keeps the states in the channel. -/
theorem StatesFit.step (fit : customer.StatesFit)
    (idle : customer.stage ≠ .ready → customer.pending = none)
    (step : CustomerStep customer exchange after)
    : after.StatesFit := by
  obtain ⟨current, next⟩ := fit
  cases step with
  | silent | opened | requested | activated | distrusted | repeated | ended => exact ⟨current, next⟩
  | funded initialized _ _ _ =>
      have none := idle (by simp [initialized])
      refine ⟨?_, by simp [none]⟩
      intro channel found
      cases found
      exact ChannelToken.checkState_eq_ok.2 ⟨rfl, rfl, ⟨rfl, rfl⟩, rfl, rfl⟩
  | @stored _ channel _ _ initialized found _ =>
      have none := idle (by simp [initialized])
      refine ⟨?_, by simp [none]⟩
      intro _ now
      cases now
      exact current channel found
  | @began _ _ _ channel _ _ _ _ found _ paid _ =>
      refine ⟨current, ?_⟩
      intro _ _ same round
      cases found.symm.trans same
      cases round
      exact ChannelToken.checkState_pay (current channel found) paid
  | @committed _ pending _ _ _ round _ | @accepted _ _ pending _ _ _ _ _ round _ _ =>
      refine ⟨current, ?_⟩
      intro channel _ found again
      cases again
      exact next channel pending found round
  | @promoted channel pending _ _ _ _ found round _ _ _ =>
      have fits := next channel pending found round
      refine ⟨?_, ?_⟩
      · intro _ now
        cases now
        exact fits
      · intro _ _ now again
        cases now
        cases again
        exact fits
  | finished | mistaken | aborted | closed =>
      refine ⟨current, ?_⟩
      intro _ _ _ round
      cases round

/-- The states fit the channel in every run, by induction on the run. -/
theorem StatesFit.run (starts : start.Starts) (run : start.Run history customer)
    : customer.StatesFit := by
  induction run with
  | start =>
      obtain ⟨channel, pending, -, -⟩ := starts.idle
      exact ⟨by simp [channel], by simp [channel]⟩
  | @call _ customer run call fit => exact fit.step (run.idle starts) (customer.step call)

end Customer

-----------------------------------------------------------------------------------------
-- Parties that agree
-----------------------------------------------------------------------------------------

/-- A customer with an open channel and a merchant that agree on all that a payment rests on. -/
structure Concord (customer : Customer) (channel : FundedChannel) (merchant : Merchant) : Prop where
  ready : customer.stage = .ready
  idle : customer.pending = none
  trusted : customer.merchantTrusted = true
  found : customer.channel = some channel
  payToken : customer.payToken = some (.compute merchant.hmacKey channel.state)
  params : customer.params = merchant.params
  issuer : channel.token.checkMerchant merchant.keys = .ok ()
  signer : merchant.escrowSecret.publicKey = merchant.keys.escrow
  fits : channel.token.checkState channel.state = .ok ()
  lock : channel.state.lock = customer.secret.lock

namespace Concord

open Customer Merchant

variable {customer : Customer} {channel : FundedChannel} {merchant : Merchant} {amount : Balance}
  {justification : Option String} {source : Entropy} {new : ChannelState}

/-- The request of a payment. -/
def request (channel : FundedChannel) (amount : Balance) (justification : Option String)
    (source : Entropy)
    : PaymentRequest where
  session := drawnSession source
  nonce := channel.state.nonce
  commitment := .commit channel.state.lock (drawnBlinding source)
  amount := amount
  justification := justification

/-- The payment as the customer begins it. -/
def begunRound (channel : FundedChannel) (amount : Balance) (new : ChannelState) (source : Entropy)
    : PendingRound where
  session := drawnSession source
  amount := amount
  new := new
  newSecret := drawnSecret source
  blinding := drawnBlinding source
  commitment := .commit channel.state.lock (drawnBlinding source)
  maskCommitment := none
  unmasked := none
  revoked := none

/-- The payment as the customer keeps it when the merchant has answered. -/
def round (channel : FundedChannel) (amount : Balance) (new : ChannelState) (source rest : Entropy)
    : PendingRound :=
  { begunRound channel amount new source with
    maskCommitment := some (.commit (drawnOpening rest).mask (drawnOpening rest).randomness) }

/-- The input of the customer for the service. -/
def customerInput (customer : Customer) (channel : FundedChannel) (merchant : Merchant)
    (amount : Balance) (new : ChannelState) (source rest : Entropy)
    : CustomerInput where
  token := channel.token
  closeKey := customer.closeKey
  old := channel.state
  new := new
  payToken := .compute merchant.hmacKey channel.state
  blinding := drawnBlinding source
  amount := amount
  commitment := .commit (drawnOpening rest).mask (drawnOpening rest).randomness

/-- The reserves that the customer keeps are those that the service asks for. -/
theorem reserves_of_checkAmount {state : ChannelState}
    (checked : customer.checkAmount state amount = .ok ())
    (paid : (state.pay amount (drawnSecret source).lock : Outcome ChannelError ChannelState)
      = .ok new)
    : Balance.ofBits customer.params.fees.customerReserve ≤ new.customerBalance
      ∧ Balance.ofBits customer.params.fees.merchantReserve ≤ new.merchantBalance := by
  obtain ⟨customerBalance, subtracted, merchantBalance, added, rfl⟩ := ChannelState.pay_eq_ok.1 paid
  have sub := Balance.sub?_eq_some.2 (Balance.sub_eq_ok.1 subtracted)
  have add := Balance.add?_eq_some.2 (Balance.add_eq_ok.1 added)
  simpa [checkAmount, sub, add] using checked

/-- The service accepts the inputs of parties that agree. -/
theorem accepted (concord : Concord customer channel merchant)
    (checked : customer.checkAmount channel.state amount = .ok ())
    (paid : (channel.state.pay amount (drawnSecret source).lock
      : Outcome ChannelError ChannelState) = .ok new)
    (justification : Option String) (rest : Entropy)
    : MaskingRequest.Accepted ⟨customerInput customer channel merchant amount new source rest,
        merchant.inputOf (drawnSession source)
          (begunSession (request channel amount justification source) rest)⟩ := by
  have reserves := reserves_of_checkAmount checked paid
  rw [concord.params] at reserves
  obtain ⟨_, subtracted, _, added, rfl⟩ := ChannelState.pay_eq_ok.1 paid
  exact {
    key := concord.signer
    merchant := concord.issuer
    oldFits := concord.fits
    newFits := ChannelToken.checkState_pay concord.fits paid
    payToken := rfl
    nonce := rfl
    lock := RevLockCom.opensWith_eq_true.2 rfl
    amount := rfl
    next := rfl
    customerBalance := Balance.sub_eq_ok.2 (Balance.sub_eq_ok.1 subtracted)
    merchantBalance := Balance.add_eq_ok.2 (Balance.add_eq_ok.1 added)
    reserves := reserves
    mask := PayMaskOpening.opens_eq_true.2 rfl }

end Concord

-----------------------------------------------------------------------------------------
-- The merchant's part
-----------------------------------------------------------------------------------------

namespace Merchant

variable {merchant : Merchant} {request : PaymentRequest}

/-- The session of a payment whose masks were released. -/
def releasedSession (request : PaymentRequest) (rest : Entropy) : Session :=
  { begunSession request rest with status := .confirmed }

/-- The merchant once it released the masks of a payment. -/
def masked (merchant : Merchant) (request : PaymentRequest) (rest : Entropy) : Merchant :=
  { merchant.setSession request.session (releasedSession request rest) with
    liveNonces := merchant.liveNonces.insert request.nonce request.session }

/-- A payment that is not refused at its beginning comes to the point where its masks are released. -/
theorem masked_of_unused (unused : merchant.checkPayment request = .ok ()) (rest : Entropy)
    : ∃ opened handed,
      (merchant.preparePayment request).outcome rest
        = .ok (⟨request.session, .commit (drawnOpening rest).mask (drawnOpening rest).randomness⟩,
          opened)
      ∧ opened.maskingInput request.session
        = .ok (merchant.inputOf request.session (begunSession request rest), handed)
      ∧ handed.confirmMasking request.session true
        = (.ok ⟨request.session, drawnMasks rest⟩, merchant.masked request rest) := by
  refine ⟨_, _, preparePayment_eq_ok.2 ⟨unused, rfl, rfl⟩,
    maskingInput_eq_ok.2 ⟨_, Dict.get?_insert_self _ _ _, rfl, rfl, rfl⟩,
    confirmMasking_eq_ok.2 ⟨_, Dict.get?_insert_self _ _ _, rfl, rfl, rfl, ?_⟩⟩
  simp only [masked, releasedSession, setSession, Dict.insert_insert]

/-- Of a payment that is over only the record of its nonce is left. -/
theorem closeSession_masked (unused : merchant.checkPayment request = .ok ()) (rest : Entropy)
    (record : SpentNonce)
    : ((merchant.masked request rest).spend request.nonce record).closeSession request.session
      = merchant.spend request.nonce record := by
  obtain ⟨-, unlived, free⟩ := free_of_checkPayment unused
  have stays : ((merchant.masked request rest).spend request.nonce record).sessions.get?
      request.session = some (releasedSession request rest) :=
    Dict.get?_insert_self _ _ _
  rw [closeSession_of_get? stays]
  simp only [masked, spend, setSession, releasedSession, begunSession, Dict.erase_insert free,
    Dict.erase_insert unlived]

/-- A right revocation ends the payment, of which only the nonce is left. -/
theorem validateRevoked_masked (unused : merchant.checkPayment request = .ok ())
    {revoked : RevokedState} {ledger recorded : Ledger} {rest : Entropy}
    (right : RightRevocation (releasedSession request rest) revoked)
    (written : ledger.put revoked.lock revoked.secret = .ok recorded)
    : (merchant.masked request rest).validateRevoked ledger request.session revoked
      = (.ok (drawnOpening rest),
        merchant.spend request.nonce
          ⟨request.session, some (revoked.lock, revoked.secret), drawnOpening rest⟩, recorded) := by
  have found : (merchant.masked request rest).sessions.get? request.session
      = some (releasedSession request rest) :=
    Dict.get?_insert_self _ _ _
  have closes := closeSession_masked unused rest
    ⟨request.session, some (revoked.lock, revoked.secret), drawnOpening rest⟩
  exact validateRevoked_eq_ok.2 (.inr ⟨_, found, rfl, right, written, rfl, closes.symm⟩)

end Merchant

-----------------------------------------------------------------------------------------
-- The payment
-----------------------------------------------------------------------------------------

namespace Concord

open Customer Merchant

variable {customer : Customer} {channel : FundedChannel} {merchant : Merchant} {amount : Balance}
  {justification : Option String} {source : Entropy} {new : ChannelState}

section Customer

variable {rest : Entropy} {signatures : CloseSignatures}

/-- The customer when its signatures are accepted. -/
def signed (customer : Customer) (channel : FundedChannel) (merchant : Merchant) (amount : Balance)
    (new : ChannelState) (signatures : CloseSignatures) (source rest : Entropy)
    : Customer :=
  { customer with
    pending := some { round channel amount new source rest with
      unmasked := some
        (signatures, .mask (.compute merchant.hmacKey new) (drawnOpening rest).mask) } }

/-- What the customer reveals of its old state. -/
def revocation (customer : Customer) (channel : FundedChannel) (source : Entropy) : RevokedState where
  nonce := channel.state.nonce
  commitment := .commit channel.state.lock (drawnBlinding source)
  lock := channel.state.lock
  secret := customer.secret
  blinding := drawnBlinding source

/-- The customer when it has moved to the new state. -/
def moved (customer : Customer) (channel : FundedChannel) (merchant : Merchant) (amount : Balance)
    (new : ChannelState) (signatures : CloseSignatures) (source rest : Entropy)
    : Customer :=
  { customer with
    channel := some { channel with state := new, signatures := some signatures }
    secret := drawnSecret source
    payToken := none
    pending := some { round channel amount new source rest with
      unmasked := some
        (signatures, .mask (.compute merchant.hmacKey new) (drawnOpening rest).mask)
      revoked := some (revocation customer channel source) } }

/-- The customer after a payment. -/
def paid (customer : Customer) (channel : FundedChannel) (merchant : Merchant) (new : ChannelState)
    (signatures : CloseSignatures) (source : Entropy)
    : Customer :=
  { customer with
    channel := some { channel with state := new, signatures := some signatures }
    secret := drawnSecret source
    payToken := some (.compute merchant.hmacKey new)
    pending := none }

/-- The customer begins the payment. -/
theorem preparePayment_eq (concord : Concord customer channel merchant)
    (justification : Option String)
    (checked : customer.checkAmount channel.state amount = .ok ())
    (pays : (channel.state.pay amount (drawnSecret source).lock
      : Outcome ChannelError ChannelState) = .ok new)
    (fresh : new.nonce ≠ channel.state.nonce)
    : (customer.preparePayment amount justification).outcome source
      = .ok (request channel amount justification source,
        { customer with pending := some (begunRound channel amount new source) }) := by
  have allowed : customer.checkPayment amount = .ok channel.state :=
    checkPayment_eq_ok.2 ⟨concord.ready, concord.trusted, concord.idle, by simp [concord.payToken],
      channel, concord.found, checked, rfl⟩
  exact preparePayment_eq_ok.2 ⟨_, allowed, new, pays, fresh, rfl, rfl⟩

/-- The customer gives its input for the service. -/
theorem maskingInput_eq (concord : Concord customer channel merchant) (amount : Balance)
    (new : ChannelState) (source rest : Entropy)
    : maskingInput { customer with pending := some (begunRound channel amount new source) }
        ⟨drawnSession source, .commit (drawnOpening rest).mask (drawnOpening rest).randomness⟩
      = .ok (customerInput customer channel merchant amount new source rest,
        { customer with pending := some (round channel amount new source rest) }) :=
  maskingInput_eq_ok.2 ⟨concord.ready, _, concord.payToken, channel, concord.found, _, rfl, rfl, rfl,
    rfl, rfl⟩

/-- The customer accepts the signatures of the merchant. -/
theorem acceptSignatures_eq (concord : Concord customer channel merchant) (amount : Balance)
    (new : ChannelState) (source rest : Entropy)
    (signs : ∀ source, ∃ close,
      channel.token.customerCloseTx source new customer.closeKey merchant.params = .ok close
      ∧ signatures.of source = close.sign merchant.escrowSecret)
    : acceptSignatures { customer with pending := some (round channel amount new source rest) }
        ⟨.mask signatures.escrow (drawnMasks rest).escrow,
          .mask signatures.merchantClose (drawnMasks rest).merchantClose,
          .mask (.compute merchant.hmacKey new) (drawnOpening rest).mask⟩
        ⟨drawnSession source, drawnMasks rest⟩
      = (.ok (), signed customer channel merchant amount new signatures source rest) := by
  have awaiting : roundAwaitingSignatures
      { customer with pending := some (round channel amount new source rest) }
      ⟨drawnSession source, drawnMasks rest⟩
      = .ok (channel, round channel amount new source rest) :=
    roundAwaitingSignatures_eq_ok.2 ⟨concord.ready, concord.found, rfl, rfl, nofun, rfl⟩
  refine acceptSignatures_of awaiting (unmaskSignatures_mask signatures _ _) ?_
  refine verifySignatures_eq_ok.2 fun source => ?_
  obtain ⟨close, formed, signature⟩ := signs source
  obtain ⟨merchantKey, -, -⟩ := ChannelToken.checkMerchant_eq_ok.1 concord.issuer
  rw [← concord.params] at formed
  refine ⟨close, formed, ?_⟩
  rw [signature, merchantKey, ← concord.signer]
  exact close.verifies_sign merchant.escrowSecret

/-- The customer moves to the new state. -/
theorem revoke_eq (concord : Concord customer channel merchant) (amount : Balance)
    (new : ChannelState) (signatures : CloseSignatures) (source rest : Entropy)
    : (signed customer channel merchant amount new signatures source rest).revoke
      = .ok (revocation customer channel source,
        moved customer channel merchant amount new signatures source rest) :=
  revoke_eq_ok.2 ⟨concord.ready, _, rfl, .inr ⟨rfl, _, _, rfl, channel, concord.found, rfl, rfl⟩⟩

/-- The customer takes its new pay token. -/
theorem acceptToken_eq (concord : Concord customer channel merchant) (amount : Balance)
    (new : ChannelState) (signatures : CloseSignatures) (source rest : Entropy)
    : (moved customer channel merchant amount new signatures source rest).acceptToken
        (drawnOpening rest)
      = (.ok (.compute merchant.hmacKey new),
        paid customer channel merchant new signatures source) := by
  have awaited : (moved customer channel merchant amount new signatures source rest).awaitedToken
      = .ok (.commit (drawnOpening rest).mask (drawnOpening rest).randomness,
        .mask (.compute merchant.hmacKey new) (drawnOpening rest).mask) :=
    awaitedToken_eq_ok.2 ⟨concord.ready, _, rfl, _, _, rfl, rfl, rfl⟩
  refine acceptToken_eq_ok.2 ⟨_, _, awaited, PayMaskOpening.opens_eq_true.2 rfl, ?_, rfl⟩
  rw [MaskedPayToken.unmask_mask]

end Customer

/-- What a payment to a new state needs, beside the agreement of the parties. -/
structure Payable (customer : Customer) (channel : FundedChannel) (merchant : Merchant)
    (ledger : Ledger) (amount : Balance) (justification : Option String) (source : Entropy)
    (new : ChannelState) (recorded : Ledger)
    : Prop where
  checked : customer.checkAmount channel.state amount = .ok ()
  pays : (channel.state.pay amount (drawnSecret source).lock : Outcome ChannelError ChannelState)
    = .ok new
  fresh : new.nonce ≠ channel.state.nonce
  unused : merchant.checkPayment (request channel amount justification source) = .ok ()
  closes : ∀ source, ∃ close,
    channel.token.customerCloseTx source new customer.closeKey merchant.params = .ok close
  written : ledger.put channel.state.lock customer.secret = .ok recorded

/-- Parties that agree bring a payment to its end, call by call. -/
theorem completes (concord : Concord customer channel merchant) {ledger recorded : Ledger}
    (payable : Payable customer channel merchant ledger amount justification source new recorded)
    (timeout : Nat)
    : ∃ signatures opening,
      let after := paid customer channel merchant new signatures source
      let spent := merchant.spend channel.state.nonce
        ⟨drawnSession source, some (channel.state.lock, customer.secret), opening⟩
      (Parties.pay ⟨customer, merchant, ledger⟩ (.direct timeout) amount justification source).1
          = (.ok (Parties.receipt after (drawnSession source)), ⟨after, spent, recorded⟩)
        ∧ (∃ later, customer.Run later after)
        ∧ ∃ later, Shop.Run ⟨merchant, ledger⟩ later ⟨spent, recorded⟩ := by
  obtain ⟨checked, pays, fresh, unused, closes, written⟩ := payable
  -- The merchant draws from what the customer left over, whatever that is.
  generalize rested : (customer.preparePayment amount justification).rest source = rest
  -- One equation for each call of the payment, in the order of the calls.
  have prepares := concord.preparePayment_eq justification checked pays fresh
  obtain ⟨opened, handed, opens, hands, confirms⟩ := masked_of_unused unused rest
  have gives := concord.maskingInput_eq amount new source rest
  obtain ⟨signatures, computed, signs⟩ :=
    MaskingRequest.compute_of_accepted (concord.accepted checked pays justification rest) closes
  have accepts := concord.acceptSignatures_eq amount new source rest signs
  have reveals := concord.revoke_eq amount new signatures source rest
  have right : RightRevocation
      (releasedSession (request channel amount justification source) rest)
      (revocation customer channel source) :=
    ⟨rfl, rfl, RevokedState.verify_eq_true.2 ⟨concord.lock.symm, rfl⟩⟩
  have releases := validateRevoked_masked unused right written
  have takes := concord.acceptToken_eq amount new signatures source rest
  refine ⟨signatures, drawnOpening rest, ?_, ?_, ?_⟩
  · have masks : Parties.mask ⟨_, merchant, ledger⟩ (.direct timeout)
        (request channel amount justification source) rest = _ :=
      Parties.mask_of opens gives hands (ServiceClient.call_direct timeout computed) confirms
    subst rested
    have goes : (Parties.pay ⟨customer, merchant, ledger⟩ (.direct timeout) amount justification
        source).1 = Parties.settle _ (request channel amount justification source).session :=
      Parties.pay_of prepares masks accepts
    exact goes.trans (Parties.settle_of reveals releases takes)
  · have begun := Customer.Run.start.kept (.preparePayment amount justification source) rfl prepares
    have given := begun.kept (.maskingInput _) rfl gives
    have signed := given.answered (.acceptSignatures _ _) accepts
    have revealed := signed.kept .revoke rfl reveals
    exact ⟨_, revealed.answered (.acceptToken _) takes⟩
  · have still : Shop.Run ⟨merchant, ledger⟩ [] ⟨merchant, ledger⟩ := .start
    have begun := still.kept (.preparePayment (request channel amount justification source) rest)
      rfl opens
    have handed := begun.kept (.maskingInput _) rfl hands
    have released := handed.answered (.confirmMasking _ true) (by rw [Shop.serve, confirms]; rfl)
    exact ⟨_, released.answered (.validateRevoked _ _) (by rw [Shop.serve, releases]; rfl)⟩

/-- After a payment the parties agree on the new state, so they can make the next payment. -/
theorem paid_agrees (concord : Concord customer channel merchant)
    (pays : (channel.state.pay amount (drawnSecret source).lock
      : Outcome ChannelError ChannelState) = .ok new)
    (signatures : CloseSignatures) (nonce : Nonce) (record : SpentNonce)
    : Concord (paid customer channel merchant new signatures source)
        { channel with state := new, signatures := some signatures }
        (merchant.spend nonce record) where
  ready := concord.ready
  idle := rfl
  trusted := concord.trusted
  found := rfl
  payToken := rfl
  params := concord.params
  issuer := concord.issuer
  signer := concord.signer
  fits := ChannelToken.checkState_pay concord.fits pays
  lock := by
    obtain ⟨_, -, _, -, rfl⟩ := ChannelState.pay_eq_ok.1 pays
    rfl

end Concord

open Customer Merchant

/-- What a payment in a channel that went through leaves of the parties. -/
structure Parties.Settled (before : Parties) (channel : FundedChannel) (amount : Balance)
    (receipt : Receipt) (after : Parties)
    : Prop where
  nonce : receipt.nonce = channel.state.nonce.next
  customerBalance : receipt.customerBalance.toInt
    = channel.state.customerBalance.toInt - amount.toInt
  merchantBalance : receipt.merchantBalance.toInt
    = channel.state.merchantBalance.toInt + amount.toInt
  /-- The parties agree on the state of the receipt, and are ready for the next payment. -/
  agrees : ∃ funded, Concord after.customer funded after.merchant ∧ funded.token = channel.token
    ∧ after.customer.nonce = receipt.nonce
    ∧ after.customer.balance = receipt.customerBalance
    ∧ after.customer.merchantBalance = receipt.merchantBalance
  revoked : after.merchant.nonceStatus channel.state.nonce = some .revoked
  /-- The old secret is read for the old lock, whenever the ledger can be read. -/
  recorded : after.ledger.Keeps channel.state.lock before.customer.secret
  sessions : after.merchant.sessions = before.merchant.sessions
  liveNonces : after.merchant.liveNonces = before.merchant.liveNonces

/-- The payment that parties which agree have completed has settled. -/
theorem Concord.settled {customer : Customer} {channel : FundedChannel} {merchant : Merchant}
    {amount : Balance} {source : Entropy} {new : ChannelState} {ledger recorded : Ledger}
    (concord : Concord customer channel merchant)
    (pays : (channel.state.pay amount (drawnSecret source).lock
      : Outcome ChannelError ChannelState) = .ok new)
    (written : ledger.put channel.state.lock customer.secret = .ok recorded)
    (signatures : CloseSignatures) (opening : PayMaskOpening)
    : Parties.Settled ⟨customer, merchant, ledger⟩ channel amount
        (Parties.receipt (paid customer channel merchant new signatures source)
          (drawnSession source))
        ⟨paid customer channel merchant new signatures source,
          merchant.spend channel.state.nonce
            ⟨drawnSession source, some (channel.state.lock, customer.secret), opening⟩,
          recorded⟩ := by
  have agrees := concord.paid_agrees pays signatures
  obtain ⟨_, subtracted, _, added, rfl⟩ := ChannelState.pay_eq_ok.1 pays
  exact {
    nonce := rfl
    customerBalance := Balance.sub_eq_ok.1 subtracted
    merchantBalance := Balance.add_eq_ok.1 added
    agrees := ⟨_, agrees _ _, rfl, rfl, rfl, rfl⟩
    revoked := by simp [nonceStatus]
    recorded := Ledger.keeps_put written concord.lock.symm
    sessions := rfl
    liveNonces := rfl }

/-- Payments of some amounts, made one after another, each of which can be made. -/
inductive Parties.Payments (timeout : Nat) : Parties → List Balance → Parties → Prop
  | done (parties : Parties) : Payments timeout parties [] parties
  | next {parties final : Parties} {channel : FundedChannel} {amount : Balance}
    {amounts : List Balance} {justification : Option String} {source : Entropy}
    {new : ChannelState} {recorded : Ledger} (found : parties.customer.channel = some channel)
    (payable : Concord.Payable parties.customer channel parties.merchant parties.ledger amount
      justification source new recorded)
    (rest : Payments timeout (parties.pay (.direct timeout) amount justification source).1.2 amounts
      final)
    : Payments timeout parties (amount :: amounts) final

/-- However many payments parties make that agree, they agree in the end, and the amounts have moved
from one balance to the other, by induction on the payments.
-/
theorem Concord.payments {timeout : Nat} {parties final : Parties} {channel : FundedChannel}
    {amounts : List Balance} (concord : Concord parties.customer channel parties.merchant)
    (payments : parties.Payments timeout amounts final)
    : ∃ funded, Concord final.customer funded final.merchant ∧ funded.token = channel.token
      ∧ funded.state.customerBalance.toInt
        = channel.state.customerBalance.toInt - (amounts.map (·.toInt)).sum
      ∧ funded.state.merchantBalance.toInt
        = channel.state.merchantBalance.toInt + (amounts.map (·.toInt)).sum
      ∧ final.merchant.sessions = parties.merchant.sessions := by
  induction payments generalizing channel with
  | done => exact ⟨channel, concord, rfl, by simp, by simp, rfl⟩
  | @next parties _ known amount amounts _ source new _ found payable _ ih =>
      cases concord.found.symm.trans found
      obtain ⟨signatures, opening, completed, -⟩ := concord.completes payable timeout
      have settled := concord.settled payable.pays payable.written signatures opening
      have less : new.customerBalance.toInt = known.state.customerBalance.toInt - amount.toInt :=
        settled.customerBalance
      have more : new.merchantBalance.toInt = known.state.merchantBalance.toInt + amount.toInt :=
        settled.merchantBalance
      rw [completed] at ih
      obtain ⟨funded, agrees, token, customerBalance, merchantBalance, sessions⟩ :=
        ih (concord.paid_agrees payable.pays signatures _ _)
      refine ⟨funded, agrees, token, customerBalance.trans ?_, merchantBalance.trans ?_, sessions⟩
      · simp only [less, List.map_cons, List.sum_cons, Int.sub_sub]
      · simp only [more, List.map_cons, List.sum_cons, Int.add_assoc]

/-- A payment with the service that computes in the open goes through. The customer has the pay
token of its state in a channel with the merchant, and the merchant has not seen the nonce of this
state. The customer begins the payment, the merchant accepts its amount under a session that is not
under way, the new state can be closed from both sources and the old secret recorded. Both parties
come out as parties that have run, ready for the next payment.
-/
theorem payment_completes {start customer : Customer} {history : List CustomerExchange}
    (starts : start.Starts) (run : start.Run history customer)
    {params : ChannelParams} {policy : RefundPolicy} {seed : Entropy} {opened shop : Shop}
    {served : List MerchantExchange} (opens : opened.Opens params policy seed)
    (serves : opened.Run served shop)
    {channel : FundedChannel} (found : customer.channel = some channel)
    (same : customer.params = shop.merchant.params)
    (issuer : channel.token.checkMerchant shop.merchant.keys = .ok ())
    (payToken : customer.payToken = some (.compute shop.merchant.hmacKey channel.state))
    (unlived : shop.merchant.liveNonces.get? channel.state.nonce = none)
    (unspent : shop.merchant.spentNonces.get? channel.state.nonce = none)
    {amount : Balance} {justification : Option String} {source : Entropy}
    {request : PaymentRequest} {begun : Customer} {pending : PendingRound}
    (begins : (customer.preparePayment amount justification).outcome source = .ok (request, begun))
    (round : begun.pending = some pending)
    (accepts : shop.merchant.accepts amount justification = true)
    (free : shop.merchant.sessions.get? request.session = none)
    (closes : ∀ source, ∃ close, channel.token.customerCloseTx source pending.new
      customer.closeKey customer.params = .ok close)
    {recorded : Ledger}
    (written : shop.ledger.put channel.state.lock customer.secret = .ok recorded) (timeout : Nat)
    : ∃ receipt after,
        (Parties.pay ⟨customer, shop.merchant, shop.ledger⟩ (.direct timeout) amount justification
          source).1 = (.ok receipt, after)
        ∧ receipt.session = request.session
        ∧ Parties.Settled ⟨customer, shop.merchant, shop.ledger⟩ channel amount receipt after
        ∧ (∃ later, start.Run (later ++ history) after.customer)
        ∧ ∃ later, opened.Run (later ++ served) ⟨after.merchant, after.ledger⟩ := by
  obtain ⟨_, allowed, new, pays, fresh, rfl, rfl⟩ := preparePayment_eq_ok.1 begins
  cases round
  obtain ⟨ready, trusted, idle, -, known, current, checked, rfl⟩ := checkPayment_eq_ok.1 allowed
  cases found.symm.trans current
  have concord : Concord customer channel shop.merchant := {
    ready, idle, trusted, found, payToken, params := same, issuer
    signer := (KeysFit.run opens serves).escrow
    fits := (StatesFit.run starts run).current channel found
    lock := (LocksFit.run starts run).lock channel.state (by simp [state, found]) }
  have unused : shop.merchant.checkPayment
      (Concord.request channel amount justification source) = .ok () :=
    checkPayment_eq_ok.2 ⟨⟨Dict.contains_eq_false_iff.2 unspent,
      Dict.contains_eq_false_iff.2 unlived⟩, Dict.contains_eq_false_iff.2 free, accepts⟩
  rw [same] at closes
  obtain ⟨signatures, opening, completed, ⟨later, goes⟩, ⟨handled, handles⟩⟩ :=
    concord.completes ⟨checked, pays, fresh, unused, closes, written⟩ timeout
  exact ⟨_, _, completed, rfl, concord.settled pays written signatures opening,
    ⟨later, run.trans goes⟩, ⟨handled, serves.trans handles⟩⟩

section Example

-- Unification would compute keys and hashes where comparing their arguments is enough.
attribute [local irreducible] SecretKey.publicKey SignableTx.txid SignableTx.sign
  SignableTx.verifies sha256 hmacSha256

/-- A first payment of 5 out of 10000. -/
theorem payment_completes_patron
    : ∃ history, patron.Run history readyPatron
      ∧ steadyShop.Opens .default .reject steadySource
      ∧ ∃ receipt after,
        (Parties.pay ⟨readyPatron, steadyShop.merchant, steadyShop.ledger⟩ (.direct 0) 5 none
          patronEntropy).1 = (.ok receipt, after)
        ∧ receipt.customerBalance.toInt = 9995
        ∧ receipt.merchantBalance.toInt = 10005
        ∧ after.merchant.nonceStatus patronChannel.state.nonce = some .revoked
        ∧ after.ledger.Keeps patronChannel.state.lock patron.secret := by
  obtain ⟨history, run, -⟩ := readyPatron_run
  have closes : ∀ source, ∃ close, patronToken.customerCloseTx source patronSecond
      readyPatron.closeKey .default = .ok close := by
    intro source
    cases source
    · exact ⟨patronClose patronSecond 7995 .escrow (20000, 10005), rfl⟩
    · exact ⟨patronClose patronSecond 7995 .merchantClose (18000, 8005), rfl⟩
  have written : ∃ recorded,
      steadyShop.ledger.put patronChannel.state.lock readyPatron.secret = .ok recorded :=
    ⟨_, rfl⟩
  obtain ⟨recorded, written⟩ := written
  have issuer : patronToken.checkMerchant steadyShop.merchant.keys = .ok () :=
    ChannelToken.checkMerchant_eq_ok.2 ⟨rfl, rfl, rfl⟩
  obtain ⟨receipt, after, completed, -, settled, -⟩ :=
    payment_completes patron_starts run steadyShop_opens .start rfl rfl issuer rfl rfl rfl
      preparePayment_readyPatron rfl rfl rfl closes written 0
  exact ⟨history, run, steadyShop_opens, receipt, after, completed, settled.customerBalance,
    settled.merchantBalance, settled.revoked, settled.recorded⟩

end Example

end PaymentChannel
