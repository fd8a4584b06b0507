import PaymentChannel.Proofs.Outcome
import PaymentChannel.Service

/-! What the masking service checked of the inputs that it accepts, and what it gives for them. -/

namespace PaymentChannel

@[simp] theorem PayMaskOpening.opens_eq_true {opening : PayMaskOpening} {commitment : PayMaskCom}
    : opening.opens commitment = true
      ↔ PayMaskCom.commit opening.mask opening.randomness = commitment := by
  simp [opens]

theorem ChannelToken.checkMerchant_eq_ok {token : ChannelToken} {keys : MerchantKeys}
    {answer : Unit}
    : token.checkMerchant keys = .ok answer
      ↔ token.merchantKey = keys.escrow ∧ token.payoutKey = keys.payout
        ∧ token.disputeKey = keys.dispute := by
  simp [checkMerchant]

/-- Everything that was compared with the token of a channel. -/
theorem ChannelToken.checkState_eq_ok {token : ChannelToken} {state : ChannelState} {answer : Unit}
    : token.checkState state = .ok answer
      ↔ state.customerKey = token.customerKey ∧ state.merchantKey = token.merchantKey
        ∧ (state.escrowTxid = token.escrowTxid ∧ state.escrowPrevout = token.escrowPrevout)
        ∧ state.merchantCloseTxid = token.merchantCloseTxid
        ∧ state.merchantClosePrevout = token.merchantClosePrevout := by
  simp [checkState]

/-- A state belongs to one channel of a merchant only. -/
theorem ChannelToken.eq_of_checks {token other : ChannelToken} {keys : MerchantKeys}
    {state : ChannelState} (merchant : token.checkMerchant keys = .ok ())
    (otherMerchant : other.checkMerchant keys = .ok ()) (fits : token.checkState state = .ok ())
    (otherFits : other.checkState state = .ok ())
    : token = other := by
  rw [checkMerchant_eq_ok] at merchant otherMerchant
  rw [checkState_eq_ok] at fits otherFits
  cases token
  cases other
  simp_all

namespace MaskingRequest

variable {request : MaskingRequest}

theorem accept_eq_ok {ε : Type} {check : Outcome ε Unit} {reason : String} {answer : Unit}
    : accept check reason = .ok answer ↔ check = .ok () := by
  simp [accept]

/-- What the old state, the new one and the inputs of both parties have to do with each other. -/
structure Accepted (request : MaskingRequest) : Prop where
  key : request.merchant.key.publicKey = request.merchant.keys.escrow
  merchant : request.customer.token.checkMerchant request.merchant.keys = .ok ()
  oldFits : request.customer.token.checkState request.customer.old = .ok ()
  newFits : request.customer.token.checkState request.customer.new = .ok ()
  payToken : PayToken.compute request.merchant.hmacKey request.customer.old
    = request.customer.payToken
  nonce : request.customer.old.nonce = request.merchant.nonce
  lock : request.merchant.commitment.opensWith request.customer.old.lock request.customer.blinding
    = true
  amount : request.customer.amount = request.merchant.amount
  next : request.customer.new.nonce = request.customer.old.nonce.next
  customerBalance : (request.customer.old.customerBalance.sub request.customer.amount
    : Outcome String Balance) = .ok request.customer.new.customerBalance
  merchantBalance : (request.customer.old.merchantBalance.add request.customer.amount
    : Outcome String Balance) = .ok request.customer.new.merchantBalance
  reserves : Balance.ofBits request.merchant.params.fees.customerReserve
      ≤ request.customer.new.customerBalance
    ∧ Balance.ofBits request.merchant.params.fees.merchantReserve
      ≤ request.customer.new.merchantBalance
  mask : request.merchant.opening.opens request.customer.commitment = true

/-- The inputs that pass all checks are the accepted ones. -/
theorem validate_eq_ok {answer : Unit} : request.validate = .ok answer ↔ request.Accepted := by
  simp only [validate, Outcome.bind_eq_ok, Outcome.ensure_eq_ok, accept_eq_ok,
    Outcome.exists_unit]
  constructor
  · intro passed
    obtain ⟨key, merchant, oldFits, newFits, payToken, nonce, lock, amount, next, _, paid, rfl, _,
      received, rfl, reserves, mask⟩ := passed
    exact ⟨key, merchant, oldFits, newFits, payToken, nonce, lock, amount, next, paid, received,
      reserves, mask⟩
  · intro accepted
    exact ⟨accepted.key, accepted.merchant, accepted.oldFits, accepted.newFits, accepted.payToken,
      accepted.nonce, accepted.lock, accepted.amount, accepted.next, _, accepted.customerBalance,
      rfl, _, accepted.merchantBalance, rfl, accepted.reserves, accepted.mask⟩

theorem maskedSignature_eq_ok {source : CloseSource} {masked : MaskedSignature}
    : request.maskedSignature source = .ok masked
      ↔ ∃ close, request.customer.token.customerCloseTx source request.customer.new
          request.customer.closeKey request.merchant.params = .ok close
        ∧ masked = .mask (close.sign request.merchant.key) (request.merchant.masks.of source) := by
  simp only [maskedSignature, Outcome.bind_eq_ok, Outcome.mapRefusal_eq_ok, Outcome.pure_eq_ok]

/-- The service computes for accepted inputs whose new state can be closed in both ways. -/
theorem compute_eq_ok {result : MaskingResult}
    : request.compute = .ok result
      ↔ request.Accepted
        ∧ ∃ escrow, request.maskedSignature .escrow = .ok escrow
        ∧ ∃ merchantClose, request.maskedSignature .merchantClose = .ok merchantClose
        ∧ result = ⟨⟨escrow, merchantClose, .mask (.compute request.merchant.hmacKey
          request.customer.new) request.merchant.opening.mask⟩, true⟩ := by
  simp only [compute, Outcome.mapRefusal_eq_ok, Outcome.bind_eq_ok, Outcome.exists_unit,
    Outcome.pure_eq_ok, validate_eq_ok]

/-- What the service gives for some signatures. -/
def resultOf (request : MaskingRequest) (signatures : CloseSignatures) : MaskingResult where
  customer := {
    escrow := .mask signatures.escrow request.merchant.masks.escrow
    merchantClose := .mask signatures.merchantClose request.merchant.masks.merchantClose
    payToken :=
      .mask (.compute request.merchant.hmacKey request.customer.new) request.merchant.opening.mask }
  confirmed := true

/-- The service computes for an accepted request whose new state can be closed from both sources, and
gives the signatures of these close transactions.
-/
theorem compute_of_accepted (accepted : request.Accepted)
    (closes : ∀ source, ∃ close, request.customer.token.customerCloseTx source request.customer.new
      request.customer.closeKey request.merchant.params = .ok close)
    : ∃ signatures, request.compute = .ok (request.resultOf signatures)
      ∧ ∀ source, ∃ close, request.customer.token.customerCloseTx source request.customer.new
          request.customer.closeKey request.merchant.params = .ok close
        ∧ signatures.of source = close.sign request.merchant.key := by
  have signs : ∀ source, ∃ signature,
      request.maskedSignature source = .ok (.mask signature (request.merchant.masks.of source))
      ∧ ∃ close, request.customer.token.customerCloseTx source request.customer.new
          request.customer.closeKey request.merchant.params = .ok close
        ∧ signature = close.sign request.merchant.key := by
    intro source
    obtain ⟨close, formed⟩ := closes source
    exact ⟨_, maskedSignature_eq_ok.2 ⟨close, formed, rfl⟩, close, formed, rfl⟩
  obtain ⟨escrow, escrowMasked, fromEscrow⟩ := signs .escrow
  obtain ⟨merchantClose, closeMasked, fromMerchantClose⟩ := signs .merchantClose
  refine ⟨⟨escrow, merchantClose⟩,
    compute_eq_ok.2 ⟨accepted, _, escrowMasked, _, closeMasked, rfl⟩, ?_⟩
  intro source
  cases source
  · exact fromEscrow
  · exact fromMerchantClose

/-- An accepted payment stays in its channel. -/
theorem Accepted.escrowTxid (accepted : request.Accepted)
    : request.customer.new.escrowTxid = request.customer.old.escrowTxid := by
  have old := ChannelToken.checkState_eq_ok.1 accepted.oldFits
  have new := ChannelToken.checkState_eq_ok.1 accepted.newFits
  rw [new.2.2.1.1, old.2.2.1.1]

end MaskingRequest

/-- The service that computes in the open answers what it computes. -/
theorem ServiceClient.call_direct (timeout : Nat) {request : MaskingRequest}
    {result : MaskingResult} (computed : request.compute = .ok result)
    : (direct timeout).call request = .ok result := by
  simp only [call, direct, computed, ServiceCall.ofOutcome]

end PaymentChannel
