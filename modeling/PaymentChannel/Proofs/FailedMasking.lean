import PaymentChannel.Proofs.Customer.RevokedLocks
import PaymentChannel.Proofs.Merchant.NonceReuse
import PaymentChannel.Proofs.Round

/-! A payment whose masking fails leaves no trace.
By the time the service is asked both parties have changed: the customer keeps a payment, the
merchant a session and its nonce. Dropping the payment takes both back to where they were, so the
same nonce can be used again.
-/

namespace PaymentChannel

-----------------------------------------------------------------------------------------
-- Taking back a payment
-----------------------------------------------------------------------------------------

namespace Customer

/-- A customer that was idle has begun a payment, and has not revoked its state. -/
structure Begun (before after : Customer) : Prop where
  idle : before.pending = none
  round : ∃ pending, pending.revoked = none ∧ after = { before with pending := some pending }

variable {before prepared after : Customer}

theorem Begun.of_preparePayment {amount : Balance} {justification : Option String}
    {source : Entropy} {request : PaymentRequest}
    (begins : (before.preparePayment amount justification).outcome source = .ok (request, after))
    : before.Begun after := by
  obtain ⟨_, allowed, _, -, -, -, rfl⟩ := preparePayment_eq_ok.1 begins
  obtain ⟨-, -, idle, -⟩ := checkPayment_eq_ok.1 allowed
  exact ⟨idle, _, rfl, rfl⟩

/-- A payment is requested under the drawn session. -/
theorem session_of_preparePayment {amount : Balance} {justification : Option String}
    {source : Entropy} {request : PaymentRequest}
    (begins : (before.preparePayment amount justification).outcome source = .ok (request, after))
    : request.session = drawnSession source := by
  obtain ⟨_, -, _, -, -, rfl, -⟩ := preparePayment_eq_ok.1 begins
  rfl

/-- Giving an input for the service changes nothing but the payment. -/
theorem Begun.maskingInput (begun : before.Begun prepared) {response : PaymentResponse}
    {input : CustomerInput} (gives : prepared.maskingInput response = .ok (input, after))
    : before.Begun after := by
  obtain ⟨idle, pending, unrevoked, rfl⟩ := begun
  obtain ⟨-, _, -, _, -, _, found, -, -, -, rfl⟩ := maskingInput_eq_ok.1 gives
  cases found
  exact ⟨idle, { pending with maskCommitment := some response.commitment }, unrevoked, rfl⟩

/-- A payment that has begun can be taken back. -/
theorem Begun.abort (begun : before.Begun after) : after.abort = .ok ((), before) := by
  obtain ⟨idle, pending, unrevoked, rfl⟩ := begun
  refine abort_eq_ok.2 ⟨pending, rfl, unrevoked, ?_⟩
  rw [← idle]

end Customer

namespace Merchant

/-- The merchant with one more session. -/
def withSession (merchant : Merchant) (id : SessionId) (session : Session) : Merchant :=
  { merchant.setSession id session with
    liveNonces := merchant.liveNonces.insert session.nonce id }

variable {merchant opened handed : Merchant} {request : PaymentRequest} {id : SessionId}
  {session : Session} {source : Entropy}

/-- A session that was not there before can be taken back. -/
theorem closeSession_withSession (free : merchant.sessions.get? id = none)
    (unlived : merchant.liveNonces.get? session.nonce = none)
    : (merchant.withSession id session).closeSession id = merchant := by
  have found : (merchant.withSession id session).sessions.get? id = some session :=
    Dict.get?_insert_self _ _ _
  rw [closeSession_of_get? found]
  simp only [withSession, setSession, Dict.erase_insert free, Dict.erase_insert unlived]

/-- When the input for the service is given out the session waits for its result. -/
theorem maskingInput_withSession {input : MerchantInput}
    (hands : (merchant.withSession id session).maskingInput id = .ok (input, handed))
    : handed = merchant.withSession id { session with status := .updating } := by
  obtain ⟨known, found, -, -, rfl⟩ := maskingInput_eq_ok.1 hands
  cases (Dict.get?_insert_self _ _ _).symm.trans found
  simp only [withSession, setSession, Dict.insert_insert]

/-- The merchant whose input the service has is the one from before with a session that waits for
its result.
-/
theorem updating_of_maskingInput {response : PaymentResponse} {input : MerchantInput}
    (opens : (merchant.preparePayment request).outcome source = .ok (response, opened))
    (hands : opened.maskingInput request.session = .ok (input, handed))
    : ∃ session, handed.sessions.get? request.session = some session
      ∧ session.status = .updating
      ∧ handed.closeSession request.session = merchant := by
  obtain ⟨checked, -, rfl⟩ := preparePayment_eq_ok.1 opens
  obtain ⟨-, unlived, free⟩ := free_of_checkPayment checked
  have handed_eq : handed = merchant.withSession request.session
      { begunSession request source with status := .updating } := maskingInput_withSession hands
  rw [handed_eq]
  exact ⟨_, Dict.get?_insert_self _ _ _, rfl, closeSession_withSession free unlived⟩

/-- A payment that is not begun is refused. -/
theorem preparePayment_error {failure : Failure ChannelError}
    (refused : (merchant.preparePayment request).outcome source = .error failure)
    : ∃ reason, failure = .refused reason := by
  simp only [preparePayment, Draw.outcome_bind, Draw.outcome_of, Draw.outcome_bytes,
    Draw.outcome_pure, Outcome.ok_bind] at refused
  have unchecked : merchant.checkPayment request = .error failure := by
    rcases Outcome.bind_eq_error.1 refused with unchecked | ⟨_, -, ends⟩
    · exact unchecked
    · cases ends
  simp only [checkPayment, Outcome.bind_eq_error, Outcome.ensure_eq_error] at unchecked
  rcases unchecked with ⟨-, rfl⟩ | ⟨_, -, ⟨-, rfl⟩ | ⟨_, -, -, rfl⟩⟩
  · exact ⟨_, rfl⟩
  · exact ⟨_, rfl⟩
  · exact ⟨_, rfl⟩

/-- A session that is not known is not dropped. -/
theorem failSession_unknown (unknown : merchant.sessions.get? id = none)
    : merchant.failSession id = .refuse (.unknownSession id) := by
  simp only [failSession, Merchant.session, unknown]
  rfl

/-- A masking that is not confirmed takes its session back. -/
theorem confirmMasking_false (found : merchant.sessions.get? id = some session)
    (updating : session.status = .updating)
    : merchant.confirmMasking id false
      = (.refuse (.service (.rejected "masking result is not confirmed")),
        merchant.closeSession id) := by
  simp [confirmMasking, Merchant.session, found, updating, Outcome.require]

end Merchant

-----------------------------------------------------------------------------------------
-- Failures of the masking
-----------------------------------------------------------------------------------------

namespace Parties

/-- Both parties begin a payment and give the service their inputs. -/
inductive Asks (parties : Parties) (amount : Balance) (justification : Option String)
    (source : Entropy) : MaskingRequest → Prop
  | inputs {request : PaymentRequest} {prepared committed : Customer} {response : PaymentResponse}
    {opened handed : Merchant} {customerInput : CustomerInput} {merchantInput : MerchantInput}
    (begins : (parties.customer.preparePayment amount justification).outcome source
      = .ok (request, prepared))
    (opens : (parties.merchant.preparePayment request).outcome
        ((parties.customer.preparePayment amount justification).rest source)
      = .ok (response, opened))
    (gives : prepared.maskingInput response = .ok (customerInput, committed))
    (hands : opened.maskingInput request.session = .ok (merchantInput, handed))
    : Asks parties amount justification source ⟨customerInput, merchantInput⟩

/-- The ways in which the masking of a payment fails, each with the failure that is reported: the
customer or the merchant does not begin the payment, the service gives no result, or the result does
not confirm the masking.
-/
inductive MaskingFails (parties : Parties) (client : ServiceClient) (amount : Balance)
    (justification : Option String) (source : Entropy) : Failure ChannelError → Prop
  | unprepared {failure : Failure ChannelError}
    (refused : (parties.customer.preparePayment amount justification).outcome source
      = .error failure)
    : MaskingFails parties client amount justification source failure
  | unopened {request : PaymentRequest} {prepared : Customer} {failure : Failure ChannelError}
    (begins : (parties.customer.preparePayment amount justification).outcome source
      = .ok (request, prepared))
    (refused : (parties.merchant.preparePayment request).outcome
        ((parties.customer.preparePayment amount justification).rest source)
      = .error failure)
    : MaskingFails parties client amount justification source failure
  | unserved {input : MaskingRequest} {reason : ServiceError}
    (asks : parties.Asks amount justification source input)
    (failed : client.call input = .error reason)
    : MaskingFails parties client amount justification source (.refused (.service reason))
  | unconfirmed {input : MaskingRequest} {result : MaskingResult}
    (asks : parties.Asks amount justification source input)
    (served : client.call input = .ok result) (unconfirmed : result.confirmed = false)
    : MaskingFails parties client amount justification source
        (.refused (.service (.rejected "masking result is not confirmed")))

variable {parties : Parties} {client : ServiceClient} {amount : Balance}
  {justification : Option String} {source : Entropy} {before : Customer} {merchant : Merchant}
  {session : SessionId} {request : PaymentRequest} {reason : ChannelError}

/-- The masking step when the merchant refuses the payment. -/
theorem mask_of_unopened {failure : Failure ChannelError}
    (refused : (parties.merchant.preparePayment request).outcome source = .error failure)
    : parties.mask client request source
      = (.error failure, parties, (parties.merchant.preparePayment request).rest source) := by
  unfold mask
  simp only [Draw.eq_outcome refused]

section Asked

variable {response : PaymentResponse} {opened handed : Merchant} {committed : Customer}
  {customerInput : CustomerInput} {merchantInput : MerchantInput}

/-- The masking step when the service gives no result. -/
theorem mask_of_unserved {failed : ServiceError}
    (opens : (parties.merchant.preparePayment request).outcome source = .ok (response, opened))
    (gives : parties.customer.maskingInput response = .ok (customerInput, committed))
    (hands : opened.maskingInput request.session = .ok (merchantInput, handed))
    (unserved : client.call ⟨customerInput, merchantInput⟩ = .error failed)
    : parties.mask client request source
      = (.refuse (.service failed), ⟨committed, handed, parties.ledger⟩,
        (parties.merchant.preparePayment request).rest source) := by
  unfold mask
  simp only [Draw.eq_outcome opens, gives, hands, unserved]

/-- The masking step when the merchant refuses the result. -/
theorem mask_of_unconfirmed {result : MaskingResult} {failure : Failure ChannelError}
    (opens : (parties.merchant.preparePayment request).outcome source = .ok (response, opened))
    (gives : parties.customer.maskingInput response = .ok (customerInput, committed))
    (hands : opened.maskingInput request.session = .ok (merchantInput, handed))
    (served : client.call ⟨customerInput, merchantInput⟩ = .ok result)
    (refused : handed.confirmMasking request.session result.confirmed = (.error failure, merchant))
    : parties.mask client request source
      = (.error failure, ⟨committed, merchant, parties.ledger⟩,
        (parties.merchant.preparePayment request).rest source) := by
  unfold mask
  simp only [Draw.eq_outcome opens, gives, hands, served, refused]
  rfl

end Asked

/-- What is left of a payment that is dropped: the customer from before, and the merchant without
the session if it still had it.
-/
theorem dropRound_of (begun : before.Begun parties.customer)
    (drops : (afterwards parties.merchant (parties.merchant.failSession session)).2 = merchant)
    : parties.dropRound session reason = (.refuse reason, ⟨before, merchant, parties.ledger⟩) := by
  unfold dropRound
  simp only [begun.abort, drops]

/-- A payment is dropped when its masking is refused. -/
theorem pay_of_refused {masked : Parties} {rest : Entropy} {prepared : Customer}
    (begins : (parties.customer.preparePayment amount justification).outcome source
      = .ok (request, prepared))
    (masks : Parties.mask { parties with customer := prepared } client request
        ((parties.customer.preparePayment amount justification).rest source)
      = (.refuse reason, masked, rest))
    : (parties.pay client amount justification source).1
      = masked.dropRound request.session reason := by
  unfold pay
  simp only [Draw.eq_outcome begins, masks, Outcome.refuse]

/-- A payment whose masking fails is refused for the reason of the failure, and leaves customer,
merchant and ledger as they were, provided that the drawn session was not under way. Every further
payment, also one with the same nonce, goes as if the failed one had never been tried.
-/
theorem failed_masking_leaves_no_trace {failure : Failure ChannelError}
    (fails : parties.MaskingFails client amount justification source failure)
    (free : parties.merchant.sessions.get? (Customer.drawnSession source) = none)
    : (parties.pay client amount justification source).1 = (.error failure, parties)
      ∧ ∀ again amount' justification' source',
        Parties.pay (parties.pay client amount justification source).1.2 again amount'
            justification' source'
          = parties.pay again amount' justification' source' := by
  suffices gone : (parties.pay client amount justification source).1 = (.error failure, parties) by
    refine ⟨gone, fun again amount' justification' source' => ?_⟩
    rw [gone]
  cases fails with
  | unprepared refused =>
      unfold pay
      simp only [Draw.eq_outcome refused]
  | unopened begins refused =>
      have drawn := Customer.session_of_preparePayment begins
      obtain ⟨reason, rfl⟩ := Merchant.preparePayment_error refused
      rw [← drawn] at free
      refine (pay_of_refused begins (mask_of_unopened refused)).trans
        (dropRound_of (.of_preparePayment begins) ?_)
      rw [Merchant.failSession_unknown free]
      rfl
  | unserved asks failed =>
      obtain ⟨begins, opens, gives, hands⟩ := asks
      obtain ⟨session, found, updating, closed⟩ := Merchant.updating_of_maskingInput opens hands
      have drops : Merchant.failSession _ _ = .ok ((), _) :=
        Merchant.failSession_eq_ok.2 ⟨session, found, .inr updating, rfl⟩
      refine (pay_of_refused begins (mask_of_unserved opens gives hands failed)).trans
        (dropRound_of ((Customer.Begun.of_preparePayment begins).maskingInput gives) ?_)
      rw [drops]
      exact closed
  | unconfirmed asks served unconfirmed =>
      obtain ⟨begins, opens, gives, hands⟩ := asks
      obtain ⟨session, found, updating, closed⟩ := Merchant.updating_of_maskingInput opens hands
      have refused := Merchant.confirmMasking_false found updating
      rw [closed, ← unconfirmed] at refused
      -- The merchant has dropped the session itself, so it does not know it any more.
      rw [← Customer.session_of_preparePayment begins] at free
      refine (pay_of_refused begins (mask_of_unconfirmed opens gives hands served refused)).trans
        (dropRound_of ((Customer.Begun.of_preparePayment begins).maskingInput gives) ?_)
      rw [Merchant.failSession_unknown free]
      rfl

section Example

open Customer Merchant

-- Unification would compute keys and hashes where comparing their arguments is enough.
attribute [local irreducible] SecretKey.publicKey SignableTx.txid SignableTx.sign
  SignableTx.verifies sha256 hmacSha256

/-- A service that is always late leaves no trace of a payment. -/
theorem failed_masking_leaves_no_trace_patron
    : (Parties.pay ⟨readyPatron, steadyShop.merchant, steadyShop.ledger⟩ ⟨fun _ => .late, 7⟩ 5 none
        patronEntropy).1
      = (.refuse (.service (.timeout 7)),
        ⟨readyPatron, steadyShop.merchant, steadyShop.ledger⟩) := by
  have opens : ∃ response opened,
      (steadyShop.merchant.preparePayment patronRequest).outcome
          ((readyPatron.preparePayment 5 none).rest patronEntropy) = .ok (response, opened)
      ∧ opened.sessions.get? patronRequest.session = some (begunSession patronRequest
          ((readyPatron.preparePayment 5 none).rest patronEntropy))
      ∧ response.session = patronRequest.session :=
    ⟨_, _, Merchant.preparePayment_eq_ok.2
      ⟨Merchant.checkPayment_eq_ok.2 ⟨⟨rfl, rfl⟩, rfl, rfl⟩, rfl, rfl⟩,
      Dict.get?_insert_self _ _ _, rfl⟩
  obtain ⟨response, opened, opens, found, answered⟩ := opens
  have gives : ∃ input committed,
      Customer.maskingInput { readyPatron with pending := some patronRound } response
        = .ok (input, committed) :=
    ⟨_, _, Customer.maskingInput_eq_ok.2
      ⟨rfl, _, rfl, _, rfl, _, rfl, answered.symm, rfl, rfl, rfl⟩⟩
  obtain ⟨_, _, gives⟩ := gives
  have hands := Merchant.maskingInput_eq_ok.2 ⟨_, found, rfl, rfl, rfl⟩
  have asks : Parties.Asks ⟨readyPatron, steadyShop.merchant, steadyShop.ledger⟩ 5 none
      patronEntropy _ :=
    .inputs preparePayment_readyPatron opens gives hands
  exact (failed_masking_leaves_no_trace (.unserved asks rfl) rfl).1

end Example

end Parties

end PaymentChannel
