import PaymentChannel.Proofs.Customer.Operations
import PaymentChannel.Proofs.Merchant.Steps
import PaymentChannel.Proofs.Service

/-! How a payment goes through when every step of it is answered.
Each law puts the answers of some steps together, so the whole payment follows from what the parties
and the service answer one by one.
-/

namespace PaymentChannel

/-- What an operation that draws random bytes makes of a source. -/
theorem Draw.eq_outcome {α : Type} {draw : Draw α} {source : Entropy}
    {outcome : Outcome ChannelError α} (ended : draw.outcome source = outcome)
    : draw source = (outcome, draw.rest source) :=
  Prod.ext ended rfl

namespace Parties

variable {parties : Parties} {client : ServiceClient} {customer : Customer} {merchant : Merchant}
  {ledger : Ledger} {session : SessionId}

/-- The masking step, from the answers of the merchant, the customer and the service. -/
theorem mask_of {request : PaymentRequest} {source : Entropy} {response : PaymentResponse}
    {opened handed confirmed : Merchant} {customerInput : CustomerInput}
    {merchantInput : MerchantInput} {result : MaskingResult} {released : ReleasedMasks}
    (opens : (parties.merchant.preparePayment request).outcome source = .ok (response, opened))
    (gives : parties.customer.maskingInput response = .ok (customerInput, customer))
    (hands : opened.maskingInput request.session = .ok (merchantInput, handed))
    (serves : client.call ⟨customerInput, merchantInput⟩ = .ok result)
    (confirms : handed.confirmMasking request.session result.confirmed = (.ok released, confirmed))
    : parties.mask client request source
      = (.ok (result.customer, released), ⟨customer, confirmed, parties.ledger⟩,
        (parties.merchant.preparePayment request).rest source) := by
  unfold mask
  simp only [Draw.eq_outcome opens, gives, hands, serves, confirms]
  rfl

/-- The last steps, from the answers of both parties. -/
theorem settle_of {revoked : RevokedState} {opening : PayMaskOpening} {token : PayToken}
    {moved : Customer}
    (reveals : parties.customer.revoke = .ok (revoked, moved))
    (opens : parties.merchant.validateRevoked parties.ledger session revoked
      = (.ok opening, merchant, ledger))
    (accepts : moved.acceptToken opening = (.ok token, customer))
    : parties.settle session = (.ok (receipt customer session), ⟨customer, merchant, ledger⟩) := by
  unfold settle
  simp only [reveals, opens, accepts]
  rfl

/-- A payment that is masked and whose signatures are accepted is settled. -/
theorem pay_of {amount : Balance} {justification : Option String} {source rest : Entropy}
    {request : PaymentRequest} {prepared signed : Customer} {masked : Parties}
    {outputs : MaskedOutputs} {released : ReleasedMasks}
    (prepares : (parties.customer.preparePayment amount justification).outcome source
      = .ok (request, prepared))
    (masks : Parties.mask { parties with customer := prepared } client request
        ((parties.customer.preparePayment amount justification).rest source)
      = (.ok (outputs, released), masked, rest))
    (signs : masked.customer.acceptSignatures outputs released = (.ok (), signed))
    : (parties.pay client amount justification source).1
      = Parties.settle { masked with customer := signed } request.session := by
  unfold pay
  simp only [Draw.eq_outcome prepares, masks, finish, signs]

end Parties

end PaymentChannel
