import PaymentChannel.Customer
import PaymentChannel.Merchant

/-! One payment between a customer and a merchant, step by step.
A payment that fails before the old state is revoked is dropped on both sides. One that fails later
stays with the customer and can be resumed.
-/

namespace PaymentChannel

/-- Both parties of a payment and the ledger of the merchant. -/
structure Parties where
  customer : Customer
  merchant : Merchant
  ledger : Ledger

namespace Parties

/-- What a party does, with the party afterwards; a refusal leaves the party as it was. -/
def afterwards {σ α : Type} (before : σ) : Outcome ChannelError (α × σ)
    → Outcome ChannelError α × σ
  | .ok (answer, after) => (.ok answer, after)
  | .error failure => (.error failure, before)

/-- The masking step of a payment: the merchant opens a session, the service computes and the
merchant releases its masks.
-/
def mask (parties : Parties) (client : ServiceClient) (request : PaymentRequest)
    (source : Entropy)
    : Outcome ChannelError (MaskedOutputs × ReleasedMasks) × Parties × Entropy :=
  match parties.merchant.preparePayment request source with
  | (.error failure, source) => (.error failure, parties, source)
  | (.ok (response, merchant), source) =>
      let parties := { parties with merchant }
      match parties.customer.maskingInput response with
      | .error failure => (.error failure, parties, source)
      | .ok (customerInput, customer) =>
          let parties := { parties with customer }
          match parties.merchant.maskingInput request.session with
          | .error failure => (.error failure, parties, source)
          | .ok (merchantInput, merchant) =>
              let parties := { parties with merchant }
              match client.call ⟨customerInput, merchantInput⟩ with
              | .error reason => (.refuse (.service reason), parties, source)
              | .ok result =>
                  let (released, merchant) :=
                    parties.merchant.confirmMasking request.session result.confirmed
                  (released.map (result.customer, ·), { parties with merchant }, source)

/-- Drops a payment on both sides after its masking was refused. The merchant may not know the
session any more.
-/
def dropRound (parties : Parties) (session : SessionId) (reason : ChannelError)
    : Outcome ChannelError Receipt × Parties :=
  let (_, merchant) := afterwards parties.merchant (parties.merchant.failSession session)
  match parties.customer.abort with
  | .ok (_, customer) => (.refuse reason, { parties with merchant, customer })
  | .error failure => (.error failure, { parties with merchant })

/-- Drops a payment of which the customer refused the signatures. -/
def dropSignatures (parties : Parties) (reason : ChannelError)
    : Outcome ChannelError Receipt × Parties :=
  match parties.customer.abort with
  | .ok (_, customer) => (.refuse reason, { parties with customer })
  | .error failure => (.error failure, parties)

/-- The receipt of a payment that has just ended. -/
def receipt (customer : Customer) (session : SessionId) : Receipt where
  session := session
  nonce := customer.nonce
  customerBalance := customer.balance
  merchantBalance := customer.merchantBalance

/-- The last steps of a payment: the old state is revoked and the new pay token released. -/
def settle (parties : Parties) (session : SessionId)
    : Outcome ChannelError Receipt × Parties :=
  match parties.customer.revoke with
  | .error failure => (.error failure, parties)
  | .ok (revoked, customer) =>
      match parties.merchant.validateRevoked parties.ledger session revoked with
      | (.error failure, merchant, ledger) => (.error failure, ⟨customer, merchant, ledger⟩)
      | (.ok opening, merchant, ledger) =>
          let (token, customer) := customer.acceptToken opening
          (token.map fun _ => receipt customer session, ⟨customer, merchant, ledger⟩)

/-- The steps of a payment from the masked signatures on. -/
def finish (parties : Parties) (session : SessionId) (outputs : MaskedOutputs)
    (released : ReleasedMasks)
    : Outcome ChannelError Receipt × Parties :=
  match parties.customer.acceptSignatures outputs released with
  | (.ok (), customer) => Parties.settle { parties with customer } session
  | (.error (.refused reason), customer) => Parties.dropSignatures { parties with customer } reason
  | (.error (.overflow kind), customer) =>
      (.error (.overflow kind), { parties with customer })

/-- A payment of an amount. -/
def pay (parties : Parties) (client : ServiceClient) (amount : Balance)
    (justification : Option String) (source : Entropy)
    : (Outcome ChannelError Receipt × Parties) × Entropy :=
  match parties.customer.preparePayment amount justification source with
  | (.error failure, source) => ((.error failure, parties), source)
  | (.ok (request, customer), source) =>
      match Parties.mask { parties with customer } client request source with
      | (.ok (outputs, released), parties, source) =>
          (parties.finish request.session outputs released, source)
      | (.error (.refused reason), parties, source) =>
          (parties.dropRound request.session reason, source)
      | (.error (.overflow kind), parties, source) => ((.error (.overflow kind), parties), source)

/-- Ends a payment that stopped after its old state was revoked. -/
def resume (parties : Parties) : Outcome ChannelError Receipt × Parties :=
  match parties.customer.pendingSession with
  | none => (.refuse .noPendingRound, parties)
  | some session => parties.settle session

end Parties

end PaymentChannel
